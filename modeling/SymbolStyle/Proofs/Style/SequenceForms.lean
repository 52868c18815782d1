import SymbolStyle.Proofs.Message
import SymbolStyle.Proofs.Style.Respelling

/-! # Lists and tuples

    A sequence is a list or a tuple, and the two are interchangeable: in expressions
    and in the fields of styles, at every depth.

    Only the texts of values tell them apart, and of these only the plain notation.
    Messages use it for values with bytes, which JSON does not have. So two errors
    that show the same value in other forms have the same message as long as no bytes
    are in it.

    * `Respelling.lists`: the spelling with all sequences as lists. Values are the
      same but for the forms of their sequences if this one is the same.
    * `Value.write_asLists`: JSON does not tell lists from tuples.
    * `Style.exists_isPart_of_shown?`: what an error shows stands in a field.
    * `Style.forms_interchangeable`: checking and compiling an expression or a style
      in other forms ends alike.
-/

namespace SymbolStyle

open Value

/-- All sequences as lists. -/
def Respelling.lists : Respelling where
  int := .int
  form _ := .list
  number?_int _ := rfl
  isVacant_int _ := rfl
  scaleLevel_int _ := rfl
  hasLongInt_int _ := rfl
  form_list := rfl

namespace Value

/-- The value with lists for its tuples, at every depth. -/
def asLists (v : Value) : Value := v.respell .lists

/-! ## Texts of values -/

theorem bracket_json (form : SequenceForm) (parts : List (List Char)) :
    bracket .json form parts = bracket .json .list parts := by
  simp [bracket, Spelling.json]

mutual

/-- In JSON a value has the text that it has with lists. -/
theorem write_asLists (v : Value) : (v.respell .lists).write .json = v.write .json := by
  cases v with
  | sequence form items =>
    rw [respell, write, write, writeItems_asLists items, bracket_json form]
    rfl
  | object entries => rw [respell, write, write, writeEntries_asLists entries]
  | _ => rfl

theorem writeItems_asLists (items : List Value) :
    writeItems .json (respellItems .lists items) = writeItems .json items := by
  cases items with
  | nil => rfl
  | cons v items =>
    rw [respellItems, writeItems, writeItems, write_asLists v, writeItems_asLists items]

theorem writeEntries_asLists (entries : List (String × Value)) :
    writeEntries .json (respellEntries .lists entries) = writeEntries .json entries := by
  cases entries with
  | nil => rfl
  | cons entry entries =>
    obtain ⟨name, v⟩ := entry
    rw [respellEntries, writeEntries, writeEntries, write_asLists v,
      writeEntries_asLists entries]

end

mutual

theorem hasBytes_asLists (v : Value) : (v.respell .lists).hasBytes = v.hasBytes := by
  cases v with
  | sequence form items => rw [respell, hasBytes, hasBytes, anyBytes_asLists items]
  | object entries => rw [respell, hasBytes, hasBytes, entriesBytes_asLists entries]
  | _ => rfl

theorem anyBytes_asLists (items : List Value) :
    anyBytes (respellItems .lists items) = anyBytes items := by
  cases items with
  | nil => rfl
  | cons v items =>
    rw [respellItems, anyBytes, anyBytes, hasBytes_asLists v, anyBytes_asLists items]

theorem entriesBytes_asLists (entries : List (String × Value)) :
    entriesBytes (respellEntries .lists entries) = entriesBytes entries := by
  cases entries with
  | nil => rfl
  | cons entry entries =>
    obtain ⟨name, v⟩ := entry
    rw [respellEntries, entriesBytes, entriesBytes, hasBytes_asLists v,
      entriesBytes_asLists entries]

end

/-- A message shows a value without bytes as JSON, and so as it shows its lists. -/
theorem describe?_asLists {v : Value} (h : v.hasBytes = false) :
    (v.respell .lists).describe? = v.describe? := by
  unfold describe?
  rw [hasLongInt_respell, hasBytes_asLists, h, if_neg Bool.false_ne_true, write_asLists]

theorem anyBytes_eq_false_iff {items : List Value} :
    anyBytes items = false ↔ ∀ item ∈ items, item.hasBytes = false := by
  induction items with
  | nil => simp [anyBytes]
  | cons item items ih => simp [anyBytes, ih]

theorem IsPart.hasBytes_eq_false {part v : Value} (h : part.IsPart v) (hv : v.hasBytes = false) :
    part.hasBytes = false := by
  induction h with
  | refl => exact hv
  | item hmem _ ih =>
    rw [hasBytes, anyBytes_eq_false_iff] at hv
    exact ih (hv _ hmem)

end Value

/-! ## Errors that differ in forms -/

namespace ExpressionError

/-- The message does not depend on forms if it quotes no bytes. -/
theorem message?_asLists {e : ExpressionError} (h : e.quoted.hasBytes = false) :
    (e.respell .lists).message? = e.message? := by
  have hdescribe : (e.respell .lists).quoted.describe? = e.quoted.describe? := by
    rw [quoted_respell, describe?_asLists h]
  cases e with
  | colorText text => rfl
  | _ => exact congrArg (Option.bind · _) hdescribe

/-- The errors are of one class and differ only in the forms of the sequences that
    they name, and if what they are about is plain, they have one message. -/
structure SameButForms (plain : Prop) (e e' : ExpressionError) : Prop where
  respell : e.respell .lists = e'.respell .lists
  errorClass : e.errorClass = e'.errorClass
  expression : e.expression.asLists = e'.expression.asLists
  message? : plain → e.message? = e'.message?

theorem sameButForms_of_respell {plain : Prop} {e e' : ExpressionError}
    (h : e.respell .lists = e'.respell .lists) (hplain : plain → e.quoted.hasBytes = false) :
    e.SameButForms plain e' := by
  refine ⟨h, errorClass_eq_of_respell h, ?_, ?_⟩
  · rw [asLists, ← expression_respell, h, expression_respell]
    rfl
  · intro hp
    -- Bytes stand in both errors or in neither.
    have hquoted : e'.quoted.hasBytes = false := by
      rw [← hasBytes_asLists, ← quoted_respell, ← h, quoted_respell, hasBytes_asLists]
      exact hplain hp
    rw [← message?_asLists (hplain hp), h, message?_asLists hquoted]

end ExpressionError

/-- The faults are errors in expressions that differ only in forms. -/
inductive Fault.SameButForms (plain : Prop) : Fault → Fault → Prop
  | expression {e e' : ExpressionError} (h : e.SameButForms plain e') :
      SameButForms plain (.expression e) (.expression e')

namespace Value

variable {v w : Value}

theorem validate_of_asLists (h : v.asLists = w.asLists) :
    EndAlike (ExpressionError.SameButForms (v.hasBytes = false)) v.validate w.validate := by
  apply EndAlike.of_mapError_eq (validate_of_respell h)
  intro e e' hvalid _ herror
  have hpart := (blames_of_validate_eq_error hvalid).quoted
  exact ExpressionError.sameButForms_of_respell herror hpart.hasBytes_eq_false

theorem compile_of_asLists (h : v.asLists = w.asLists) (stem : String) (wanted : Option Kind)
    (names : Names) : EndAlike (Fault.SameButForms (v.hasBytes = false))
      (v.compile stem wanted names) (w.compile stem wanted names) := by
  apply EndAlike.of_mapError_eq (compile_of_respell h stem wanted names)
  intro fault fault' hfault hfault' herror
  -- Compiling fails with errors in expressions only.
  obtain ⟨e, rfl, hpoints⟩ := pointsInto_of_compile hfault
  obtain ⟨e', rfl, -⟩ := pointsInto_of_compile hfault'
  exact .expression (ExpressionError.sameButForms_of_respell (Fault.expression.inj herror)
    hpoints.quoted.hasBytes_eq_false)

end Value

namespace StyleError

/-- What the message for the error shows of the fields of a style. -/
def shown? : StyleError → Option Value
  | components _ _ found | wrongKind _ found _ => some found
  | expression e | fault (.expression e) => some e.quoted
  | noSymbol | fault (.conversion _) | unsupportedSymbol _ | unwritableSource _ => none

theorem shown?_respell {r : Respelling} (e : StyleError) :
    (e.respell r).shown? = e.shown?.map (Value.respell r) := by
  cases e with
  | expression e => exact congrArg some e.quoted_respell
  | fault f =>
    cases f with
    | expression e => exact congrArg some e.quoted_respell
    | conversion e => rfl
  | _ => rfl

/-- The message does not depend on forms if it shows no bytes. -/
theorem message?_asLists {e : StyleError} (h : ∀ v, e.shown? = some v → v.hasBytes = false) :
    (e.respell .lists).message? = e.message? := by
  cases e with
  | components field count found =>
    simp only [respell, message?, describe?_asLists (h found rfl)]
  | wrongKind slot found actual =>
    simp only [respell, message?, describe?_asLists (h found rfl)]
  | expression e => exact e.message?_asLists (h _ rfl)
  | fault f =>
    cases f with
    | expression e => exact e.message?_asLists (h _ rfl)
    | conversion e => rfl
  | _ => rfl

/-- The errors are of one class and differ only in the forms of the sequences that
    they show, and if what they are about is plain, they have one message. -/
structure SameButForms (plain : Prop) (e e' : StyleError) : Prop where
  respell : e.respell .lists = e'.respell .lists
  errorClass : e.errorClass = e'.errorClass
  message? : plain → e.message? = e'.message?

theorem sameButForms_of_respell {plain : Prop} {e e' : StyleError}
    (h : e.respell .lists = e'.respell .lists)
    (hplain : plain → ∀ v, e.shown? = some v → v.hasBytes = false) : e.SameButForms plain e' := by
  refine ⟨h, errorClass_eq_of_respell h, ?_⟩
  intro hp
  have hshown : ∀ v, e'.shown? = some v → v.hasBytes = false := by
    intro v hv
    have hmap : e.shown?.map (Value.respell .lists) = some (v.respell .lists) := by
      rw [← shown?_respell, h, shown?_respell, hv, Option.map_some]
    obtain ⟨u, hu, heq⟩ := Option.map_eq_some_iff.1 hmap
    rw [← hasBytes_asLists, ← heq, hasBytes_asLists]
    exact hplain hp u hu
  rw [← message?_asLists (hplain hp), h, message?_asLists hshown]

end StyleError

namespace Style

/-- What an error about a style shows is part of what stands in a field. -/
theorem exists_isPart_of_shown? {style part : Value} {e : StyleError}
    (h : (compile style).result = .error e) (hshown : e.shown? = some part) :
    ∃ field v, fieldIn? style field = some v ∧ part.IsPart v := by
  cases hsymbol : Fields.symbol? style with
  | none =>
    rw [result_eq_resultOf, hsymbol] at h
    obtain rfl := Except.error.inj h
    cases hshown
  | some symbol =>
    cases hfields : Fields.ofSymbol style symbol with
    | error cause =>
      rw [result_eq_resultOf, hsymbol, Option.elim_some, hfields] at h
      obtain rfl := Except.error.inj h
      obtain ⟨field, count, v, hfirst, rfl⟩ := (ofSymbol_eq_error_iff hsymbol).1 hfields
      obtain rfl := Option.some.inj hshown
      exact ⟨field, v, hfirst.fieldIn?_eq_some, .refl⟩
    | ok fields =>
      -- Of the errors that are left only those about an expression show anything.
      have hhas := hasFields_of_fields? (fields?_eq_some_iff.2 ⟨symbol, hsymbol, hfields⟩)
      rcases (result_eq_error_iff_of_fields hsymbol hfields).1 h with
        hcheck | ⟨-, hshape | ⟨shape, -, htexture⟩⟩
      · obtain ⟨before, slot, item, after, hslots, -, hreason⟩ := checkAll_eq_error_iff.1 hcheck
        have hmem : (slot, item) ∈ slots fields := by simp [hslots]
        obtain ⟨v, hfield, hpart⟩ := exists_isPart_of_mem_slots hhas hmem
        cases hreason with
        | expression hvalid =>
          obtain rfl := Option.some.inj hshown
          exact ⟨_, v, hfield, (blames_of_validate_eq_error hvalid).quoted.trans hpart⟩
        | wrongKind _ _ =>
          obtain rfl := Option.some.inj hshown
          exact ⟨_, v, hfield, hpart⟩
      · obtain ⟨-, rfl⟩ := shapeOf_eq_error_iff.1 hshape
        cases hshown
      · rcases textureOf_cases fields shape with
          ⟨-, heq⟩ | ⟨source, -, -, ⟨text, -, heq⟩ | ⟨-, heq⟩⟩
        · rw [heq] at htexture
          cases htexture
        · rw [heq] at htexture
          cases htexture
        · rw [heq] at htexture
          obtain rfl := Except.error.inj htexture
          cases hshown

/-- No field of the style is given bytes, at any depth. -/
def IsFreeOfBytes (style : Value) : Prop :=
  ∀ field v, givenFor? style field = some v → v.hasBytes = false

/-- No default holds bytes either. -/
theorem hasBytes_of_fieldIn? {style v : Value} {field : Field} (hstyle : IsFreeOfBytes style)
    (h : fieldIn? style field = some v) : v.hasBytes = false := by
  rcases fieldIn?_cases h with hgiven | hdefault
  · exact hstyle field v hgiven
  · cases field <;> cases hdefault <;> rfl

theorem result_of_asLists {style other : Value} (h : SpellsSame .lists style other) :
    EndAlike (StyleError.SameButForms (IsFreeOfBytes style)) (compile style).result
      (compile other).result := by
  apply EndAlike.of_mapError_eq (result_of_spellsSame h)
  intro e e' hresult _ herror
  apply StyleError.sameButForms_of_respell herror
  intro hstyle v hshown
  obtain ⟨field, whole, hfield, hpart⟩ := exists_isPart_of_shown? hresult hshown
  exact hpart.hasBytes_eq_false (hasBytes_of_fieldIn? hstyle hfield)

/-! ## Lists for tuples -/

/-- Values that differ only in which of their sequences are lists and which are tuples
    have one kind. They are checked and compiled alike: to the same code and the
    same names, or with errors that differ in such forms only. So are styles whose
    fields are given such values. -/
theorem forms_interchangeable :
    (∀ v w : Value, v.asLists = w.asLists →
      v.kind = w.kind ∧
      EndAlike (ExpressionError.SameButForms (v.hasBytes = false)) v.validate w.validate ∧
      ∀ stem wanted names, EndAlike (Fault.SameButForms (v.hasBytes = false))
        (v.compile stem wanted names) (w.compile stem wanted names)) ∧
    ∀ style other : Value, SpellsSame .lists style other →
      EndAlike (StyleError.SameButForms (IsFreeOfBytes style)) (compile style).result
        (compile other).result := by
  refine ⟨?_, fun style other => result_of_asLists⟩
  intro v w h
  exact ⟨kind_eq_of_respell h, validate_of_asLists h, compile_of_asLists h⟩

/-- A ratio of which the second part is no number. -/
def ratioToPair (form : SequenceForm) : Value :=
  .sequence form [.string "/", .sequence form [.string "get", .string "width"],
    .sequence form [.int 2, .int 3]]

/-- A circle with two components for its size and three for its color. -/
def tintedCircle (form : SequenceForm) : Value :=
  .object [("symbol", .object [("symbolType", .string "circle"),
    ("size", .sequence form [.int 8, .sequence form [.string "get", .string "height"]]),
    ("color", .sequence form [.int 255, .int 128, .int 0])])]

/-- The ratio is refused in both forms, and the circle is compiled in both. -/
theorem tuples_as_lists :
    ((ratioToPair .tuple).asLists = (ratioToPair .list).asLists ∧
      (ratioToPair .tuple).hasBytes = false ∧
      EndAlike (ExpressionError.SameButForms ((ratioToPair .tuple).hasBytes = false))
        (ratioToPair .tuple).validate (ratioToPair .list).validate) ∧
    SpellsSame .lists (tintedCircle .tuple) (tintedCircle .list) ∧
      ∃ compiled, (compile (tintedCircle .tuple)).result = .ok compiled ∧
        (compile (tintedCircle .list)).result = .ok compiled := by
  have hvalue : (ratioToPair .tuple).asLists = (ratioToPair .list).asLists := rfl
  have hstyle : SpellsSame .lists (tintedCircle .tuple) (tintedCircle .list) := by
    refine ⟨rfl, ?_, ?_, rfl⟩
    · intro field
      cases field <;> rfl
    · simp only [List.forall_mem_cons, List.not_mem_nil, false_implies, implies_true, and_true]
      exact ⟨rfl, rfl, rfl⟩
  obtain ⟨compiled, hcompile⟩ : ∃ compiled, (compile (tintedCircle .tuple)).result = .ok compiled :=
    exists_ok_of_isOk (by decide +kernel)
  obtain ⟨hvalues, hstyles⟩ := forms_interchangeable
  refine ⟨⟨hvalue, rfl, (hvalues _ _ hvalue).2.1⟩, hstyle, compiled, hcompile, ?_⟩
  exact (hstyles _ _ hstyle).eq_ok_iff.1 hcompile

end Style

end SymbolStyle

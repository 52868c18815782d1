import SymbolStyle.Proofs.Compilation
import SymbolStyle.Proofs.Glsl.Literal

/-! # Other spellings of a value

    A value can be spelt in several ways that mean the same to the library: a
    sequence as a list or as a tuple, a number as a whole number or as a double.

    A respelling turns the whole numbers and the forms of sequences in a value into
    others, at every depth. What it has to leave as it is are the observations
    that the library makes of a whole number, and they are its laws. Two values are
    spellings of the same if a respelling makes them equal.

    * `Value.validate_respell`, `Value.compile_respell`: a value that is spelt anew
      is checked and compiled as before. Only an error differs, in the values that
      it shows, and these are spelt anew.
    * `ErrorClass`: how errors are told apart by who catches them.
      `ExpressionError.errorClass_respell`: not by the spelling.
-/

namespace SymbolStyle

open Value
open Glsl (Expr Literal)

/-! ## Respelling -/

/-- Other ways to write whole numbers and sequences. -/
structure Respelling where
  /-- What a whole number is written as. -/
  int : Int → Value
  /-- What a sequence is written as. -/
  form : SequenceForm → SequenceForm
  /-- A whole number becomes a number, and it has the same double. -/
  number?_int : ∀ n, (int n).number? = some (.ofInt n)
  /-- Zero stays zero. -/
  isVacant_int : ∀ n, (int n).isVacant = (Value.int n).isVacant
  /-- As a level of a color the number is rounded in the same way. -/
  scaleLevel_int : ∀ n, Glsl.scaleLevel (int n) = Glsl.scaleLevel (.int n)
  /-- What is too long to be written stays too long. -/
  hasLongInt_int : ∀ n, (int n).hasLongInt = (Value.int n).hasLongInt
  /-- Errors show lists, and these stay lists. -/
  form_list : form .list = .list

namespace Value

mutual

/-- The value in another spelling. -/
def respell (r : Respelling) : Value → Value
  | .int n => r.int n
  | .sequence form items => .sequence (r.form form) (respellItems r items)
  | .object entries => .object (respellEntries r entries)
  | .null => .null
  | .bool b => .bool b
  | .float x => .float x
  | .string s => .string s
  | .bytes bs => .bytes bs

/-- Several values in another spelling. -/
def respellItems (r : Respelling) : List Value → List Value
  | [] => []
  | v :: vs => respell r v :: respellItems r vs

/-- Entries in another spelling. -/
def respellEntries (r : Respelling) : List (String × Value) → List (String × Value)
  | [] => []
  | (name, v) :: rest => (name, respell r v) :: respellEntries r rest

end

variable {r : Respelling}

theorem respellItems_eq_map (items : List Value) :
    respellItems r items = items.map (respell r) := by
  induction items with
  | nil => rfl
  | cons v items ih => rw [respellItems, ih, List.map_cons]

@[simp] theorem respell_int (n : Int) : (Value.int n).respell r = r.int n := rfl

@[simp] theorem respell_float (x : Double) : (Value.float x).respell r = .float x := rfl

@[simp] theorem respell_string (text : String) : (Value.string text).respell r = .string text := rfl

@[simp] theorem respell_sequence (form : SequenceForm) (items : List Value) :
    (Value.sequence form items).respell r = .sequence (r.form form) (items.map (respell r)) := by
  rw [respell, respellItems_eq_map]

/-! ### What is observed of a value -/

@[simp] theorem number?_respell (v : Value) : (v.respell r).number? = v.number? := by
  cases v with
  | int n => exact r.number?_int n
  | _ => rfl

@[simp] theorem isNumber_respell (v : Value) : (v.respell r).isNumber = v.isNumber := by
  rw [isNumber_eq_isSome_number?, isNumber_eq_isSome_number?, number?_respell]

@[simp] theorem isFiniteNumber_respell (v : Value) :
    (v.respell r).isFiniteNumber = v.isFiniteNumber := by
  rw [isFiniteNumber, isFiniteNumber, number?_respell]

/-- A whole number stays a number, and so it is no sequence and no text. -/
theorem respell_int_cases (n : Int) :
    (∃ m, r.int n = .int m ∧ Double.ofInt m = .ofInt n) ∨ r.int n = .float (.ofInt n) := by
  rcases Glsl.number?_eq_some (r.number?_int n) with ⟨m, hm, heq⟩ | hfloat
  · exact .inl ⟨m, hm, heq.symm⟩
  · exact .inr hfloat

theorem respell_eq_string_iff {v : Value} {text : String} :
    v.respell r = .string text ↔ v = .string text := by
  cases v with
  | int n => rcases respell_int_cases (r := r) n with ⟨m, hm, -⟩ | hfloat <;> simp [*]
  | sequence form items => simp
  | _ => simp [respell]

theorem respell_ne_sequence {v : Value} (hv : ∀ form items, v ≠ .sequence form items)
    (form : SequenceForm) (items : List Value) : v.respell r ≠ .sequence form items := by
  cases v with
  | int n => rcases respell_int_cases (r := r) n with ⟨m, hm, -⟩ | hfloat <;> simp [*]
  | sequence form items => exact absurd rfl (hv form items)
  | _ => simp [respell]

/-- A text at the head of items was there before. -/
theorem head_of_map_respell {items operands : List Value} {tag : String}
    (h : items.map (respell r) = .string tag :: operands) :
    ∃ rest, items = .string tag :: rest := by
  obtain ⟨head, rest, rfl, htag, -⟩ := List.map_eq_cons_iff.1 h
  exact ⟨rest, by rw [respell_eq_string_iff.1 htag]⟩

@[simp] theorem items?_respell (v : Value) :
    (v.respell r).items? = v.items?.map (List.map (respell r)) := by
  cases v with
  | int n => rcases respell_int_cases (r := r) n with ⟨m, hm, -⟩ | hfloat <;> simp [items?, *]
  | sequence form items => simp [items?]
  | _ => rfl

@[simp] theorem isVacant_respell (v : Value) : (v.respell r).isVacant = v.isVacant := by
  cases v with
  | int n => exact r.isVacant_int n
  | sequence form items => simp [isVacant]
  | object entries => cases entries <;> rfl
  | _ => rfl

theorem given?_respell (v : Value) : (v.respell r).given? = v.given?.map (respell r) := by
  rw [given?, given?, isVacant_respell]
  split <;> rfl

/-! ### Kinds -/

@[simp] theorem areChannels_respell (items : List Value) :
    areChannels (items.map (respell r)) = areChannels items := by
  have hnumbers : (isNumber ∘ respell r) = isNumber := funext isNumber_respell
  rw [areChannels, areChannels, List.length_map, List.all_map, hnumbers]

@[simp] theorem headKind_respell (items : List Value) :
    headKind (items.map (respell r)) = headKind items := by
  cases items with
  | nil => rfl
  | cons head operands =>
    by_cases htext : ∃ tag, head = .string tag
    · obtain ⟨tag, rfl⟩ := htext
      rfl
    · have hunknown : ∀ {head : Value} {operands : List Value}, (∀ tag, head ≠ .string tag) →
          headKind (head :: operands) = .unknown := by
        intro head operands hhead
        unfold headKind
        split
        · next tag _ heq => exact absurd (List.cons.inj heq).1 (hhead tag)
        · rfl
      rw [not_exists] at htext
      rw [List.map_cons, hunknown htext, hunknown]
      intro tag heq
      exact htext tag (respell_eq_string_iff.1 heq)

@[simp] theorem kind_respell (v : Value) : (v.respell r).kind = v.kind := by
  cases v with
  | int n => exact kind_of_isNumber (isNumber_respell (.int n))
  | sequence form items => simp [kind]
  | _ => rfl

end Value

/-! ## Errors that are spelt anew -/

/-- The error about a value, about the value in another spelling. -/
def ExpressionError.respell (r : Respelling) : ExpressionError → ExpressionError
  | untyped v => untyped (v.respell r)
  | unknownOperator v => unknownOperator (v.respell r)
  | arityMismatch op given v => arityMismatch op given (v.respell r)
  | operandKind op position expected operand actual =>
    operandKind op position expected (operand.respell r) actual
  | nonFinite number v => nonFinite (number.respell r) (v.respell r)
  | colorText text => colorText text
  | colorValue v => colorValue (v.respell r)
  | channelCount v => channelCount (v.respell r)
  | vectorSize components => vectorSize (components.map (Value.respell r))

/-- The fault of a value, of the value in another spelling. -/
def Fault.respell (r : Respelling) : Fault → Fault
  | .expression e => .expression (e.respell r)
  | .conversion e => .conversion e

namespace ExpressionError

variable {r : Respelling}

theorem expression_respell (e : ExpressionError) :
    (e.respell r).expression = e.expression.respell r := by
  cases e with
  | vectorSize components => simp [ExpressionError.respell, expression, r.form_list]
  | _ => rfl

theorem quoted_respell (e : ExpressionError) : (e.respell r).quoted = e.quoted.respell r := by
  cases e with
  | vectorSize components => exact expression_respell (.vectorSize components)
  | _ => rfl

end ExpressionError

/-! ## Checking -/

theorem mapError_bind {ε ε' α β : Type} (x : Except ε α) (f : α → Except ε β) (g : ε → ε') :
    (x >>= f).mapError g = x.mapError g >>= fun a => (f a).mapError g := by
  cases x <;> rfl

namespace Value

variable {r : Respelling}

theorem findNonFinite?_respell (items : List Value) :
    findNonFinite? (items.map (respell r)) = (findNonFinite? items).map (respell r) := by
  have hpredicate : (fun v : Value => v.isNumber && !v.isFiniteNumber) ∘ respell r
      = fun v => v.isNumber && !v.isFiniteNumber := by
    funext v
    simp
  rw [findNonFinite?, findNonFinite?, List.find?_map, hpredicate]

theorem validatePlain_respell (v : Value) (numbers : List Value) :
    validatePlain (v.respell r) (numbers.map (respell r))
      = (validatePlain v numbers).mapError (ExpressionError.respell r) := by
  unfold validatePlain
  rw [findNonFinite?_respell, kind_respell]
  cases findNonFinite? numbers with
  | some number => rfl
  | none =>
    by_cases hkind : v.kind = .unknown
    · simp only [hkind, if_true, Option.map_none]
      rfl
    · simp only [hkind, if_false, Option.map_none]
      rfl

/-- Operands are checked as before if each of them is. -/
theorem validateOperands_respell {op : Operator} {operands : List Value}
    (h : ∀ operand ∈ operands,
      (operand.respell r).validate = operand.validate.mapError (ExpressionError.respell r))
    (position : Nat) (signature : List Kind) :
    validateOperands op position signature (operands.map (respell r))
      = (validateOperands op position signature operands).mapError (ExpressionError.respell r) := by
  induction operands generalizing position signature with
  | nil => cases signature <;> simp [validateOperands, Except.mapError]
  | cons operand operands ih =>
    cases signature with
    | nil => simp [validateOperands, Except.mapError]
    | cons expected signature =>
      rw [List.forall_mem_cons] at h
      rw [List.map_cons, validateOperands, validateOperands, mapError_bind, h.1, kind_respell]
      congr 1
      funext u
      by_cases haccepts : expected.accepts operand.kind
      · rw [if_pos haccepts, if_pos haccepts, ih h.2]
      · rw [if_neg haccepts, if_neg haccepts]
        rfl

/-- A value that is spelt anew is checked as before. -/
theorem validate_respell (v : Value) :
    (v.respell r).validate = v.validate.mapError (ExpressionError.respell r) := by
  induction v using Value.induction_on_items with
  | step v ih =>
    by_cases hsequence : ∃ form items, v = .sequence form items
    · obtain ⟨form, items, rfl⟩ := hsequence
      have hitems := ih form items rfl
      rw [respell_sequence]
      by_cases hhead : ∃ tag operands, items = .string tag :: operands
      · obtain ⟨tag, operands, rfl⟩ := hhead
        rw [List.map_cons, respell_string, validate, validate]
        cases htag : Operator.ofTag? tag with
        | none => simp [Except.mapError, ExpressionError.respell]
        | some op =>
          simp only [List.length_map]
          by_cases hlength : operands.length = op.arity
          · simp only [hlength, ne_eq, not_true_eq_false, if_false]
            apply validateOperands_respell
            intro operand hmem
            exact hitems operand (List.mem_cons_of_mem _ hmem)
          · simp [hlength, Except.mapError, ExpressionError.respell]
      · have hhead' : ∀ tag operands, items.map (respell r) ≠ .string tag :: operands := by
          intro tag operands heq
          obtain ⟨rest, rfl⟩ := head_of_map_respell heq
          exact hhead ⟨tag, rest, rfl⟩
        rw [validate_sequence_of_head hhead', validate_sequence_of_head (by simpa using hhead),
          ← respell_sequence, validatePlain_respell]
    · have hv : ∀ form items, v ≠ .sequence form items := by simpa using hsequence
      rw [validate_of_not_sequence hv, validate_of_not_sequence (respell_ne_sequence hv)]
      exact validatePlain_respell v [v]

/-! ## Lowering -/

/-- A number has the same literal. -/
theorem literalOf_respell {v : Value} {l : Literal} (hv : v.isNumber)
    (h : Glsl.literalOf v = .ok l) : Glsl.literalOf (v.respell r) = .ok l := by
  rw [isNumber_eq_isSome_number?] at hv
  obtain ⟨x, hx⟩ := Option.isSome_iff_exists.1 hv
  have hx' : (v.respell r).number? = some x := by rw [number?_respell, hx]
  rw [Glsl.literalOf_eq_ok_iff hx] at h
  rwa [Glsl.literalOf_eq_ok_iff hx']

theorem scaleLevel_respell {v : Value} (hv : v.isNumber) :
    Glsl.scaleLevel (v.respell r) = Glsl.scaleLevel v := by
  cases v with
  | int n => exact r.scaleLevel_int n
  | float x => rfl
  | _ => cases hv

theorem mapM_scaleLevel_respell {items : List Value} (hitems : ∀ item ∈ items, item.isNumber) :
    (items.map (respell r)).mapM Glsl.scaleLevel = items.mapM Glsl.scaleLevel := by
  induction items with
  | nil => rfl
  | cons item items ih =>
    rw [List.forall_mem_cons] at hitems
    rw [List.map_cons, List.mapM_cons, List.mapM_cons, scaleLevel_respell hitems.1, ih hitems.2]

theorem mapM_literalOf_respell {items : List Value} {literals : List Literal}
    (hitems : ∀ item ∈ items, item.isNumber) (h : items.mapM Glsl.literalOf = .ok literals) :
    (items.map (respell r)).mapM Glsl.literalOf = .ok literals := by
  induction items generalizing literals with
  | nil => exact h
  | cons item items ih =>
    rw [List.forall_mem_cons] at hitems
    obtain ⟨l, ls, hitem, hrest, rfl⟩ := mapM_cons_eq_ok_iff.1 h
    exact mapM_cons_eq_ok_iff.2
      ⟨l, ls, literalOf_respell hitems.1 hitem, ih hitems.2 hrest, rfl⟩

/-- Of the components of a vector only numbers matter, and so it is the same if some
    of them are spelt anew. -/
theorem vectorOf_respell {levels items : List Value} {tree : Expr}
    (hitems : ∀ item ∈ items, item.isNumber) (h : Glsl.vectorOf (levels ++ items) = .ok tree) :
    Glsl.vectorOf (levels ++ items.map (respell r)) = .ok tree := by
  unfold Glsl.vectorOf at h ⊢
  have hlength : (levels ++ items.map (respell r)).length = (levels ++ items).length := by simp
  rw [hlength]
  cases hvector : Glsl.Function.vector? (levels ++ items).length with
  | none =>
    rw [hvector] at h
    cases h
  | some constructor =>
    rw [hvector] at h
    obtain ⟨literals, hliterals, htree⟩ := bind_eq_ok_iff.1 h
    obtain ⟨front, back, hfront, hback, rfl⟩ := mapM_append_eq_ok_iff.1 hliterals
    exact bind_eq_ok_iff.2 ⟨_, mapM_append_eq_ok_iff.2
      ⟨front, back, hfront, mapM_literalOf_respell hitems hback, rfl⟩, htree⟩

/-- The channels of a color have the same constant. -/
theorem colorOf_respell {form : SequenceForm} {items : List Value} {tree : Expr}
    (hitems : areChannels items) (h : Glsl.colorOf (.sequence form items) = .ok tree) :
    Glsl.colorOf ((Value.sequence form items).respell r) = .ok tree := by
  simp only [areChannels, Bool.and_eq_true, Bool.or_eq_true, decide_eq_true_eq,
    List.all_eq_true] at hitems
  obtain ⟨hcount, hnumbers⟩ := hitems
  have hnumbers' : ∀ item ∈ items.map (respell r), item.isNumber := by simpa using hnumbers
  rw [Glsl.colorOf_of_count (Glsl.channels_of_isNumber form hnumbers) hcount] at h
  rw [respell_sequence, Glsl.colorOf_of_count (Glsl.channels_of_isNumber _ hnumbers')
    (by simpa using hcount), ← List.map_take,
    mapM_scaleLevel_respell fun item hmem => hnumbers item (List.mem_of_mem_take hmem)]
  obtain ⟨levels, hlevels, hvector⟩ := bind_eq_ok_iff.1 h
  refine bind_eq_ok_iff.2 ⟨levels, hlevels, ?_⟩
  unfold Glsl.alphaOf at hvector ⊢
  rw [List.length_map]
  by_cases hthree : items.length = 3
  · -- The alpha that is added is not one of the items.
    rwa [if_pos hthree] at hvector ⊢
  · rw [if_neg hthree] at hvector ⊢
    rw [← List.map_drop]
    exact vectorOf_respell (fun item hmem => hnumbers item (List.mem_of_mem_drop hmem)) hvector

end Value

/-- A value that is spelt anew is lowered to the same tree. -/
theorem Lowers.respell {r : Respelling} {v : Value} {k : Kind} {wanted : Option Kind} {tree : Expr}
    (h : Lowers v k wanted tree) : Lowers (v.respell r) k wanted tree := by
  induction h with
  | number hv hl => exact .number (by simpa using hv) (literalOf_respell hv hl)
  | text hk hw => exact .text hk hw
  | colorText hw hreads hcolor => exact .colorText hw hreads hcolor
  | channels hitems hcolor =>
    have hcolor' := colorOf_respell (r := r) hitems hcolor
    rw [respell_sequence] at hcolor' ⊢
    exact .channels (by simpa using hitems) hcolor'
  | get =>
    rw [respell_sequence]
    exact .get
  | var =>
    rw [respell_sequence]
    exact .var
  | time =>
    rw [respell_sequence]
    exact .time
  | not _ htree iha =>
    rw [respell_sequence]
    exact .not iha htree
  | two hop _ _ htree iha ihb =>
    rw [respell_sequence]
    exact .two hop iha ihb htree
  | three hop _ _ _ htree iha ihb ihc =>
    rw [respell_sequence]
    exact .three hop iha ihb ihc htree
  | stretch _ _ _ _ _ htree ihx ihlow ihhigh ihnewLow ihnewHigh =>
    rw [respell_sequence]
    exact .stretch ihx ihlow ihhigh ihnewLow ihnewHigh htree
  | interpolate _ hk _ hk' _ htree ihratio ihstart ihstop =>
    rw [respell_sequence]
    exact .interpolate ihratio hk ihstart hk' ihstop htree

namespace Value

variable {r : Respelling}

theorem readingsOfAll_respell {operands : List Value}
    (h : ∀ operand ∈ operands, (operand.respell r).readings = operand.readings) :
    readingsOfAll (operands.map (respell r)) = readingsOfAll operands := by
  induction operands with
  | nil => rfl
  | cons operand operands ih =>
    rw [List.forall_mem_cons] at h
    rw [List.map_cons, readingsOfAll, readingsOfAll, h.1, ih h.2]

theorem readings_of_unknown {form : SequenceForm} {tag : String} {operands : List Value}
    (h : Operator.ofTag? tag = none) :
    (Value.sequence form (.string tag :: operands)).readings = [] := by
  unfold readings
  rw [h]

/-- An application that is not to a single text reads what its operands read. -/
theorem readings_of_not_text {form : SequenceForm} {op : Operator} {operands : List Value}
    (h : ∀ name, operands ≠ [.string name]) :
    (Value.sequence form (.string op.tag :: operands)).readings
      = op.arrange (readingsOfAll operands) := by
  unfold readings
  rw [Operator.ofTag?_tag]
  split
  · next name _ => exact absurd rfl (h name)
  · next name _ => exact absurd rfl (h name)
  · next heq _ _ => rw [Option.some.inj heq]
  · next heq => cases heq

/-- A value that is spelt anew reads the same. -/
theorem readings_respell (v : Value) : (v.respell r).readings = v.readings := by
  induction v using Value.induction_on_items with
  | step v ih =>
    by_cases happlication : ∃ form tag operands, v = .sequence form (.string tag :: operands)
    · obtain ⟨form, tag, operands, rfl⟩ := happlication
      rw [respell_sequence, List.map_cons, respell_string]
      cases htag : Operator.ofTag? tag with
      | none => rw [readings_of_unknown htag, readings_of_unknown htag]
      | some op =>
        obtain rfl := Operator.tag_of_ofTag? htag
        by_cases htext : ∃ name, operands = [.string name]
        · obtain ⟨name, rfl⟩ := htext
          unfold readings
          rfl
        · have htext' : ∀ name, operands.map (respell r) ≠ [.string name] := by
            intro name heq
            obtain ⟨operand, rfl, hname⟩ := List.map_eq_singleton_iff.1 heq
            exact htext ⟨name, by rw [respell_eq_string_iff.1 hname]⟩
          rw [readings_of_not_text htext', readings_of_not_text (by simpa using htext),
            readingsOfAll_respell fun operand hmem =>
              ih form _ rfl operand (List.mem_cons_of_mem _ hmem)]
    · have hv : ∀ form tag operands, v ≠ .sequence form (.string tag :: operands) := by
        simpa using happlication
      rw [readings_of_not_application hv, readings_of_not_application]
      intro form tag operands heq
      by_cases hsequence : ∃ form items, v = .sequence form items
      · obtain ⟨form', items, rfl⟩ := hsequence
        rw [respell_sequence] at heq
        obtain ⟨rest, rfl⟩ := head_of_map_respell (sequence.inj heq).2
        exact hv form' tag rest rfl
      · exact respell_ne_sequence (by simpa using hsequence) _ _ heq

/-- A value that is spelt anew is compiled as before. -/
theorem compile_respell (v : Value) (stem : String) (wanted : Option Kind) (names : Names) :
    (v.respell r).compile stem wanted names
      = (v.compile stem wanted names).mapError (Fault.respell r) := by
  cases hvalid : v.validate with
  | error e =>
    have hvalid' : (v.respell r).validate = .error (e.respell r) := by
      rw [validate_respell, hvalid]
      rfl
    rw [compile_of_validate_error hvalid, compile_of_validate_error hvalid']
    rfl
  | ok u =>
    have hvalid' : (v.respell r).validate = .ok () := by
      rw [validate_respell, hvalid]
      rfl
    by_cases hplace : v.IsMisplacedText wanted
    · obtain ⟨text, rfl, -⟩ := id hplace
      rw [respell_string, compile_of_isMisplacedText hplace]
      rfl
    · obtain ⟨tree, hlowers⟩ := (v.validate_eq_ok_iff.1 hvalid).exists_lowers hplace
      rw [compile_of_lowers hvalid hlowers, compile_of_lowers hvalid' hlowers.respell,
        readings_respell]
      rfl

end Value

/-! ## Errors by their classes -/

/-- What an error is caught as. -/
inductive ErrorClass where
  | untyped
  | unknownOperator
  | arityMismatch
  | typeMismatch
  | invalidNumber
  | malformedColor
  | invalidStyle
  | unsupportedSymbol
  | overflow
  /-- A value of the right type that cannot be used. -/
  | unusable
  /-- A value of the wrong type for a number. -/
  | wrongType
  deriving DecidableEq

/-- The class of an error with a message. Where the message cannot be written, it is
    this failure that is seen. -/
def ErrorClass.worded (message? : Option String) (errorClass : ErrorClass) : ErrorClass :=
  if message?.isSome then errorClass else .unusable

/-- The class of an error in an expression. -/
def ExpressionError.errorClass (e : ExpressionError) : ErrorClass :=
  .worded e.message? <| match e with
    | untyped _ => .untyped
    | unknownOperator _ => .unknownOperator
    | arityMismatch .. => .arityMismatch
    | operandKind .. => .typeMismatch
    | nonFinite .. => .invalidNumber
    | colorText _ | colorValue _ | channelCount _ | vectorSize _ => .malformedColor

/-- The class of a failed conversion to a double. -/
def ConversionError.errorClass : ConversionError → ErrorClass
  | tooLarge => .overflow
  | unreadable => .unusable
  | wrongType => .wrongType

/-- The class of a fault. -/
def Fault.errorClass : Fault → ErrorClass
  | .expression e => e.errorClass
  | .conversion e => e.errorClass

namespace Value

variable {r : Respelling}

mutual

theorem hasLongInt_respell (v : Value) : (v.respell r).hasLongInt = v.hasLongInt := by
  cases v with
  | int n => exact r.hasLongInt_int n
  | sequence form items => rw [respell, hasLongInt, hasLongInt, anyLongInt_respell items]
  | object entries => rw [respell, hasLongInt, hasLongInt, entriesLongInt_respell entries]
  | _ => rfl

theorem anyLongInt_respell (items : List Value) :
    anyLongInt (respellItems r items) = anyLongInt items := by
  cases items with
  | nil => rfl
  | cons v items =>
    rw [respellItems, anyLongInt, anyLongInt, hasLongInt_respell v, anyLongInt_respell items]

theorem entriesLongInt_respell (entries : List (String × Value)) :
    entriesLongInt (respellEntries r entries) = entriesLongInt entries := by
  cases entries with
  | nil => rfl
  | cons entry entries =>
    obtain ⟨name, v⟩ := entry
    rw [respellEntries, entriesLongInt, entriesLongInt, hasLongInt_respell v,
      entriesLongInt_respell entries]

end

end Value

namespace ExpressionError

variable {r : Respelling}

theorem isSome_message?_respell (e : ExpressionError) :
    (e.respell r).message?.isSome = e.message?.isSome := by
  rw [Bool.eq_iff_iff, isSome_message?_iff, isSome_message?_iff, quoted_respell, hasLongInt_respell]

/-- An error about another spelling is of the same class. -/
theorem errorClass_respell (e : ExpressionError) : (e.respell r).errorClass = e.errorClass := by
  unfold errorClass ErrorClass.worded
  rw [isSome_message?_respell]
  cases e <;> rfl

theorem errorClass_eq_of_respell {e e' : ExpressionError} (h : e.respell r = e'.respell r) :
    e.errorClass = e'.errorClass := by
  rw [← errorClass_respell (r := r), h, errorClass_respell]

end ExpressionError

namespace Fault

variable {r : Respelling}

theorem errorClass_respell (f : Fault) : (f.respell r).errorClass = f.errorClass := by
  cases f with
  | expression e => exact e.errorClass_respell
  | conversion e => rfl

theorem errorClass_eq_of_respell {f f' : Fault} (h : f.respell r = f'.respell r) :
    f.errorClass = f'.errorClass := by
  rw [← errorClass_respell (r := r), h, errorClass_respell]

end Fault

/-! ## Two spellings of one value -/

/-- Two computations end alike: with the same result, or with related errors. -/
inductive EndAlike {ε α : Type} (related : ε → ε → Prop) : Except ε α → Except ε α → Prop where
  | ok (a : α) : EndAlike related (.ok a) (.ok a)
  | error {e e' : ε} (h : related e e') : EndAlike related (.error e) (.error e')

namespace EndAlike

variable {ε ε' α : Type} {related : ε → ε → Prop} {x y : Except ε α}

/-- Computations that are the same up to a change of errors end alike, if this
    change relates the errors that they end with. -/
theorem of_mapError_eq {f : ε → ε'} (h : x.mapError f = y.mapError f)
    (hrelated : ∀ e e', x = .error e → y = .error e' → f e = f e' → related e e') :
    EndAlike related x y := by
  cases x with
  | ok a =>
    cases y with
    | ok b =>
      obtain rfl := Except.ok.inj h
      exact .ok a
    | error e' => cases h
  | error e =>
    cases y with
    | ok b => cases h
    | error e' => exact .error (hrelated e e' rfl rfl (Except.error.inj h))

/-- One of them succeeds if the other one does, with the same result. -/
theorem eq_ok_iff (h : EndAlike related x y) {a : α} : x = .ok a ↔ y = .ok a := by
  cases h <;> simp

end EndAlike

namespace Value

variable {r : Respelling} {v w : Value}

theorem kind_eq_of_respell (h : v.respell r = w.respell r) : v.kind = w.kind := by
  rw [← kind_respell (r := r), h, kind_respell]

theorem validate_of_respell (h : v.respell r = w.respell r) :
    v.validate.mapError (ExpressionError.respell r)
      = w.validate.mapError (ExpressionError.respell r) := by
  rw [← validate_respell, h, validate_respell]

theorem compile_of_respell (h : v.respell r = w.respell r) (stem : String) (wanted : Option Kind)
    (names : Names) :
    (v.compile stem wanted names).mapError (Fault.respell r)
      = (w.compile stem wanted names).mapError (Fault.respell r) := by
  rw [← compile_respell, h, compile_respell]

end Value

end SymbolStyle

import SymbolStyle.Proofs.Lowering

/-! # Compilation is decided by validation

    What becomes of an expression that is compiled, and of the names that are
    known when it is.

    * `Value.compile_cases`: the three ways in which compiling can end. None
      of them depends on the names.
    * `Value.compile_succeeds_iff`: validation decides whether code is made,
      up to a text that is no color where no text is wanted.
    * `Request.answerAll_registers`: over a whole run, a request that fails
      leaves no trace, and one that succeeds registers the names that it
      reads and no others.
-/

namespace SymbolStyle

open Value
open Glsl (Expr)

/-! ## The ways in which compiling ends -/

namespace Value

/-- The value is a text that is no color, and something else than a text is
    wanted. -/
def IsMisplacedText (v : Value) (wanted : Option Kind) : Prop :=
  ∃ text, v = .string text ∧ isColorText text = false ∧ wanted ≠ none ∧ wanted ≠ some .string

/-- Where nothing is wanted, a text is not out of place. -/
theorem not_isMisplacedText_none (v : Value) : ¬ v.IsMisplacedText none := by
  rintro ⟨text, -, -, hnone, -⟩
  exact hnone rfl

/-- The error of validation is passed on. -/
theorem compile_of_validate_error {v : Value} {e : ExpressionError} (h : v.validate = .error e)
    (stem : String) (wanted : Option Kind) (names : Names) :
    v.compile stem wanted names = .error (.expression e) := by
  simp [compile, toGlsl, h, Except.mapError, bind, Except.bind]

/-- What is accepted is compiled to the text of its tree. -/
theorem compile_of_lowers {v : Value} {k : Kind} {wanted : Option Kind} {tree : Expr}
    (h : v.validate = .ok ()) (hlowers : Lowers v k wanted tree) (stem : String) (names : Names) :
    v.compile stem wanted names = .ok (tree.text stem, names.extend (names.add v.readings)) := by
  simp [compile, toGlsl, h, hlowers.lower_eq, Except.mapError, bind, Except.bind, pure, Except.pure]

/-- A misplaced text passes validation and fails late, as the color that it is
    not. -/
theorem compile_of_isMisplacedText {text : String} {wanted : Option Kind}
    (h : (Value.string text).IsMisplacedText wanted) (stem : String) (names : Names) :
    (Value.string text).compile stem wanted names = .error (.expression (.colorText text)) := by
  obtain ⟨_, heq, hreads, hnone, hstring⟩ := h
  cases heq
  have hvalid : (Value.string text).validate = .ok () := (WellTyped.text hreads).validate_eq_ok
  have hlower : (Value.string text).lower wanted names
      = .error (.expression (.colorText text)) := by
    rw [lower]
    · simp [lowerPlain, isNumber, hnone, hstring, Glsl.colorOf_of_not_isColorText hreads, bind,
        Except.bind]
    · simp
  simp [compile, toGlsl, hvalid, hlower, Except.mapError, bind, Except.bind]

end Value

/-- An expression is lowered unless it is a misplaced text. -/
theorem WellTyped.exists_lowers {v : Value} {k : Kind} {wanted : Option Kind} (h : WellTyped v k)
    (hplace : ¬ v.IsMisplacedText wanted) : ∃ tree, Lowers v k wanted tree := by
  apply lowerable v k h
  rintro rfl
  obtain ⟨text, rfl⟩ := h.exists_text (.inl rfl)
  by_contra hwanted
  -- Only a text that is no color has the kind of texts.
  rw [not_or] at hwanted
  apply hplace
  refine ⟨text, rfl, ?_, hwanted.1, hwanted.2⟩
  by_contra hreads
  have hkind := h.kind_eq
  simp [kind, hreads] at hkind

/-! ## Registered names -/

/-- A list keeps what it had and gets at its end, each once, the names of a
    property that it did not have. -/
def AppendsOnce (property : String → Prop) (known after : List String) : Prop :=
  ∃ new, after = known ++ new ∧ new.Nodup ∧ ∀ name, name ∈ new ↔ property name ∧ name ∉ known

/-- Registering names appends those that are new, each once. -/
theorem register_appendsOnce (known names : List String) :
    AppendsOnce (· ∈ names) known (register known names) := by
  -- The known names grow on the way, so they are generalized.
  induction names generalizing known with
  | nil => exact ⟨[], by simp [register_nil]⟩
  | cons n names ih =>
    have hstep : register known (n :: names)
        = register (if n ∈ known then known else known ++ [n]) names := rfl
    rw [hstep]
    by_cases hn : n ∈ known
    · obtain ⟨new, hafter, hnodup, hnew⟩ := ih known
      refine ⟨new, by simp [hn, hafter], hnodup, ?_⟩
      intro name
      simp only [hnew, List.mem_cons]
      constructor
      · rintro ⟨hmem, hknown⟩
        exact ⟨.inr hmem, hknown⟩
      · rintro ⟨rfl | hmem, hknown⟩
        · exact absurd hn hknown
        · exact ⟨hmem, hknown⟩
    · -- The new name comes first among the new ones, and not again.
      obtain ⟨new, hafter, hnodup, hnew⟩ := ih (known ++ [n])
      refine ⟨n :: new, by simp [hn, hafter], ?_, ?_⟩
      · rw [List.nodup_cons, hnew]
        exact ⟨by simp, hnodup⟩
      · intro name
        simp only [List.mem_cons, hnew, List.mem_append, List.not_mem_nil, or_false]
        by_cases heq : name = n
        · subst heq
          simp [hn]
        · simp [heq]

namespace AppendsOnce

variable {property : String → Prop} {known after : List String}

theorem congr {other : String → Prop} (h : AppendsOnce property known after)
    (hiff : ∀ name, property name ↔ other name) : AppendsOnce other known after := by
  obtain ⟨new, hafter, hnodup, hnew⟩ := h
  refine ⟨new, hafter, hnodup, ?_⟩
  intro name
  rw [hnew, hiff]

/-- A list without repetitions stays one. -/
theorem nodup (h : AppendsOnce property known after) (hknown : known.Nodup) : after.Nodup := by
  obtain ⟨new, rfl, hnodup, hnew⟩ := h
  rw [List.nodup_append]
  refine ⟨hknown, hnodup, ?_⟩
  rintro name hmem _ hmem' rfl
  exact ((hnew name).1 hmem').2 hmem

/-- What comes after the known names is found by their number. -/
theorem append_drop (h : AppendsOnce property known after) :
    known ++ after.drop known.length = after := by
  obtain ⟨new, rfl, -, -⟩ := h
  rw [List.drop_left]

end AppendsOnce

/-- Names that were found by registering are taken over as they are. -/
theorem Names.extend_add (names : Names) (readings : List Reading) :
    names.extend (names.add readings) = names.add readings := by
  simp only [extend, add, (register_appendsOnce _ _).append_drop]

theorem Reading.mem_attributeNames {name : String} {readings : List Reading} :
    name ∈ attributeNames readings ↔ .attribute name ∈ readings := by
  simp only [attributeNames, List.mem_filterMap]
  constructor
  · rintro ⟨reading, hmem, hname⟩
    cases reading with
    | «attribute» other => simpa [← Option.some.inj hname] using hmem
    | «variable» other => exact absurd hname (by simp)
  · intro hmem
    exact ⟨_, hmem, rfl⟩

theorem Reading.mem_variableNames {name : String} {readings : List Reading} :
    name ∈ variableNames readings ↔ .variable name ∈ readings := by
  simp only [variableNames, List.mem_filterMap]
  constructor
  · rintro ⟨reading, hmem, hname⟩
    cases reading with
    | «attribute» other => exact absurd hname (by simp)
    | «variable» other => simpa [← Option.some.inj hname] using hmem
  · intro hmem
    exact ⟨_, hmem, rfl⟩

/-! ## What an expression reads -/

/-- Somewhere in the value stands an application of `get` or `var` that reads
    the given name. -/
inductive Reads : Value → Reading → Prop where
  | get {form : SequenceForm} {name : String} :
      Reads (.sequence form [.string "get", .string name]) (.attribute name)
  | var {form : SequenceForm} {name : String} :
      Reads (.sequence form [.string "var", .string name]) (.variable name)
  | item {form : SequenceForm} {items : List Value} {item : Value} {reading : Reading}
      (hmem : item ∈ items) (h : Reads item reading) : Reads (.sequence form items) reading

namespace Reads

variable {form : SequenceForm} {op : Operator} {reading : Reading}

theorem not_string {text : String} : ¬ Reads (.string text) reading := by
  intro h
  cases h

theorem not_finiteNumber {v : Value} (hv : v.isFiniteNumber) : ¬ Reads v reading := by
  intro h
  cases h <;> simp at hv

/-- What an application of `get` or `var` reads itself, and what the items of
    any sequence read. -/
theorem sequence_iff {items : List Value} :
    Reads (.sequence form items) reading ↔
      (∃ name, items = [.string "get", .string name] ∧ reading = .attribute name) ∨
      (∃ name, items = [.string "var", .string name] ∧ reading = .variable name) ∨
      ∃ item ∈ items, Reads item reading := by
  constructor
  · intro h
    cases h with
    | get => exact .inl ⟨_, rfl, rfl⟩
    | var => exact .inr (.inl ⟨_, rfl, rfl⟩)
    | item hmem h => exact .inr (.inr ⟨_, hmem, h⟩)
  · rintro (⟨name, rfl, rfl⟩ | ⟨name, rfl, rfl⟩ | ⟨item, hmem, h⟩)
    · exact .get
    · exact .var
    · exact .item hmem h

/-- An application of `get` reads its name. -/
theorem get_iff {name : String} :
    Reads (.sequence form [.string Operator.get.tag, .string name]) reading ↔
      reading = .attribute name := by
  simp [sequence_iff, not_string, Operator.tag]

/-- An application of `var` reads its name. -/
theorem var_iff {name : String} :
    Reads (.sequence form [.string Operator.var.tag, .string name]) reading ↔
      reading = .variable name := by
  simp [sequence_iff, not_string, Operator.tag]

/-- Any other application reads what its operands read. -/
theorem application_iff {operands : List Value} (hop : Kind.string ∉ op.signature) :
    Reads (.sequence form (.string op.tag :: operands)) reading ↔
      ∃ operand ∈ operands, Reads operand reading := by
  have hget : op.tag ≠ "get" := by
    intro htag
    cases op <;> simp [Operator.tag, Operator.signature] at htag hop
  have hvar : op.tag ≠ "var" := by
    intro htag
    cases op <;> simp [Operator.tag, Operator.signature] at htag hop
  simp [sequence_iff, not_string, hget, hvar]

end Reads

theorem Value.mem_readingsOfAll {operands : List Value} {list : List Reading} :
    list ∈ readingsOfAll operands ↔ ∃ operand ∈ operands, operand.readings = list := by
  induction operands with
  | nil => simp [readingsOfAll]
  | cons operand operands ih => simp [readingsOfAll, ih, eq_comm]

/-- Arranging readings loses none. -/
theorem Operator.mem_arrange {op : Operator} {reading : Reading} {lists : List (List Reading)} :
    reading ∈ op.arrange lists ↔ ∃ list ∈ lists, reading ∈ list := by
  unfold arrange
  split
  · -- Both parts of the list together are the list.
    have hparts : ∀ list, list ∈ lists.drop 1 ++ lists.take 1 ↔ list ∈ lists := by
      intro list
      rw [List.mem_append, or_comm, ← List.mem_append, List.take_append_drop]
    simp only [List.mem_flatten, hparts]
  · exact List.mem_flatten

/-- The readings of an application are those that stand in it, if this is so for
    its operands. -/
theorem WellTyped.mem_readings_application_iff {form : SequenceForm} {op : Operator}
    {operands : List Value} {reading : Reading} {k : Kind}
    (h : WellTyped (.sequence form (.string op.tag :: operands)) k)
    (hoperands : ∀ operand ∈ operands, (reading ∈ operand.readings ↔ Reads operand reading)) :
    reading ∈ (Value.sequence form (.string op.tag :: operands)).readings ↔
      Reads (.sequence form (.string op.tag :: operands)) reading := by
  by_cases hop : Kind.string ∈ op.signature
  · -- Only `get` and `var` take a text, and that is all they take.
    have hsignature : op.signature = [.string] := by
      cases op <;> simp [Operator.signature] at hop ⊢
    obtain ⟨name, rfl⟩ := exists_text_of_signature hsignature (WellTyped.application_iff.1 h).2
    cases op with
    | get => simp [readings, Operator.ofTag?_tag, Reads.get_iff]
    | var => simp [readings, Operator.ofTag?_tag, Reads.var_iff]
    | _ => simp [Operator.signature] at hop
  · rw [readings_application hop, Operator.mem_arrange, Reads.application_iff hop]
    simp only [mem_readingsOfAll, exists_exists_and_eq_and]
    constructor
    · rintro ⟨operand, hmem, hreads⟩
      exact ⟨operand, hmem, (hoperands operand hmem).1 hreads⟩
    · rintro ⟨operand, hmem, hreads⟩
      exact ⟨operand, hmem, (hoperands operand hmem).2 hreads⟩

/-- The readings of an expression are those that stand somewhere in it. -/
theorem WellTyped.mem_readings_iff {v : Value} {reading : Reading} {k : Kind}
    (h : WellTyped v k) : reading ∈ v.readings ↔ Reads v reading := by
  induction v using Value.induction_on_items generalizing k with
  | step v ih =>
    cases h with
    | number finite =>
      have hreadings : v.readings = [] := by
        apply readings_of_not_application
        rintro form tag operands rfl
        simp at finite
      simp [hreadings, Reads.not_finiteNumber finite]
    | colorText reads => simp [readings, Reads.not_string]
    | text reads => simp [readings, Reads.not_string]
    | @channels form items count finite =>
      -- Numbers stand where an application has its tag.
      have hhead : ∀ tag operands, items ≠ .string tag :: operands := by
        rintro tag operands rfl
        simpa using finite (.string tag) (by simp)
      have hreadings : (Value.sequence form items).readings = [] := by
        apply readings_of_not_application
        intro form' tag operands heq
        cases heq
        exact hhead tag operands rfl
      rw [hreadings]
      constructor
      · simp
      · rw [Reads.sequence_iff]
        rintro (⟨name, rfl, -⟩ | ⟨name, rfl, -⟩ | ⟨item, hmem, h⟩)
        · exact absurd rfl (hhead _ _)
        · exact absurd rfl (hhead _ _)
        · exact absurd h (Reads.not_finiteNumber (finite item hmem))
    | @application form op operands kinds typed fits =>
      have hv : WellTyped (.sequence form (.string op.tag :: operands)) op.returns :=
        .application typed fits
      apply hv.mem_readings_application_iff
      intro operand hmem
      obtain ⟨k, htyped⟩ := hv.exists_kind_of_mem hmem
      exact ih form _ rfl operand (by simp [hmem]) htyped

/-! ## One request -/

namespace Value

/-- How compiling ends, whatever names are known: with the error of
    validation, with a misplaced text, or with the text of a tree and the
    readings registered. -/
theorem compile_cases (v : Value) (stem : String) (wanted : Option Kind) :
    (∃ e, v.validate = .error e ∧
      ∀ names, v.compile stem wanted names = .error (.expression e)) ∨
    (∃ text, v = .string text ∧ v.validate = .ok () ∧ v.IsMisplacedText wanted ∧
      ∀ names, v.compile stem wanted names = .error (.expression (.colorText text))) ∨
    (∃ k, ∃ tree : Expr, v.validate = .ok () ∧ WellTyped v k ∧ ¬ v.IsMisplacedText wanted ∧
      ∀ names, v.compile stem wanted names = .ok (tree.text stem, names.add v.readings)) := by
  cases hvalid : v.validate with
  | error e => exact .inl ⟨e, rfl, compile_of_validate_error hvalid stem wanted⟩
  | ok u =>
    by_cases hplace : v.IsMisplacedText wanted
    · obtain ⟨text, rfl, -⟩ := id hplace
      exact .inr (.inl ⟨text, rfl, rfl, hplace, compile_of_isMisplacedText hplace stem⟩)
    · have htyped := v.validate_eq_ok_iff.1 hvalid
      obtain ⟨tree, hlowers⟩ := htyped.exists_lowers hplace
      refine .inr (.inr ⟨v.kind, tree, rfl, htyped, hplace, ?_⟩)
      intro names
      rw [compile_of_lowers hvalid hlowers, Names.extend_add]

/-- The value stands somewhere in another one as an operand, in a place where
    the given kind is expected. -/
inductive IsOperand (operand : Value) (expected : Kind) : Value → Prop where
  | direct {form : SequenceForm} {op : Operator} {operands : List Value}
      (hplace : (expected, operand) ∈ op.signature.zip operands) :
      IsOperand operand expected (.sequence form (.string op.tag :: operands))
  | nested {form : SequenceForm} {op : Operator} {operands : List Value} {outer : Value}
      (hmem : outer ∈ operands) (h : IsOperand operand expected outer) :
      IsOperand operand expected (.sequence form (.string op.tag :: operands))

/-- An operand of an expression, at any depth, has a kind that its place
    accepts. -/
theorem IsOperand.exists_kind {operand v : Value} {expected k : Kind}
    (h : IsOperand operand expected v) (hv : WellTyped v k) :
    ∃ actual, WellTyped operand actual ∧ expected.accepts actual := by
  induction h generalizing k with
  | direct hplace =>
    obtain ⟨-, hoperands⟩ := WellTyped.application_iff.1 hv
    exact (List.forall₂_iff_zip.1 hoperands).2 hplace
  | nested hmem h ih =>
    obtain ⟨actual, houter⟩ := hv.exists_kind_of_mem hmem
    exact ih houter

/-- What its place accepts is not misplaced there. -/
theorem not_isMisplacedText_of_accepts {operand : Value} {expected actual : Kind}
    (hoperand : WellTyped operand actual) (haccepts : expected.accepts actual) :
    ¬ operand.IsMisplacedText (some expected) := by
  rintro ⟨text, rfl, hreads, -, hstring⟩
  have hactual : actual = .string := by
    rw [hoperand.kind_eq]
    simp [kind, hreads]
  subst hactual
  cases expected <;> simp [Kind.accepts] at haccepts hstring

/-- Validation decides compilation. Code is made of what is accepted, except of
    a text that is no color where something else than a text is wanted; the
    error of validation is passed on, and the text is reported as the color that
    it is not. In what is accepted, no operand at any depth fails to be
    lowered. -/
theorem compile_succeeds_iff (v : Value) (stem : String) (wanted : Option Kind) (names : Names) :
    ((∃ code after, v.compile stem wanted names = .ok (code, after)) ↔
      v.validate = .ok () ∧ ¬ v.IsMisplacedText wanted) ∧
    (∀ e, v.validate = .error e → v.compile stem wanted names = .error (.expression e)) ∧
    (v.validate = .ok () → v.IsMisplacedText wanted →
      ∃ text, v.compile stem wanted names = .error (.expression (.colorText text)) ∧
        (ExpressionError.colorText text).expression = v) ∧
    (v.validate = .ok () → ∀ operand expected, IsOperand operand expected v →
      ∃ tree found, operand.lower (some expected) names = .ok (tree, found)) := by
  refine ⟨?_, ?_, ?_, ?_⟩
  · rcases v.compile_cases stem wanted with ⟨e, hvalid, hcompile⟩ | ⟨text, _, _, hplace, hcompile⟩
      | ⟨k, tree, hvalid, _, hplace, hcompile⟩
    · simp [hvalid, hcompile]
    · simp [hplace, hcompile]
    · simp [hvalid, hplace, hcompile]
  · intro e hvalid
    exact compile_of_validate_error hvalid stem wanted names
  · intro hvalid hplace
    obtain ⟨text, rfl, -⟩ := id hplace
    exact ⟨text, compile_of_isMisplacedText hplace stem names, rfl⟩
  · intro hvalid operand expected hoperand
    obtain ⟨actual, htyped, haccepts⟩ := hoperand.exists_kind (v.validate_eq_ok_iff.1 hvalid)
    obtain ⟨tree, hlowers⟩ :=
      htyped.exists_lowers (not_isMisplacedText_of_accepts htyped haccepts)
    exact ⟨tree, _, hlowers.lower_eq names⟩

end Value

/-! ## Runs -/

namespace Request

/-- The names after requests were answered in turn. -/
def namesAfter (names : Names) (requests : List Request) : Names :=
  requests.foldl (fun names r => (r.answer names).names) names

@[simp] theorem namesAfter_nil (names : Names) : namesAfter names [] = names := rfl

@[simp] theorem namesAfter_cons (names : Names) (r : Request) (requests : List Request) :
    namesAfter names (r :: requests) = namesAfter (r.answer names).names requests := rfl

theorem answerAll_append (names : Names) (before after : List Request) :
    answerAll names (before ++ after)
      = answerAll names before ++ answerAll (namesAfter names before) after := by
  induction before generalizing names with
  | nil => rfl
  | cons r before ih => simp [answerAll, ih]

/-- Whether there is code for a request if it is made alone. -/
def succeeds (r : Request) : Bool := (r.answer .empty).code.isOk

/-- An answer says the same whatever names are known, and it either leaves them
    as they are or registers what the value reads. -/
theorem answer_cases (r : Request) :
    (r.succeeds = false ∧ ∃ fault, ∀ names, r.answer names = ⟨.error fault, names⟩) ∨
    (r.succeeds = true ∧ (∃ k, WellTyped r.value k) ∧
      ∃ code, ∀ names, r.answer names = ⟨.ok code, names.add r.value.readings⟩) := by
  rcases r.value.compile_cases r.stem r.wanted with ⟨e, _, hcompile⟩ | ⟨text, _, _, _, hcompile⟩
    | ⟨k, tree, _, htyped, _, hcompile⟩
  · refine .inl ⟨?_, .expression e, ?_⟩
    · simp [succeeds, answer, hcompile, Except.isOk, Except.toBool]
    · simp [answer, hcompile]
  · refine .inl ⟨?_, .expression (.colorText text), ?_⟩
    · simp [succeeds, answer, hcompile, Except.isOk, Except.toBool]
    · simp [answer, hcompile]
  · refine .inr ⟨?_, ⟨k, htyped⟩, tree.text r.stem, ?_⟩
    · simp [succeeds, answer, hcompile, Except.isOk, Except.toBool]
    · simp [answer, hcompile]

theorem code_answer_eq (r : Request) (names : Names) :
    (r.answer names).code = (r.answer .empty).code := by
  rcases r.answer_cases with ⟨_, fault, hanswer⟩ | ⟨_, _, code, hanswer⟩
  · simp [hanswer]
  · simp [hanswer]

theorem isOk_code_answer (r : Request) (names : Names) :
    (r.answer names).code.isOk = r.succeeds := by
  rw [code_answer_eq, succeeds]

/-- A request that fails leaves the names as they are. -/
theorem names_answer_of_error {r : Request} {names : Names} {fault : Fault}
    (h : (r.answer names).code = .error fault) : (r.answer names).names = names := by
  rcases r.answer_cases with ⟨_, fault, hanswer⟩ | ⟨_, _, code, hanswer⟩
  · simp [hanswer]
  · simp [hanswer] at h

/-- What a request for which there is code does to the names. -/
def Registers (r : Request) (names after : Names) : Prop :=
  AppendsOnce (fun name => Reads r.value (.attribute name)) names.attributeNames
      after.attributeNames ∧
    AppendsOnce (fun name => Reads r.value (.variable name)) names.variableNames
      after.variableNames

theorem registers_of_ok {r : Request} {names : Names} {code : String}
    (h : (r.answer names).code = .ok code) : r.Registers names (r.answer names).names := by
  rcases r.answer_cases with ⟨_, fault, hanswer⟩ | ⟨_, ⟨k, htyped⟩, code, hanswer⟩
  · simp [hanswer] at h
  · rw [hanswer]
    constructor
    · apply (register_appendsOnce _ _).congr
      intro name
      rw [Reading.mem_attributeNames, htyped.mem_readings_iff]
    · apply (register_appendsOnce _ _).congr
      intro name
      rw [Reading.mem_variableNames, htyped.mem_readings_iff]

end Request

/-- No name is registered twice. -/
def Names.Distinct (names : Names) : Prop :=
  names.attributeNames.Nodup ∧ names.variableNames.Nodup

namespace Request

theorem distinct_names_answer (r : Request) {names : Names} (h : names.Distinct) :
    (r.answer names).names.Distinct := by
  cases hcode : (r.answer names).code with
  | error fault => rwa [names_answer_of_error hcode]
  | ok code =>
    obtain ⟨hattributes, hvariables⟩ := registers_of_ok hcode
    exact ⟨hattributes.nodup h.1, hvariables.nodup h.2⟩

theorem distinct_namesAfter (requests : List Request) {names : Names} (h : names.Distinct) :
    (namesAfter names requests).Distinct := by
  induction requests generalizing names with
  | nil => exact h
  | cons r requests ih => exact ih (r.distinct_names_answer h)

/-- Requests that fail can be left out of a run. -/
theorem answerAll_filter_succeeds (names : Names) (requests : List Request) :
    namesAfter names (requests.filter succeeds) = namesAfter names requests ∧
      answerAll names (requests.filter succeeds)
        = (answerAll names requests).filter (·.code.isOk) := by
  induction requests generalizing names with
  | nil => exact ⟨rfl, rfl⟩
  | cons r requests ih =>
    -- Leaving out a request that fails leaves the names as they are, and its
    -- answer is the one that is left out as well.
    cases hr : r.succeeds with
    | false =>
      have hnames : (r.answer names).names = names := by
        rcases r.answer_cases with ⟨_, fault, hanswer⟩ | ⟨hr', _⟩
        · rw [hanswer]
        · simp [hr] at hr'
      have hcode : (r.answer names).code.isOk = false := by rw [isOk_code_answer, hr]
      simpa [hr, hcode, answerAll, hnames] using ih names
    | true =>
      have hcode : (r.answer names).code.isOk = true := by rw [isOk_code_answer, hr]
      simpa [hr, hcode, answerAll] using ih (r.answer names).names

/-- Each request of a run is answered with the code or fault that it gets
    alone. It leaves the names as they are if it fails; else it appends, each
    once, those that its value reads and that were not there. So names without
    repetitions stay such, and leaving out the requests that fail changes
    neither the names at the end nor the other answers. -/
theorem answerAll_registers (names : Names) (requests : List Request) :
    (∀ before r after, requests = before ++ r :: after →
      ∃ answer, answer = r.answer (namesAfter names before) ∧
        answerAll names requests
          = answerAll names before ++ answer :: answerAll answer.names after ∧
        answer.code = (r.answer .empty).code ∧
        (∀ fault, answer.code = .error fault → answer.names = namesAfter names before) ∧
        (∀ code, answer.code = .ok code →
          r.Registers (namesAfter names before) answer.names)) ∧
    (names.Distinct → (namesAfter names requests).Distinct) ∧
    namesAfter names (requests.filter succeeds) = namesAfter names requests ∧
    answerAll names (requests.filter succeeds)
      = (answerAll names requests).filter (·.code.isOk) := by
  refine ⟨?_, distinct_namesAfter requests, answerAll_filter_succeeds names requests⟩
  rintro before r after rfl
  refine ⟨_, rfl, ?_, r.code_answer_eq _, ?_, ?_⟩
  · rw [answerAll_append, answerAll]
  · intro fault hfault
    exact names_answer_of_error hfault
  · intro code hcode
    exact registers_of_ok hcode

end Request

end SymbolStyle

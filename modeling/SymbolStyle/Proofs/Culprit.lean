import SymbolStyle.Proofs.Refusal

/-! # The first culprit

    Where validation points. An error is found by going down from the value
    through operands of applications, and everything that stands to the left of
    the way down is in order. What stands at its end is either wrong by itself,
    or a valid expression in a place for another kind.

    * `Value.LeadsTo` is the way down, `Value.Culprit` what stands at its end.
    * `Value.validate_eq_error_iff`: validation fails with exactly the errors
      of culprits. Both sides determine the error, so there is only one
      culprit.
-/

namespace SymbolStyle

namespace ExpressionError

/-- The expression is wrong by itself, wherever it stands. -/
def IsIntrinsic : ExpressionError → Prop
  | untyped _ | unknownOperator _ | arityMismatch .. | nonFinite .. => True
  | operandKind .. | colorText _ | colorValue _ | channelCount _ | vectorSize _ => False

end ExpressionError

namespace Value

variable {form : SequenceForm} {op : Operator} {before after : List Value}
  {v part operand : Value} {expected : Kind} {e : ExpressionError}

/-! ## The way down -/

/-- The value is an operand of an application with as many operands as the
    operator takes, and the operands before it are in order. -/
structure StandsIn (operand : Value) (form : SequenceForm) (op : Operator)
    (before after : List Value) (parent : Value) : Prop where
  eq : parent = .sequence form (.string op.tag :: (before ++ operand :: after))
  count : (before ++ operand :: after).length = op.arity
  left : AllFit op.signature before

/-- The part is the value itself, or is reached from it through operands of
    applications, past operands that are in order. -/
inductive LeadsTo (part : Value) : Value → Prop where
  | here : LeadsTo part part
  | operand {form : SequenceForm} {op : Operator} {before after : List Value}
      {operand parent : Value} (hstands : operand.StandsIn form op before after parent)
      (h : LeadsTo part operand) : LeadsTo part parent

/-- The error is about the first culprit in the value. -/
inductive Culprit (v : Value) : ExpressionError → Prop where
  /-- An expression on the way down is wrong by itself. -/
  | intrinsic {e : ExpressionError} (hpath : LeadsTo e.expression v) (hintrinsic : e.IsIntrinsic)
      (hself : e.expression.validate = .error e) : Culprit v e
  /-- A valid expression stands in a place that does not accept its kind. -/
  | misplaced {form : SequenceForm} {op : Operator} {before after : List Value}
      {operand parent : Value} {expected : Kind} (hpath : LeadsTo parent v)
      (hstands : operand.StandsIn form op before after parent)
      (hexpected : op.signature[before.length]? = some expected)
      (hvalid : operand.validate = .ok ()) (hkind : ¬ expected.accepts operand.kind) :
      Culprit v (.operandKind op (before.length + 1) expected operand operand.kind)

theorem LeadsTo.trans {middle : Value} (hpart : LeadsTo part middle) (h : LeadsTo middle v) :
    LeadsTo part v := by
  induction h with
  | here => exact hpart
  | operand hstands _ ih => exact .operand hstands ih

/-- The culprit of an operand is the one of the application, if the operands
    before it are in order. -/
theorem Culprit.of_operand {parent : Value} (hstands : operand.StandsIn form op before after parent)
    (h : Culprit operand e) : Culprit parent e := by
  cases h with
  | intrinsic hpath hintrinsic hself =>
    exact .intrinsic (.operand hstands hpath) hintrinsic hself
  | misplaced hpath hinner hexpected hvalid hkind =>
    exact .misplaced (.operand hstands hpath) hinner hexpected hvalid hkind

/-! ## Validation and culprits -/

/-- An application with the right number of operands is refused for its
    operands. -/
theorem validate_application_of_length {operands : List Value}
    (hlength : operands.length = op.arity) :
    (Value.sequence form (.string op.tag :: operands)).validate
      = validateOperands op 1 op.signature operands := by
  rw [validate, Operator.ofTag?_tag]
  simp [hlength]

/-- A place that an operand stands in is one of the operator's. -/
theorem StandsIn.exists_expected {parent : Value}
    (h : operand.StandsIn form op before after parent) :
    ∃ expected, op.signature[before.length]? = some expected := by
  have hlt : before.length < op.signature.length := by
    have hcount : (before ++ operand :: after).length = op.signature.length := h.count
    rw [List.length_append, List.length_cons] at hcount
    omega
  exact ⟨_, List.getElem?_eq_getElem hlt⟩

/-- What is wrong with an operand is wrong with the application, if the
    operands before it are in order. -/
theorem StandsIn.validate_eq_error {parent : Value}
    (h : operand.StandsIn form op before after parent) (herror : operand.validate = .error e) :
    parent.validate = .error e := by
  obtain ⟨expected, hexpected⟩ := h.exists_expected
  rw [h.eq, validate_application_of_length h.count, validateOperands_eq_error_iff]
  exact ⟨before, operand, after, expected, rfl, h.left, hexpected, .inl herror⟩

theorem StandsIn.validate_eq_operandKind {parent : Value}
    (h : operand.StandsIn form op before after parent)
    (hexpected : op.signature[before.length]? = some expected)
    (hvalid : operand.validate = .ok ()) (hkind : ¬ expected.accepts operand.kind) :
    parent.validate
      = .error (.operandKind op (before.length + 1) expected operand operand.kind) := by
  rw [h.eq, validate_application_of_length h.count, validateOperands_eq_error_iff]
  refine ⟨before, operand, after, expected, rfl, h.left, hexpected, .inr ⟨hvalid, hkind, ?_⟩⟩
  rw [Nat.add_comm]

theorem LeadsTo.validate_eq_error (h : LeadsTo part v) (herror : part.validate = .error e) :
    v.validate = .error e := by
  induction h with
  | here => exact herror
  | operand hstands _ ih => exact hstands.validate_eq_error ih

/-- A value that is no application is refused for itself. -/
theorem culprit_of_validatePlain {numbers : List Value}
    (hplain : v.validate = validatePlain v numbers) (h : v.validate = .error e) : Culprit v e := by
  rcases validatePlain_eq_error (hplain ▸ h) with rfl | ⟨number, -, rfl⟩
  · exact .intrinsic .here trivial h
  · exact .intrinsic .here trivial h

/-- Validation fails with an error exactly if the error is about the first
    culprit. -/
theorem validate_eq_error_iff : v.validate = .error e ↔ Culprit v e := by
  constructor
  · intro h
    -- Along the operands: the culprit of the first operand that is refused is
    -- the one of the application.
    induction v using Value.induction_on_items with
    | step v ih =>
      cases v with
      | sequence form items =>
        by_cases hhead : ∃ tag operands, items = .string tag :: operands
        · obtain ⟨tag, operands, rfl⟩ := hhead
          cases htag : Operator.ofTag? tag with
          | none =>
            obtain rfl : ExpressionError.unknownOperator _ = e := by simpa [validate, htag] using h
            exact .intrinsic .here trivial h
          | some op =>
            obtain rfl := Operator.tag_of_ofTag? htag
            by_cases hlength : operands.length = op.arity
            · have hrun := h
              rw [validate_application_of_length hlength, validateOperands_eq_error_iff] at hrun
              obtain ⟨before, operand, after, expected, rfl, hleft, hexpected, hwrong⟩ := hrun
              have hstands : operand.StandsIn form op before after _ := ⟨rfl, hlength, hleft⟩
              rcases hwrong with hinvalid | ⟨hvalid, hkind, rfl⟩
              · exact .of_operand hstands (ih form _ rfl operand (by simp) hinvalid)
              · rw [Nat.add_comm]
                exact .misplaced .here hstands hexpected hvalid hkind
            · obtain rfl : ExpressionError.arityMismatch op _ _ = e := by
                simpa [validate, htag, hlength] using h
              exact .intrinsic .here trivial h
        · exact culprit_of_validatePlain (validate_sequence_of_head (by simpa using hhead)) h
      | _ => exact culprit_of_validatePlain (validate_of_not_sequence (by simp)) h
  · intro h
    cases h with
    | intrinsic hpath _ hself => exact hpath.validate_eq_error hself
    | misplaced hpath hstands hexpected hvalid hkind =>
      exact hpath.validate_eq_error (hstands.validate_eq_operandKind hexpected hvalid hkind)

/-- There is only one culprit. -/
theorem Culprit.unique {other : ExpressionError} (h : Culprit v e) (hother : Culprit v other) :
    e = other := by
  rw [← validate_eq_error_iff] at h hother
  exact Except.error.inj (h.symm.trans hother)

/-! ## What validation reports -/

/-- Validation reports the first culprit. It can be reached past operands that
    are in order, and the error has a message. An expression that is wrong by
    itself is refused with the same error when it is validated alone; any other
    one is valid alone, and the message names the place that does not accept
    its kind and the operator that the place belongs to. -/
theorem validate_reports_culprit (hv : v.hasLongInt = false) (h : v.validate = .error e) :
    e.expression.LeadsTo v ∧ (∃ message, e.message? = some message) ∧
      (e.IsIntrinsic → e.expression.validate = .error e) ∧
      (¬ e.IsIntrinsic → ∃ form op before after parent expected text,
        parent.LeadsTo v ∧ e.expression.StandsIn form op before after parent ∧
        op.signature[before.length]? = some expected ∧
        e.expression.validate = .ok () ∧ ¬ expected.accepts e.expression.kind ∧
        e.expression.describe? = some text ∧
        e.message? = some (s!"A {expected.label} value was expected as argument "
          ++ s!"{before.length + 1} of '{op.tag}', got " ++ text
          ++ s!" ({e.expression.kind.label}) instead")) := by
  have hmessage : e.message?.isSome := (blames_of_validate_eq_error h).isSome_message? hv
  have hsome : ∃ message, e.message? = some message := Option.isSome_iff_exists.1 hmessage
  rw [validate_eq_error_iff] at h
  cases h with
  | intrinsic hpath hintrinsic hself =>
    refine ⟨hpath, hsome, fun _ => hself, ?_⟩
    intro hnot
    exact absurd hintrinsic hnot
  | @misplaced form op before after operand parent expected hpath hstands hexpected hvalid hkind =>
    refine ⟨(LeadsTo.operand hstands .here).trans hpath, hsome, False.elim, ?_⟩
    intro _
    -- The message exists because the operand can be written.
    obtain ⟨text, htext⟩ : ∃ text, operand.describe? = some text := by
      rw [← Option.isSome_iff_exists, isSome_describe?_iff]
      exact ExpressionError.isSome_message?_iff.1 hmessage
    refine ⟨form, op, before, after, parent, expected, text, hpath, hstands, hexpected, hvalid,
      hkind, htext, ?_⟩
    simp [ExpressionError.message?, ExpressionError.expression, htext, String.append_assoc]

/-- A text in the place of a number, before an unknown operator. -/
def misplacedText : Value :=
  .sequence .list [.string "+", .int 1,
    .sequence .list [.string "clamp", .int 2, .string "x", .sequence .list [.string "?"]]]

theorem validate_misplacedText :
    misplacedText.validate = .error (.operandKind .clamp 2 .number (.string "x") .string) := by
  have hnumber : ∀ n : Int, (Value.int n).isFiniteNumber → (Value.int n).validate = .ok () :=
    fun n hn => (WellTyped.number hn).validate_eq_ok
  have htext : (Value.string "x").kind = .string := by decide +kernel
  have hclamp : (Value.sequence .list [.string "clamp", .int 2, .string "x",
      .sequence .list [.string "?"]]).StandsIn .list .add [.int 1] [] misplacedText :=
    ⟨rfl, rfl, .cons ⟨hnumber 1 (by decide +kernel), rfl⟩ .nil⟩
  have hx : (Value.string "x").StandsIn .list .clamp [.int 2] [.sequence .list [.string "?"]]
      (.sequence .list [.string "clamp", .int 2, .string "x", .sequence .list [.string "?"]]) :=
    ⟨rfl, rfl, .cons ⟨hnumber 2 (by decide +kernel), rfl⟩ .nil⟩
  have hvalid : (Value.string "x").validate = .ok () :=
    (WellTyped.text (by decide +kernel)).validate_eq_ok
  have hkind : ¬ Kind.number.accepts (Value.string "x").kind := by rw [htext]; decide
  have h := hx.validate_eq_operandKind rfl hvalid hkind
  rw [htext] at h
  exact hclamp.validate_eq_error h

/-- The text is reported, and not the unknown operator that stands behind it. -/
theorem validate_reports_culprit_misplacedText :
    misplacedText.hasLongInt = false ∧
      misplacedText.validate = .error (.operandKind .clamp 2 .number (.string "x") .string) ∧
      (Value.string "x").LeadsTo misplacedText := by
  have hshort : misplacedText.hasLongInt = false := by decide +kernel
  exact ⟨hshort, validate_misplacedText,
    (validate_reports_culprit hshort validate_misplacedText).1⟩

end Value

end SymbolStyle

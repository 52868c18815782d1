import SymbolStyle.Proofs.Typing
import SymbolStyle.Sequence

/-! # Refused expressions

    What the error says with which an expression is refused, and whether it can
    be shown.

    * `Value.validateOperands_eq_error_iff`: operands are refused for the first
      of them that is invalid or of the wrong kind.
    * `Value.blames_of_validate_eq_error`: validation points to a part of the
      value, and never to what is wrong with a color.
    * `ExpressionError.Blames.isSome_message?`: the message exists if no whole
      number in the value is too long to be written.
-/

namespace SymbolStyle

open Value

/-! ## Values that can be written -/

namespace Value

/-- The value is the other one or stands in it. -/
inductive IsPart (part : Value) : Value → Prop where
  | refl : IsPart part part
  | item {form : SequenceForm} {items : List Value} {item : Value} (hmem : item ∈ items)
      (h : IsPart part item) : IsPart part (.sequence form items)

theorem IsPart.trans {part middle v : Value} (hpart : part.IsPart middle) (h : middle.IsPart v) :
    part.IsPart v := by
  induction h with
  | refl => exact hpart
  | item hmem _ ih => exact .item hmem ih

theorem isPart_sequence_iff {part : Value} {form : SequenceForm} {items : List Value} :
    part.IsPart (.sequence form items) ↔
      part = .sequence form items ∨ ∃ item ∈ items, part.IsPart item := by
  constructor
  · intro h
    cases h with
    | refl => exact .inl rfl
    | item hmem h => exact .inr ⟨_, hmem, h⟩
  · rintro (rfl | ⟨item, hmem, h⟩)
    · exact .refl
    · exact .item hmem h

theorem isPart_iff_eq_of_not_sequence {part v : Value}
    (hv : ∀ form items, v ≠ .sequence form items) :
    part.IsPart v ↔ part = v := by
  constructor
  · intro h
    cases h with
    | refl => rfl
    | item _ _ => exact absurd rfl (hv _ _)
  · rintro rfl
    exact .refl

theorem anyLongInt_eq_false_iff {items : List Value} :
    anyLongInt items = false ↔ ∀ item ∈ items, item.hasLongInt = false := by
  induction items with
  | nil => simp [anyLongInt]
  | cons item items ih => simp [anyLongInt, ih]

theorem entriesLongInt_eq_false_iff {entries : Entries Value} :
    entriesLongInt entries = false ↔ ∀ entry ∈ entries, entry.2.hasLongInt = false := by
  induction entries with
  | nil => simp [entriesLongInt]
  | cons entry entries ih =>
    obtain ⟨name, v⟩ := entry
    simp [entriesLongInt, ih]

theorem hasLongInt_null : Value.null.hasLongInt = false := rfl

/-- What stands in a value that can be written can be written. -/
theorem IsPart.hasLongInt_eq_false {part v : Value} (h : part.IsPart v)
    (hv : v.hasLongInt = false) : part.hasLongInt = false := by
  induction h with
  | refl => exact hv
  | item hmem _ ih =>
    rw [hasLongInt, anyLongInt_eq_false_iff] at hv
    exact ih (hv _ hmem)

theorem hasLongInt_eq_false_of_get? {v entry : Value} {name : String}
    (h : v.get? name = some entry) (hv : v.hasLongInt = false) : entry.hasLongInt = false := by
  cases v with
  | object entries =>
    rw [hasLongInt, entriesLongInt_eq_false_iff] at hv
    obtain ⟨before, after, rfl, -⟩ := List.lookup_eq_some_iff.1 h
    exact hv (name, entry) (by simp)
  | _ => simp [get?, entries?] at h

theorem hasLongInt_eq_false_of_given? {v given : Value} (h : v.given? = some given)
    (hv : v.hasLongInt = false) : given.hasLongInt = false := by
  unfold given? at h
  split at h
  · cases h
  · exact Option.some.inj h ▸ hv

theorem isSome_describe?_iff {v : Value} : v.describe?.isSome ↔ v.hasLongInt = false := by
  unfold describe?
  cases v.hasLongInt with
  | true => simp
  | false => simp

theorem isSome_plain?_iff {v : Value} : v.plain?.isSome ↔ v.hasLongInt = false := by
  unfold plain?
  cases v.hasLongInt with
  | true => simp
  | false => simp

/-- A text is shown as it is, and any other value if it can be written. -/
theorem isSome_display? {v : Value} (h : v.hasLongInt = false) : v.display?.isSome := by
  cases v with
  | string text => rfl
  | _ => exact isSome_plain?_iff.2 h

end Value

/-! ## Errors of validation -/

namespace ExpressionError

/-- The value that the message of the error quotes. -/
def quoted : ExpressionError → Value
  | nonFinite number _ => number
  | e => e.expression

/-- The error is one of those about expressions in general, and not about a
    color or a vector. -/
def IsGeneral : ExpressionError → Prop
  | untyped _ | unknownOperator _ | arityMismatch .. | operandKind .. | nonFinite .. => True
  | colorText _ | colorValue _ | channelCount _ | vectorSize _ => False

/-- The error is a general one that points to a part of the value, and quotes a
    part of it. -/
structure Blames (e : ExpressionError) (v : Value) : Prop where
  isGeneral : e.IsGeneral
  expression : e.expression.IsPart v
  quoted : e.quoted.IsPart v

/-- What is wrong with an item is wrong with the sequence. -/
theorem Blames.item {e : ExpressionError} {form : SequenceForm} {items : List Value} {item : Value}
    (h : e.Blames item) (hmem : item ∈ items) : e.Blames (.sequence form items) :=
  ⟨h.isGeneral, .item hmem h.expression, .item hmem h.quoted⟩

theorem isSome_message?_iff {e : ExpressionError} :
    e.message?.isSome ↔ e.quoted.hasLongInt = false := by
  rw [← isSome_describe?_iff]
  cases e <;> simp [message?, quoted, expression, Option.isSome_bind]

theorem Blames.isSome_message? {e : ExpressionError} {v : Value} (h : e.Blames v)
    (hv : v.hasLongInt = false) : e.message?.isSome :=
  isSome_message?_iff.2 (h.quoted.hasLongInt_eq_false hv)

end ExpressionError

namespace Value

/-- A value that is no application is refused for one of its numbers, or as a
    whole. -/
theorem validatePlain_eq_error {v : Value} {numbers : List Value} {e : ExpressionError}
    (h : validatePlain v numbers = .error e) :
    e = .untyped v ∨ ∃ number ∈ numbers, e = .nonFinite number v := by
  unfold validatePlain at h
  cases hfound : findNonFinite? numbers with
  | some number =>
    simp only [hfound, Except.error.injEq] at h
    exact .inr ⟨number, List.mem_of_find?_eq_some hfound, h.symm⟩
  | none =>
    by_cases hkind : v.kind = .unknown
    · simp only [hfound, hkind, if_true, Except.error.injEq] at h
      exact .inl h.symm
    · simp [hfound, hkind] at h

theorem validate_of_not_sequence {v : Value} (h : ∀ form items, v ≠ .sequence form items) :
    v.validate = validatePlain v [v] := by
  rw [validate]
  · exact fun form tag operands => h form (.string tag :: operands)
  · exact h

/-- Operands that stand at the beginning of an application are valid, and each
    is of a kind that its place accepts. -/
def AllFit (signature : List Kind) (operands : List Value) : Prop :=
  List.Forall₂ (fun expected operand =>
    operand.validate = .ok () ∧ expected.accepts operand.kind)
    (signature.take operands.length) operands

section Operands

variable {op : Operator} {operand : Value} {before operands : List Value} {expected : Kind}
  {signature : List Kind} {e : ExpressionError}

theorem allFit_nil : AllFit signature [] := by
  simp [AllFit]

theorem allFit_cons_iff :
    AllFit (expected :: signature) (operand :: before) ↔
      (operand.validate = .ok () ∧ expected.accepts operand.kind) ∧ AllFit signature before := by
  simp [AllFit]

/-- Operands are refused for the first of them that is invalid or stands in a
    place that does not accept its kind. -/
theorem validateOperands_eq_error_iff {position : Nat} :
    validateOperands op position signature operands = .error e ↔
      ∃ before operand after expected, operands = before ++ operand :: after ∧
        AllFit signature before ∧ signature[before.length]? = some expected ∧
        (operand.validate = .error e ∨
          operand.validate = .ok () ∧ ¬ expected.accepts operand.kind ∧
            e = .operandKind op (position + before.length) expected operand operand.kind) := by
  induction signature generalizing position operands with
  | nil => simp [validateOperands]
  | cons wanted signature ih =>
    cases operands with
    | nil => simp [validateOperands]
    | cons first operands =>
      rw [validateOperands, bind_eq_error_iff]
      constructor
      · intro h
        rcases h with hfirst | ⟨⟨⟩, hfirst, h⟩
        · exact ⟨[], first, operands, wanted, rfl, allFit_nil, rfl, .inl hfirst⟩
        · by_cases haccepts : wanted.accepts first.kind
          · -- The first operand is in order, so the culprit is behind it.
            rw [if_pos haccepts, ih] at h
            obtain ⟨before, operand, after, expected, rfl, hbefore, hexpected, hwrong⟩ := h
            refine ⟨first :: before, operand, after, expected, rfl, ?_, by simpa using hexpected,
              ?_⟩
            · exact allFit_cons_iff.2 ⟨⟨hfirst, haccepts⟩, hbefore⟩
            · rwa [List.length_cons, Nat.add_comm before.length, ← Nat.add_assoc]
          · rw [if_neg haccepts, Except.error.injEq] at h
            exact ⟨[], first, operands, wanted, rfl, allFit_nil, rfl,
              .inr ⟨hfirst, haccepts, h.symm⟩⟩
      · rintro ⟨before, operand, after, expected, heq, hbefore, hexpected, hwrong⟩
        cases before with
        | nil =>
          simp only [List.nil_append, List.cons.injEq] at heq
          obtain ⟨rfl, rfl⟩ := heq
          obtain rfl : wanted = expected := by simpa using hexpected
          rcases hwrong with hinvalid | ⟨hvalid, hkind, rfl⟩
          · exact .inl hinvalid
          · refine .inr ⟨(), hvalid, ?_⟩
            rw [if_neg hkind]
            rfl
        | cons head before =>
          simp only [List.cons_append, List.cons.injEq] at heq
          obtain ⟨rfl, rfl⟩ := heq
          obtain ⟨⟨hvalid, haccepts⟩, hrest⟩ := allFit_cons_iff.1 hbefore
          refine .inr ⟨(), hvalid, ?_⟩
          rw [if_pos haccepts, ih]
          refine ⟨before, operand, after, expected, rfl, hrest, by simpa using hexpected, ?_⟩
          rwa [List.length_cons, Nat.add_comm before.length, ← Nat.add_assoc] at hwrong

end Operands

/-- Validation points to a part of the value and quotes a part of it. It never
    complains about a color: whether a text is one is part of its kind. -/
theorem blames_of_validate_eq_error {v : Value} {e : ExpressionError}
    (h : v.validate = .error e) : e.Blames v := by
  -- Operands are validated before the application is accepted, so an error that
  -- is found in one of them is the one of the whole.
  induction v using Value.induction_on_items with
  | step v ih =>
    cases v with
    | sequence form items =>
      by_cases hhead : ∃ tag operands, items = .string tag :: operands
      · obtain ⟨tag, operands, rfl⟩ := hhead
        rw [validate] at h
        cases htag : Operator.ofTag? tag with
        | none =>
          simp only [htag, Except.error.injEq] at h
          subst h
          exact ⟨trivial, .refl, .refl⟩
        | some op =>
          simp only [htag] at h
          by_cases hlength : operands.length ≠ op.arity
          · rw [if_pos hlength, Except.error.injEq] at h
            subst h
            exact ⟨trivial, .refl, .refl⟩
          · rw [if_neg hlength] at h
            obtain ⟨before, operand, after, expected, rfl, -, -, hoperand⟩ :=
              validateOperands_eq_error_iff.1 h
            have hitem : operand ∈ Value.string tag :: (before ++ operand :: after) := by simp
            rcases hoperand with hvalidate | ⟨-, -, rfl⟩
            · exact (ih form _ rfl operand hitem hvalidate).item hitem
            · exact ⟨trivial, .item hitem .refl, .item hitem .refl⟩
      · rw [validate_sequence_of_head (by simpa using hhead)] at h
        rcases validatePlain_eq_error h with rfl | ⟨number, hmem, rfl⟩
        · exact ⟨trivial, .refl, .refl⟩
        · exact ⟨trivial, .refl, .item hmem .refl⟩
    | _ =>
      rw [validate_of_not_sequence (by simp)] at h
      rcases validatePlain_eq_error h with rfl | ⟨number, hmem, rfl⟩
      · exact ⟨trivial, .refl, .refl⟩
      · obtain rfl := List.mem_singleton.1 hmem
        exact ⟨trivial, .refl, .refl⟩

end Value

end SymbolStyle

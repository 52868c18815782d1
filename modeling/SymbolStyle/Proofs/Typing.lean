import Mathlib.Data.List.Forall2
import SymbolStyle.Expression.Typing

/-! # The typed expression language

    `WellTyped v k` says by rules that the value `v` is an expression of kind
    `k`. The rules look at a value from outside in: an application is typed by
    its operator's signature once each operand has a kind that its place
    accepts.

    * `WellTyped.kind_eq`: the kind of an expression is the one that
      `Value.kind` reads off its outside.
    * `Value.validate_eq_ok_iff`: validation accepts exactly what has the kind
      that was read off.
    * `Value.validate_iff_wellTyped`: both together.
-/

namespace SymbolStyle

open Value

/-! ## Rules -/

/-- The value is an expression of the given kind. -/
inductive WellTyped : Value → Kind → Prop where
  /-- A number that is, or rounds to, a finite double. -/
  | number {v : Value} (finite : v.isFiniteNumber) : WellTyped v .number
  /-- A text that writes a color. -/
  | colorText {text : String} (reads : isColorText text) :
      WellTyped (.string text) .colorOrString
  /-- Any other text. -/
  | text {text : String} (reads : isColorText text = false) : WellTyped (.string text) .string
  /-- The channels of a color, with or without alpha. -/
  | channels {form : SequenceForm} {items : List Value}
      (count : items.length = 3 ∨ items.length = 4)
      (finite : ∀ item ∈ items, item.isFiniteNumber) : WellTyped (.sequence form items) .color
  /-- An operator's tag and as many operands as its signature is long, each of
      a kind that its place accepts. -/
  | application {form : SequenceForm} {op : Operator} {operands : List Value} {kinds : List Kind}
      (typed : List.Forall₂ WellTyped operands kinds)
      (fits : List.Forall₂ (fun expected k => expected.accepts k) op.signature kinds) :
      WellTyped (.sequence form (.string op.tag :: operands)) op.returns

/-! ## Induction on values -/

/-- Induction on a value along the items of sequences. Entries of objects are
    not visited, since no expression has any. -/
theorem Value.induction_on_items {P : Value → Prop}
    (step : ∀ v, (∀ form items, v = .sequence form items → ∀ item ∈ items, P item) → P v)
    (v : Value) : P v := by
  apply step
  intro form items hv item hitem
  have hlt : sizeOf item < sizeOf v := by
    have := List.sizeOf_lt_of_mem hitem
    subst hv
    simp only [sequence.sizeOf_spec]
    omega
  exact induction_on_items step item
termination_by sizeOf v

/-- Two relations that agree on the members of the second list relate the same
    lists. -/
theorem forall₂_congr_mem {α β : Type} {R S : α → β → Prop} {as : List α} {bs : List β}
    (h : ∀ a, ∀ b ∈ bs, R a b ↔ S a b) : List.Forall₂ R as bs ↔ List.Forall₂ S as bs := by
  induction bs generalizing as with
  | nil => simp [List.forall₂_nil_right_iff]
  | cons b bs ih =>
    have htail : ∀ a, ∀ b ∈ bs, R a b ↔ S a b := fun a b hb => h a b (by simp [hb])
    simp [List.forall₂_cons_right_iff, h _ b, ih htail]

/-! ## Numbers and kinds -/

theorem Value.isFiniteNumber_int (n : Int) :
    (Value.int n).isFiniteNumber = (Double.ofInt n).isFinite := by
  rw [isFiniteNumber, number?, Option.any_some]

theorem Value.isFiniteNumber_float (x : Double) : (Value.float x).isFiniteNumber = x.isFinite := by
  rw [isFiniteNumber, number?, Option.any_some]

@[simp] theorem Value.isFiniteNumber_string (text : String) :
    (Value.string text).isFiniteNumber = false := rfl

@[simp] theorem Value.isFiniteNumber_sequence (form : SequenceForm) (items : List Value) :
    (Value.sequence form items).isFiniteNumber = false := rfl

theorem Value.isNumber_of_isFiniteNumber {v : Value} (h : v.isFiniteNumber) : v.isNumber := by
  cases v <;> simp_all [isFiniteNumber, number?, isNumber]

theorem Value.kind_of_isNumber {v : Value} (h : v.isNumber) : v.kind = .number := by
  cases v <;> simp_all [isNumber, kind]

/-- The head of an application is a text, so its items are not channels. -/
theorem Value.areChannels_string_cons (text : String) (items : List Value) :
    areChannels (.string text :: items) = false := by
  simp [areChannels, isNumber]

theorem Value.areChannels_of_isFiniteNumber {items : List Value}
    (count : items.length = 3 ∨ items.length = 4)
    (finite : ∀ item ∈ items, item.isFiniteNumber) : areChannels items := by
  have hnumbers : items.all isNumber := by
    rw [List.all_eq_true]
    intro item hitem
    exact isNumber_of_isFiniteNumber (finite item hitem)
  simp only [areChannels, Bool.and_eq_true, Bool.or_eq_true, decide_eq_true_eq]
  exact ⟨count, hnumbers⟩

theorem Value.kind_application (form : SequenceForm) (op : Operator) (operands : List Value) :
    (Value.sequence form (.string op.tag :: operands)).kind = op.returns := by
  simp [kind, areChannels_string_cons, headKind, Operator.ofTag?_tag]

/-- The rules agree with the kind that is read off the outside of a value. -/
theorem WellTyped.kind_eq {v : Value} {k : Kind} (h : WellTyped v k) : k = v.kind := by
  cases h with
  | number finite => exact (kind_of_isNumber (isNumber_of_isFiniteNumber finite)).symm
  | colorText reads => simp [kind, reads]
  | text reads => simp [kind, reads]
  | @channels form items count finite =>
    have hchannels := areChannels_of_isFiniteNumber count finite
    simp [kind, hchannels]
  | application typed fits => exact (kind_application _ _ _).symm

theorem WellTyped.finite_of_isNumber {v : Value} {k : Kind} (h : WellTyped v k) (hv : v.isNumber) :
    v.isFiniteNumber := by
  cases h with
  | number finite => exact finite
  | _ => exact absurd hv (by simp [isNumber])

theorem WellTyped.not_unknown {v : Value} : ¬ WellTyped v .unknown := by
  intro h
  generalize hk : Kind.unknown = k at h
  cases h with
  | application typed fits => exact Operator.returns_ne_unknown _ hk.symm
  | _ => contradiction

theorem Kind.number_accepts_iff {k : Kind} : Kind.number.accepts k ↔ k = .number := by
  cases k <;> decide

theorem Kind.string_accepts_iff {k : Kind} :
    Kind.string.accepts k ↔ k = .string ∨ k = .colorOrString := by
  cases k <;> decide

theorem Kind.color_accepts_iff {k : Kind} :
    Kind.color.accepts k ↔ k = .color ∨ k = .colorOrString := by
  cases k <;> decide

/-- Only a text is of a kind that stands for texts. -/
theorem WellTyped.exists_text {v : Value} {k : Kind} (h : WellTyped v k)
    (hk : k = .string ∨ k = .colorOrString) : ∃ text, v = .string text := by
  cases h with
  | colorText reads => exact ⟨_, rfl⟩
  | text reads => exact ⟨_, rfl⟩
  | @application form op operands kinds typed fits =>
    cases op <;> simp [Operator.returns] at hk
  | _ => simp at hk

/-- The kinds of texts. -/
theorem WellTyped.kind_of_text {text : String} {k : Kind} (h : WellTyped (.string text) k) :
    k = .string ∨ k = .colorOrString := by
  cases h with
  | colorText reads => exact .inr rfl
  | text reads => exact .inl rfl
  | number finite => simp at finite

/-! ## Validation of one node -/

/-- No number of a list is infinite or NaN. -/
theorem Value.findNonFinite?_eq_none_iff {items : List Value} :
    findNonFinite? items = none ↔ ∀ item ∈ items, item.isNumber → item.isFiniteNumber := by
  simp [findNonFinite?, List.find?_eq_none]

theorem Value.validatePlain_eq_ok_iff {v : Value} {numbers : List Value} :
    validatePlain v numbers = .ok () ↔
      (∀ number ∈ numbers, number.isNumber → number.isFiniteNumber) ∧ v.kind ≠ .unknown := by
  rw [← findNonFinite?_eq_none_iff]
  unfold validatePlain
  cases findNonFinite? numbers with
  | some number => simp
  | none =>
    by_cases hk : v.kind = .unknown
    · simp [hk]
    · simp [hk]

/-- Operands are accepted if each is valid and its place accepts its kind. -/
theorem Value.validateOperands_eq_ok_iff (op : Operator) (position : Nat) {signature : List Kind}
    {operands : List Value} (hlen : signature.length = operands.length) :
    validateOperands op position signature operands = .ok () ↔
      List.Forall₂ (fun expected operand =>
        operand.validate = .ok () ∧ expected.accepts operand.kind) signature operands := by
  induction signature generalizing position operands with
  | nil =>
    cases operands with
    | nil => simp [validateOperands]
    | cons operand operands => simp at hlen
  | cons expected signature ih =>
    cases operands with
    | nil => simp at hlen
    | cons operand operands =>
      have hlen' : signature.length = operands.length := by simpa using hlen
      rw [List.forall₂_cons, ← ih (position + 1) hlen', validateOperands]
      cases hv : operand.validate with
      | error e => simp [bind, Except.bind]
      | ok u =>
        by_cases hk : expected.accepts operand.kind
        · simp [bind, Except.bind, hk]
        · simp [bind, Except.bind, hk]

theorem Value.validate_application_eq_ok_iff {form : SequenceForm} {op : Operator}
    {operands : List Value} :
    (Value.sequence form (.string op.tag :: operands)).validate = .ok () ↔
      List.Forall₂ (fun expected operand =>
        operand.validate = .ok () ∧ expected.accepts operand.kind) op.signature operands := by
  rw [validate, Operator.ofTag?_tag]
  by_cases hlen : operands.length = op.arity
  · have hlen' : op.signature.length = operands.length := hlen.symm
    -- Positions of operands count from one; they matter for errors only.
    simp only [hlen, ne_eq, not_true_eq_false, if_false]
    exact validateOperands_eq_ok_iff op 1 hlen'
  · simp only [ne_eq, hlen, not_false_eq_true, if_true, reduceCtorEq, false_iff]
    intro h
    exact hlen h.length_eq.symm

/-- Nothing is typed by a tag that no operator has. -/
theorem WellTyped.ofTag?_ne_none {form : SequenceForm} {tag : String} {operands : List Value}
    {k : Kind} (h : WellTyped (.sequence form (.string tag :: operands)) k) :
    Operator.ofTag? tag ≠ none := by
  cases h with
  | number finite => exact absurd finite (by simp)
  | channels count finite =>
    have := finite (.string tag) (by simp)
    exact absurd this (by simp)
  | application typed fits => simp [Operator.ofTag?_tag]

/-- Giving each operand a kind that fits its place is giving kinds to all
    operands that fit all places. -/
theorem forall₂_exists_iff {α β γ : Type} {R : α → γ → Prop} {S : β → γ → Prop}
    {as : List α} {bs : List β} :
    List.Forall₂ (fun a b => ∃ c, S b c ∧ R a c) as bs ↔
      ∃ cs, List.Forall₂ S bs cs ∧ List.Forall₂ R as cs := by
  constructor
  · intro h
    induction h with
    | nil => exact ⟨[], .nil, .nil⟩
    | cons hhead _ ih =>
      obtain ⟨c, hS, hR⟩ := hhead
      obtain ⟨cs, hSs, hRs⟩ := ih
      exact ⟨c :: cs, .cons hS hSs, .cons hR hRs⟩
  · rintro ⟨cs, hS, hR⟩
    -- The kinds run along with the operands, so one induction serves both.
    induction hS generalizing as with
    | nil =>
      cases hR
      exact .nil
    | @cons b c bs cs hb _ ih =>
      cases hR with
      | cons hc hcs => exact .cons ⟨c, hb, hc⟩ (ih hcs)

/-- What the rule for applications asks of the operands. -/
theorem WellTyped.application_iff {form : SequenceForm} {op : Operator} {operands : List Value}
    {k : Kind} :
    WellTyped (.sequence form (.string op.tag :: operands)) k ↔
      k = op.returns ∧ List.Forall₂ (fun expected operand =>
        ∃ actual, WellTyped operand actual ∧ expected.accepts actual) op.signature operands := by
  constructor
  · intro h
    have hk : k = op.returns := h.kind_eq.trans (kind_application _ _ _)
    refine ⟨hk, ?_⟩
    generalize htag : op.tag = tag at h
    cases h with
    | number finite => exact absurd finite (by simp)
    | channels count finite =>
      have := finite (.string tag) (by simp)
      exact absurd this (by simp)
    | @application _ other _ kinds typed fits =>
      -- Two operators of one tag are the same.
      obtain rfl : op = other := by
        have := Operator.ofTag?_tag op
        rw [htag, Operator.ofTag?_tag] at this
        exact (Option.some.inj this).symm
      exact forall₂_exists_iff.2 ⟨kinds, typed, fits⟩
  · rintro ⟨rfl, h⟩
    obtain ⟨kinds, typed, fits⟩ := forall₂_exists_iff.1 h
    exact .application typed fits

/-- Each operand of an application is an expression. -/
theorem WellTyped.exists_kind_of_mem {form : SequenceForm} {op : Operator}
    {operands : List Value} {operand : Value} {k : Kind}
    (h : WellTyped (.sequence form (.string op.tag :: operands)) k) (hmem : operand ∈ operands) :
    ∃ actual, WellTyped operand actual := by
  obtain ⟨-, hoperands⟩ := WellTyped.application_iff.1 h
  obtain ⟨i, hi, rfl⟩ := List.getElem_of_mem hmem
  obtain ⟨actual, htyped, -⟩ := hoperands.get (hoperands.length_eq ▸ hi) hi
  exact ⟨actual, htyped⟩

/-- A sequence that is no application is an expression only as a color. -/
theorem WellTyped.sequence_iff_of_head {form : SequenceForm} {items : List Value} {k : Kind}
    (hhead : ∀ tag operands, items ≠ .string tag :: operands) :
    WellTyped (.sequence form items) k ↔
      k = .color ∧ (items.length = 3 ∨ items.length = 4) ∧ ∀ item ∈ items, item.isFiniteNumber := by
  constructor
  · intro h
    cases h with
    | number finite => exact absurd finite (by simp)
    | channels count finite => exact ⟨rfl, count, finite⟩
    | application typed fits => exact absurd rfl (hhead _ _)
  · rintro ⟨rfl, count, finite⟩
    exact .channels count finite

/-! ## Validation and the rules -/

theorem Value.validate_sequence_of_head {form : SequenceForm} {items : List Value}
    (hhead : ∀ tag operands, items ≠ .string tag :: operands) :
    (Value.sequence form items).validate = validatePlain (.sequence form items) items := by
  rw [validate]
  intro tag operands heq
  exact hhead tag operands heq

/-- A sequence that is no application is accepted if it is a color of finite
    numbers. -/
theorem Value.validate_sequence_iff_of_head {form : SequenceForm} {items : List Value}
    (hhead : ∀ tag operands, items ≠ .string tag :: operands) :
    (Value.sequence form items).validate = .ok () ↔
      WellTyped (.sequence form items) (Value.sequence form items).kind := by
  have hunknown : headKind items = .unknown := by
    unfold headKind
    split
    · next tag operands => exact absurd rfl (hhead tag operands)
    · rfl
  have hkind : (Value.sequence form items).kind
      = if areChannels items then .color else .unknown := by
    rw [kind, hunknown]
  rw [validate_sequence_of_head hhead, validatePlain_eq_ok_iff,
    WellTyped.sequence_iff_of_head hhead, hkind]
  by_cases hchannels : areChannels items
  · -- All items are numbers here, so each of them is checked to be finite.
    simp only [areChannels, Bool.and_eq_true, Bool.or_eq_true, decide_eq_true_eq,
      List.all_eq_true] at hchannels
    obtain ⟨hcount, hnumbers⟩ := hchannels
    constructor
    · rintro ⟨hfinite, -⟩
      refine ⟨?_, hcount, fun item hitem => hfinite item hitem (hnumbers item hitem)⟩
      simp [areChannels, hcount, List.all_eq_true.2 hnumbers]
    · rintro ⟨-, -, hfinite⟩
      refine ⟨fun item hitem _ => hfinite item hitem, ?_⟩
      simp [areChannels, hcount, List.all_eq_true.2 hnumbers]
  · simp [hchannels]

/-- Validation accepts exactly the values that have, by the rules, the kind
    that is read off their outside. -/
theorem Value.validate_eq_ok_iff (v : Value) : v.validate = .ok () ↔ WellTyped v v.kind := by
  induction v using Value.induction_on_items with
  | step v ih =>
    cases v with
    | sequence form items =>
      -- A text at the head makes an application of the sequence, a known tag or
      -- not; only then are operands visited.
      by_cases hhead : ∃ tag operands, items = .string tag :: operands
      · obtain ⟨tag, operands, rfl⟩ := hhead
        cases htag : Operator.ofTag? tag with
        | none =>
          constructor
          · intro h
            simp [validate, htag] at h
          · intro h
            exact absurd htag h.ofTag?_ne_none
        | some op =>
          obtain rfl := Operator.tag_of_ofTag? htag
          rw [validate_application_eq_ok_iff, kind_application, WellTyped.application_iff]
          simp only [true_and]
          -- Some kind by the rules is the kind that is read off.
          have hoperand : ∀ expected : Kind, ∀ operand ∈ operands,
              (operand.validate = .ok () ∧ expected.accepts operand.kind) ↔
                ∃ actual, WellTyped operand actual ∧ expected.accepts actual := by
            intro expected operand hmem
            rw [ih form _ rfl operand (by simp [hmem])]
            constructor
            · rintro ⟨typed, fits⟩
              exact ⟨operand.kind, typed, fits⟩
            · rintro ⟨actual, typed, fits⟩
              obtain rfl := typed.kind_eq
              exact ⟨typed, fits⟩
          exact forall₂_congr_mem hoperand
      · exact validate_sequence_iff_of_head (by simpa using hhead)
    | string text =>
      by_cases hreads : isColorText text
      · simp [validate, validatePlain_eq_ok_iff, isNumber, kind, hreads, WellTyped.colorText]
      · simp only [Bool.not_eq_true] at hreads
        simp [validate, validatePlain_eq_ok_iff, isNumber, kind, hreads, WellTyped.text]
    | int n =>
      have hiff : WellTyped (.int n) .number ↔ (Value.int n).isFiniteNumber :=
        ⟨fun h => h.finite_of_isNumber rfl, .number⟩
      simp [validate, validatePlain_eq_ok_iff, isNumber, kind, hiff]
    | float x =>
      have hiff : WellTyped (.float x) .number ↔ (Value.float x).isFiniteNumber :=
        ⟨fun h => h.finite_of_isNumber rfl, .number⟩
      simp [validate, validatePlain_eq_ok_iff, isNumber, kind, hiff]
    | _ => simp [validate, validatePlain_eq_ok_iff, isNumber, kind, WellTyped.not_unknown]

/-- What has a kind by the rules is accepted. -/
theorem WellTyped.validate_eq_ok {v : Value} {k : Kind} (h : WellTyped v k) :
    v.validate = .ok () := by
  obtain rfl := h.kind_eq
  exact v.validate_eq_ok_iff.2 h

theorem Value.validate_eq_ok_of_isOk {v : Value} (h : v.validate.isOk) : v.validate = .ok () := by
  cases hresult : v.validate with
  | ok _ => rfl
  | error e =>
    rw [hresult] at h
    cases h

/-- Validation accepts exactly the typed values. The kind of an expression is
    unique, and it is the one that is read off its outside. -/
theorem Value.validate_iff_wellTyped (v : Value) :
    (v.validate = .ok () ↔ ∃ k, WellTyped v k) ∧
      ∀ k, WellTyped v k → k = v.kind ∧ ∀ other, WellTyped v other → other = k := by
  constructor
  · constructor
    · intro h
      exact ⟨v.kind, v.validate_eq_ok_iff.1 h⟩
    · rintro ⟨k, h⟩
      exact h.validate_eq_ok
  · intro k h
    refine ⟨h.kind_eq, ?_⟩
    intro other hother
    exact hother.kind_eq.trans h.kind_eq.symm

end SymbolStyle

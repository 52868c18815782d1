import SymbolStyle.Proofs.Meaning

/-! # Code computes the meaning

    What is emitted for an expression computes its meaning.

    * `Operator.exists_computes`: the filled template of an operator computes
      what the operator makes of the operands.
    * `Feeds`: an environment gives each name in the code the value of the
      input that the expression reads under it. One name can stand for two
      inputs: a variable `time` and the clock are both read as `u_time`.
    * `exists_feeds_iff`: there is such an environment unless the expression
      reads both and they differ.
    * `compile_preserves_meaning`: where the inputs are fed, code computes the
      meaning of its expression.
-/

namespace SymbolStyle

open Value
open Glsl (Expr Literal Term ReadsAs)

/-! ## Templates -/

/-- Whatever trees the template of the operator is filled in with, it computes
    the value `d` if they compute the values `ds`. -/
def Operator.Computes (A : Arithmetic) (time : ℚ) (op : Operator) (ds : List Datum)
    (d : Datum) : Prop :=
  ∀ env ts t, Term.template? op.tag ts = some t →
    List.Forall₂ (fun t d => t.eval A env = some d) ts ds →
    (op = .time → env "u_time" = time) → t.eval A env = some d

section Templates

variable {A : Arithmetic} {time : ℚ}

/-- A template for two numbers is filled in with two trees. -/
theorem Operator.computes_two {op : Operator} {x y : ℚ} {d : Datum}
    (h : ∀ env a b t, Term.template? op.tag [a, b] = some t → a.eval A env = some (.number x) →
      b.eval A env = some (.number y) → t.eval A env = some d) :
    op.Computes A time [.number x, .number y] d := by
  intro env ts t ht hts _
  simp only [List.forall₂_cons_right_iff, List.forall₂_nil_right_iff] at hts
  obtain ⟨a, _, ha, ⟨b, _, hb, rfl, rfl⟩, rfl⟩ := hts
  exact h env a b t ht ha hb

/-- Operators between two numbers. -/
theorem Operator.exists_computes_two {op : Operator} (hop : op.signature = [.number, .number])
    (x y : ℚ) : ∃ z, op.meaning A time [.number x, .number y] = some (.number z) ∧
      op.Computes A time [.number x, .number y] (.number z) := by
  cases op with
  | multiply | divide | add | subtract =>
    refine ⟨_, rfl, computes_two ?_⟩
    intro env a b t ht ha hb
    obtain rfl := Option.some.inj ht
    exact Term.eval_binary _ ha hb
  | mod | pow =>
    refine ⟨_, rfl, computes_two ?_⟩
    intro env a b t ht ha hb
    obtain rfl := Option.some.inj ht
    exact Term.eval_call (.cons ha (.cons hb .nil))
  | greater | greaterOrEqual | less | lessOrEqual | equal =>
    refine ⟨_, rfl, computes_two ?_⟩
    intro env a b t ht ha hb
    obtain rfl := Option.some.inj ht
    exact Term.eval_decision (Term.eval_binary _ ha hb)
  | _ => simp [signature] at hop

theorem Operator.computes_not (x : ℚ) :
    Operator.not.Computes A time [.number x] (.ofTruth (¬ x > 0)) := by
  intro env ts t ht hts _
  simp only [List.forall₂_cons_right_iff, List.forall₂_nil_right_iff] at hts
  obtain ⟨a, _, ha, rfl, rfl⟩ := hts
  obtain rfl := Option.some.inj ht
  rw [decide_not]
  exact Term.eval_negation (Term.eval_binary _ ha Term.eval_zero)

theorem Operator.computes_clamp (x low high : ℚ) :
    Operator.clamp.Computes A time [.number x, .number low, .number high]
      (.number (SymbolStyle.clamp x low high)) := by
  intro env ts t ht hts _
  have hcall := hts
  simp only [List.forall₂_cons_right_iff, List.forall₂_nil_right_iff] at hts
  obtain ⟨a, _, ha, ⟨b, _, hb, ⟨c, _, hc, rfl, rfl⟩, rfl⟩, rfl⟩ := hts
  obtain rfl := Option.some.inj ht
  exact Term.eval_call hcall

theorem Operator.computes_between (x low high : ℚ) :
    Operator.between.Computes A time [.number x, .number low, .number high]
      (.ofTruth (low ≤ x ∧ x ≤ high)) := by
  intro env ts t ht hts _
  simp only [List.forall₂_cons_right_iff, List.forall₂_nil_right_iff] at hts
  obtain ⟨a, _, ha, ⟨b, _, hb, ⟨c, _, hc, rfl, rfl⟩, rfl⟩, rfl⟩ := hts
  obtain rfl := Option.some.inj ht
  have hlow := Term.eval_binary .greaterOrEqual ha hb
  have hhigh := Term.eval_binary .lessOrEqual ha hc
  rw [Bool.decide_and]
  exact Term.eval_decision (Term.eval_binary _ hlow hhigh)

theorem Operator.computes_stretch (x low high newLow newHigh : ℚ) :
    Operator.stretch.Computes A time
      [.number x, .number low, .number high, .number newLow, .number newHigh]
      (.number (A.stretch x low high newLow newHigh)) := by
  intro env ts t ht hts _
  simp only [List.forall₂_cons_right_iff, List.forall₂_nil_right_iff] at hts
  obtain ⟨a, _, ha, hts, rfl⟩ := hts
  obtain ⟨b, _, hb, ⟨c, _, hc, ⟨d, _, hd, ⟨e, _, he, rfl, rfl⟩, rfl⟩, rfl⟩, rfl⟩ := hts
  obtain rfl := Option.some.inj ht
  have hclamp : (Term.call "clamp" [a, b, c]).eval A env
      = some (.number (SymbolStyle.clamp x low high)) :=
    Term.eval_call (.cons ha (.cons hb (.cons hc .nil)))
  have halong : (Term.binary .subtract (.call "clamp" [a, b, c]) b).eval A env
      = some (.number (SymbolStyle.clamp x low high - low)) := Term.eval_binary _ hclamp hb
  have hnew : (Term.binary .subtract e d).eval A env = some (.number (newHigh - newLow)) :=
    Term.eval_binary _ he hd
  have hold : (Term.binary .subtract c b).eval A env = some (.number (high - low)) :=
    Term.eval_binary _ hc hb
  have hfactor : (Term.binary .divide (.binary .subtract e d) (.binary .subtract c b)).eval A env
      = some (.number (A.divide (newHigh - newLow) (high - low))) :=
    Term.eval_binary _ hnew hold
  have hproduct := Term.eval_binary .multiply halong hfactor
  exact Term.eval_binary _ hproduct hd

theorem Operator.computes_interpolate (ratio r g b a r' g' b' a' : ℚ) :
    Operator.interpolate.Computes A time [.number ratio, .color r g b a, .color r' g' b' a']
      (.mix r g b a r' g' b' a' ratio) := by
  intro env ts t ht hts _
  simp only [List.forall₂_cons_right_iff, List.forall₂_nil_right_iff] at hts
  obtain ⟨tratio, _, hratio, ⟨tstart, _, hstart, ⟨tstop, _, hstop, rfl, rfl⟩, rfl⟩, rfl⟩ := hts
  obtain rfl := Option.some.inj ht
  -- The ratio comes first in an expression, and last in its code.
  exact Term.eval_call (.cons hstart (.cons hstop (.cons hratio .nil)))

/-- Operands of the right kinds have a value under every operator, and its
    template computes it. -/
theorem Operator.exists_computes {op : Operator} {ds : List Datum}
    (hds : List.Forall₂ (fun k d => d.IsOf k) op.signature ds) :
    ∃ d, op.meaning A time ds = some d ∧ d.IsOf op.returns ∧ op.Computes A time ds d := by
  have htext : op.signature ≠ [.string] := by
    intro hop
    rw [hop, List.forall₂_cons_left_iff] at hds
    obtain ⟨d, _, hd, -, -⟩ := hds
    exact Datum.not_isOf_string hd
  rcases op.signature_cases with hop | rfl | rfl | hop | hop | rfl | rfl
  · -- `get` and `var`
    rcases hop with rfl | rfl
    · exact absurd rfl htext
    · exact absurd rfl htext
  · -- `time`
    simp only [signature, List.forall₂_nil_left_iff] at hds
    subst hds
    refine ⟨.number time, rfl, .number time, ?_⟩
    intro env ts t ht hts htime
    rw [List.forall₂_nil_right_iff] at hts
    subst hts
    obtain rfl := Option.some.inj ht
    rw [Term.eval, htime rfl]
  · -- `!`
    simp only [signature, List.forall₂_cons_left_iff, List.forall₂_nil_left_iff,
      Datum.isOf_number_iff] at hds
    obtain ⟨_, _, ⟨x, rfl⟩, rfl, rfl⟩ := hds
    exact ⟨_, rfl, .number _, computes_not x⟩
  · -- two numbers
    have hreturns : op.returns = .number := Operator.returns_eq_number (by simp [hop])
    simp only [hop, List.forall₂_cons_left_iff, List.forall₂_nil_left_iff,
      Datum.isOf_number_iff] at hds
    obtain ⟨_, _, ⟨x, rfl⟩, ⟨_, _, ⟨y, rfl⟩, rfl, rfl⟩, rfl⟩ := hds
    obtain ⟨z, hmeaning, hcomputes⟩ := exists_computes_two hop x y
    exact ⟨_, hmeaning, hreturns ▸ .number z, hcomputes⟩
  · -- three numbers
    simp only [hop, List.forall₂_cons_left_iff, List.forall₂_nil_left_iff,
      Datum.isOf_number_iff] at hds
    obtain ⟨_, _, ⟨x, rfl⟩, ⟨_, _, ⟨low, rfl⟩, ⟨_, _, ⟨high, rfl⟩, rfl, rfl⟩, rfl⟩, rfl⟩ := hds
    rcases op.three_cases hop with rfl | rfl
    · exact ⟨_, rfl, .number _, computes_clamp x low high⟩
    · exact ⟨_, rfl, .number _, computes_between x low high⟩
  · -- `stretch`
    simp only [signature, List.forall₂_cons_left_iff, List.forall₂_nil_left_iff,
      Datum.isOf_number_iff] at hds
    obtain ⟨_, _, ⟨x, rfl⟩, hds, rfl⟩ := hds
    obtain ⟨_, _, ⟨low, rfl⟩, ⟨_, _, ⟨high, rfl⟩, ⟨_, _, ⟨newLow, rfl⟩, ⟨_, _, ⟨newHigh, rfl⟩,
      rfl, rfl⟩, rfl⟩, rfl⟩, rfl⟩ := hds
    exact ⟨_, rfl, .number _, computes_stretch x low high newLow newHigh⟩
  · -- `interpolate`
    simp only [signature, List.forall₂_cons_left_iff, List.forall₂_nil_left_iff,
      Datum.isOf_number_iff, Datum.isOf_color_iff] at hds
    obtain ⟨_, _, ⟨ratio, rfl⟩, ⟨_, _, ⟨r, g, b, a, rfl⟩, ⟨_, _, ⟨r', g', b', a', rfl⟩, rfl, rfl⟩,
      rfl⟩, rfl⟩ := hds
    exact ⟨_, rfl, .color _ _ _ _ (by decide), computes_interpolate ratio r g b a r' g' b' a'⟩

end Templates

/-! ## Constants -/

section Constants

variable {A : Arithmetic} {env : String → ℚ}

theorem eval_literal (l : Literal) : l.term.eval A env = some (.number l.value) := by
  have hnumber : (Term.number (String.ofList l.magnitude.shortest.positional)).eval A env
      = some (.number l.magnitude.shortest.value) := by
    rw [Term.eval, String.toList_ofList, denoted_positional]
  unfold Literal.term Literal.value
  by_cases hnegative : l.negative
  · rw [if_pos hnegative, if_pos hnegative, Term.eval, hnumber]
  · rw [if_neg hnegative, if_neg hnegative, hnumber]

theorem eval_color (r g b a : Literal) :
    (Term.call "vec4" [r.term, g.term, b.term, a.term]).eval A env
      = some (.color r.value g.value b.value a.value) :=
  Term.eval_call (.cons (eval_literal r) (.cons (eval_literal g) (.cons (eval_literal b)
    (.cons (eval_literal a) .nil))))

/-- What has the constant of a color is of a kind that stands for colors. -/
theorem WellTyped.color_accepts_of_colorOf {v : Value} {k : Kind} {e : Expr} (h : WellTyped v k)
    (hcolor : Glsl.colorOf v = .ok e) : Kind.color.accepts k := by
  cases h with
  | number finite =>
    exact absurd hcolor (colorOf_ne_ok_of_isNumber (isNumber_of_isFiniteNumber finite) e)
  | colorText reads => rfl
  | text reads =>
    rw [Glsl.colorOf_of_not_isColorText reads] at hcolor
    exact absurd hcolor (by simp)
  | channels count finite => rfl
  | application typed fits => exact absurd hcolor (colorOf_ne_ok_of_string_cons e)

end Constants

/-! ## Inputs in code -/

/-- Somewhere in the value stands an application that reads the clock. -/
inductive ReadsClock : Value → Prop where
  | time {form : SequenceForm} : ReadsClock (.sequence form [.string "time"])
  | item {form : SequenceForm} {items : List Value} {item : Value} (hmem : item ∈ items)
      (h : ReadsClock item) : ReadsClock (.sequence form items)

/-- Applications of `time` read the clock, and sequences what their items do. -/
theorem ReadsClock.sequence_iff {form : SequenceForm} {items : List Value} :
    ReadsClock (.sequence form items) ↔
      items = [.string "time"] ∨ ∃ item ∈ items, ReadsClock item := by
  constructor
  · intro h
    cases h with
    | time => exact .inl rfl
    | item hmem h => exact .inr ⟨_, hmem, h⟩
  · rintro (rfl | ⟨item, hmem, h⟩)
    · exact .time
    · exact .item hmem h

/-- The environment gives each name in the code of the value the value of the
    input that is read under it. -/
structure Feeds (stem : String) (inputs : Inputs) (env : String → ℚ) (v : Value) : Prop where
  «attribute» : ∀ name, Reads v (.attribute name) → env (stem ++ name) = inputs.attribute name
  «variable» : ∀ name, Reads v (.variable name) → env ("u_" ++ name) = inputs.variable name
  clock : ReadsClock v → env "u_time" = inputs.time

/-! ## Expressions -/

section Expressions

variable {A : Arithmetic} {env : String → ℚ} {inputs : Inputs} {stem : String}
  {form : SequenceForm}

theorem Feeds.item {items : List Value} {item : Value}
    (h : Feeds stem inputs env (.sequence form items)) (hmem : item ∈ items) :
    Feeds stem inputs env item where
  «attribute» name hreads := h.attribute name (.item hmem hreads)
  «variable» name hreads := h.variable name (.item hmem hreads)
  clock hreads := h.clock (.item hmem hreads)

/-- The value has a meaning of the given kind, and the tree computes it wherever
    the inputs are fed. -/
def Means (A : Arithmetic) (inputs : Inputs) (stem : String) (v : Value) (k : Kind) (t : Term) :
    Prop :=
  ∃ d, v.meaning A inputs = some d ∧ d.IsOf k ∧
    ∀ env, Feeds stem inputs env v → t.eval A env = some d

/-- Operands have meanings of the kinds of their places if each has one. -/
theorem exists_meanings {signature : List Kind} {operands : List Value} {ts : List Term}
    (htyped : List.Forall₂ (fun expected operand =>
      ∃ actual, WellTyped operand actual ∧ expected.accepts actual) signature operands)
    (hts : List.Forall₂ (Instantiates stem) operands ts) (hstring : Kind.string ∉ signature)
    (hmeans : ∀ operand ∈ operands, ∀ k t, WellTyped operand k → Instantiates stem operand t →
      Means A inputs stem operand k t) :
    ∃ ds, List.Forall₂ (fun v d => v.meaning A inputs = some d) operands ds ∧
      List.Forall₂ (fun k d => d.IsOf k) signature ds ∧
      ∀ env, (∀ operand ∈ operands, Feeds stem inputs env operand) →
        List.Forall₂ (fun t d => t.eval A env = some d) ts ds := by
  induction htyped generalizing ts with
  | nil =>
    cases hts with
    | nil => exact ⟨[], .nil, .nil, fun _ _ => .nil⟩
  | @cons expected operand signature operands hoperand _ ih =>
    cases hts with
    | @cons _ t _ ts ht hts =>
      obtain ⟨actual, hactual, haccepts⟩ := hoperand
      obtain ⟨d, hd, hkind, heval⟩ := hmeans operand (by simp) actual t hactual ht
      have hexpected : expected ≠ .string := by
        rintro rfl
        exact hstring (by simp)
      obtain ⟨ds, hds, hkinds, hevals⟩ := ih hts (fun hmem => hstring (by simp [hmem]))
        fun operand hmem => hmeans operand (by simp [hmem])
      refine ⟨d :: ds, .cons hd hds, .cons (hkind.of_accepts haccepts hexpected) hkinds, ?_⟩
      intro env hfeeds
      exact .cons (heval env (hfeeds operand (by simp)))
        (hevals env fun operand hmem => hfeeds operand (by simp [hmem]))

/-- The tag of a typed application is that of an operator. -/
theorem WellTyped.exists_operator {tag : String} {operands : List Value} {k : Kind}
    (h : WellTyped (.sequence form (.string tag :: operands)) k) :
    ∃ op : Operator, op.tag = tag ∧ k = op.returns := by
  generalize hv : Value.sequence form (.string tag :: operands) = v at h
  cases h with
  | number finite => simp [← hv] at finite
  | colorText reads => simp at hv
  | text reads => simp at hv
  | channels count finite =>
    cases hv
    exact absurd (finite (.string tag) (by simp)) (by simp)
  | @application _ op _ _ typed fits =>
    cases hv
    exact ⟨op, rfl, rfl⟩

/-- An application means what its filled template computes, if this is so for
    the operands. -/
theorem means_application {tag : String} {operands : List Value} {ts : List Term} {t : Term}
    {k : Kind} (hv : WellTyped (.sequence form (.string tag :: operands)) k)
    (hts : List.Forall₂ (Instantiates stem) operands ts) (ht : Term.template? tag ts = some t)
    (hmeans : ∀ operand ∈ operands, ∀ k t, WellTyped operand k → Instantiates stem operand t →
      Means A inputs stem operand k t) :
    Means A inputs stem (.sequence form (.string tag :: operands)) k t := by
  obtain ⟨op, rfl, rfl⟩ := hv.exists_operator
  have hop : Kind.string ∉ op.signature := by
    intro hmem
    cases op with
    | get => rw [show Operator.get.tag = "get" from rfl, template?_get] at ht; simp at ht
    | var => rw [show Operator.var.tag = "var" from rfl, template?_var] at ht; simp at ht
    | _ => exact absurd hmem (by decide)
  have htyped := (WellTyped.application_iff.1 hv).2
  obtain ⟨ds, hds, hkinds, hevals⟩ := exists_meanings htyped hts hop hmeans
  obtain ⟨d, hmeaning, hkind, hcomputes⟩ := Operator.exists_computes (A := A) hkinds
  refine ⟨d, (meaning_application hop hds).trans hmeaning, hkind, ?_⟩
  intro env hfeeds
  apply hcomputes env ts t ht
  · exact hevals env fun operand hmem => hfeeds.item (by simp [hmem])
  · rintro rfl
    have hoperands : operands = [] := by
      simpa [Operator.signature, List.forall₂_nil_left_iff] using htyped
    subst hoperands
    exact hfeeds.clock .time

/-- The instantiated template of an expression computes its meaning. -/
theorem Instantiates.means {v : Value} {t : Term} {k : Kind} (h : Instantiates stem v t)
    (hv : WellTyped v k) : Means A inputs stem v k t := by
  -- The operands are smaller, and an application is as its operator makes it.
  induction v using Value.induction_on_items generalizing t k with
  | step v ih =>
    cases h with
    | @number _ l hnumber hl =>
      have hkind : k = .number := hv.kind_eq.trans (kind_of_isNumber hnumber)
      have hplain : ∀ form tag operands, v ≠ .sequence form (.string tag :: operands) := by
        rintro form tag operands rfl
        simp [isNumber] at hnumber
      refine ⟨.number l.value, ?_, hkind ▸ .number l.value, fun _ _ => eval_literal l⟩
      rw [meaning_of_not_application hplain, constantMeaning_number hnumber hl]
    | @color _ r g b a hcolor =>
      have hkind : Kind.color.accepts k := hv.color_accepts_of_colorOf hcolor
      have hplain : ∀ form tag operands, v ≠ .sequence form (.string tag :: operands) := by
        rintro form tag operands rfl
        exact colorOf_ne_ok_of_string_cons _ hcolor
      refine ⟨_, ?_, .color r.value g.value b.value a.value hkind, fun _ _ => eval_color r g b a⟩
      rw [meaning_of_not_application hplain, constantMeaning_color hcolor]
    | @get form name =>
      have hkind : k = .number := hv.kind_eq.trans (kind_application form .get _)
      refine ⟨.number (inputs.attribute name), meaning_get, hkind ▸ .number _, ?_⟩
      intro env hfeeds
      rw [Term.eval, hfeeds.attribute name .get]
    | @var form name =>
      have hkind : k = .number := hv.kind_eq.trans (kind_application form .var _)
      refine ⟨.number (inputs.variable name), meaning_var, hkind ▸ .number _, ?_⟩
      intro env hfeeds
      rw [Term.eval, hfeeds.variable name .var]
    | @application form tag operands ts t hts ht =>
      apply means_application hv hts ht
      intro operand hmem k' t' hoperand hinstantiates
      exact ih form _ rfl operand (by simp [hmem]) hinstantiates hoperand

/-- Applications of other operators than `get` and `var` have trees for their
    operands. -/
theorem Instantiates.exists_operands {tag : String} {operands : List Value} {t : Term}
    (h : Instantiates stem (.sequence form (.string tag :: operands)) t) (hget : tag ≠ "get")
    (hvar : tag ≠ "var") :
    ∃ ts, List.Forall₂ (Instantiates stem) operands ts ∧ Term.template? tag ts = some t := by
  cases h with
  | number hnumber => simp [isNumber] at hnumber
  | color hcolor => exact absurd hcolor (colorOf_ne_ok_of_string_cons _)
  | get => exact absurd rfl hget
  | var => exact absurd rfl hvar
  | application hts ht => exact ⟨_, hts, ht⟩

/-- A stretch has the value that stretching the old range to the new one gives. -/
theorem Instantiates.meaning_stretch {x low high newLow newHigh : Value} {t : Term} {k : Kind}
    (h : Instantiates stem
      (.sequence form [.string "stretch", x, low, high, newLow, newHigh]) t)
    (hv : WellTyped (.sequence form [.string "stretch", x, low, high, newLow, newHigh]) k) :
    ∃ a l h l' h', x.meaning A inputs = some (.number a) ∧ low.meaning A inputs = some (.number l) ∧
      high.meaning A inputs = some (.number h) ∧ newLow.meaning A inputs = some (.number l') ∧
      newHigh.meaning A inputs = some (.number h') ∧
      (Value.sequence form [.string "stretch", x, low, high, newLow, newHigh]).meaning A inputs
        = some (.number (A.stretch a l h l' h')) := by
  obtain ⟨ts, hts, -⟩ := h.exists_operands (by decide) (by decide)
  have htyped := (@WellTyped.application_iff form .stretch _ _).1 hv
  obtain ⟨ds, hds, hkinds, -⟩ := exists_meanings (A := A) htyped.2 hts (by decide)
    fun operand _ k t hoperand hinstantiates => hinstantiates.means hoperand
  simp only [Operator.signature, List.forall₂_cons_left_iff, List.forall₂_nil_left_iff,
    Datum.isOf_number_iff] at hkinds
  obtain ⟨_, _, ⟨a, rfl⟩, hkinds, rfl⟩ := hkinds
  obtain ⟨_, _, ⟨l, rfl⟩, ⟨_, _, ⟨h, rfl⟩, ⟨_, _, ⟨l', rfl⟩, ⟨_, _, ⟨h', rfl⟩,
    rfl, rfl⟩, rfl⟩, rfl⟩, rfl⟩ := hkinds
  have hmeaning := @meaning_application A inputs form .stretch _ _ (by decide) hds
  simp only [List.forall₂_cons, List.Forall₂.nil, and_true] at hds
  obtain ⟨hx, hlow, hhigh, hnewLow, hnewHigh⟩ := hds
  exact ⟨a, l, h, l', h', hx, hlow, hhigh, hnewLow, hnewHigh, hmeaning⟩

end Expressions

/-! ## Environments -/

/-- An environment that gives each name the value of its input, and the clock
    that of the argument. -/
def Inputs.environment (inputs : Inputs) (clock : ℚ) (text : String) : ℚ :=
  match text.toList with
  | 'u' :: '_' :: name =>
    if String.ofList name = "time" then clock else inputs.variable (String.ofList name)
  | _ :: _ :: name => inputs.attribute (String.ofList name)
  | _ => 0

section Environments

variable {inputs : Inputs} {stem : String} {clock : ℚ} {name : String} {v : Value}

theorem Inputs.environment_attribute (hstem : stem = "a_" ∨ stem = "v_") :
    inputs.environment clock (stem ++ name) = inputs.attribute name := by
  unfold environment
  rw [String.toList_append]
  rcases hstem with rfl | rfl
  · show inputs.attribute (String.ofList name.toList) = _
    rw [String.ofList_toList]
  · show inputs.attribute (String.ofList name.toList) = _
    rw [String.ofList_toList]

theorem Inputs.environment_variable :
    inputs.environment clock ("u_" ++ name)
      = if name = "time" then clock else inputs.variable name := by
  unfold environment
  rw [String.toList_append]
  show (if String.ofList name.toList = "time" then clock
    else inputs.variable (String.ofList name.toList)) = _
  rw [String.ofList_toList]

/-- The inputs of an expression can be fed, unless it reads the clock and a
    variable `time` that differs from it. -/
theorem exists_feeds_iff (hstem : stem = "a_" ∨ stem = "v_") :
    (∃ env, Feeds stem inputs env v) ↔
      (Reads v (.variable "time") → ReadsClock v → inputs.variable "time" = inputs.time) := by
  constructor
  · rintro ⟨env, hfeeds⟩ htime hclock
    exact (hfeeds.variable "time" htime).symm.trans (hfeeds.clock hclock)
  · intro h
    by_cases hclock : ReadsClock v
    · refine ⟨inputs.environment inputs.time, ?_, ?_, ?_⟩
      · intro name _
        exact Inputs.environment_attribute hstem
      · intro name hname
        rw [Inputs.environment_variable]
        by_cases htime : name = "time"
        · subst htime
          rw [if_pos rfl, h hname hclock]
        · rw [if_neg htime]
      · intro _
        exact @Inputs.environment_variable inputs inputs.time "time"
    · refine ⟨inputs.environment (inputs.variable "time"), ?_, ?_, ?_⟩
      · intro name _
        exact Inputs.environment_attribute hstem
      · intro name _
        rw [Inputs.environment_variable]
        by_cases htime : name = "time"
        · rw [if_pos htime, htime]
        · rw [if_neg htime]
      · intro hreads
        exact absurd hreads hclock

end Environments

/-! ## Code -/

/-- What is emitted for a valid number or color is read as its instantiated
    template and as nothing else. -/
theorem exists_code {v : Value} (hvalid : v.validate = .ok ())
    (hkind : v.kind = .number ∨ v.kind = .color) {stem : String}
    (hstem : stem = "a_" ∨ stem = "v_") (hnames : ReadsPlainNames v) (wanted : Option Kind)
    (names : Names) :
    ∃ code after t, v.compile stem wanted names = .ok (code, after) ∧
      (∀ t', ReadsAs code.toList .expression t' ↔ t' = t) ∧ Instantiates stem v t := by
  have hplace : ¬ v.IsMisplacedText wanted := by
    rintro ⟨text, rfl, hreads, -⟩
    simp [kind, hreads] at hkind
  obtain ⟨tree, hlowers⟩ := (v.validate_eq_ok_iff.1 hvalid).exists_lowers hplace
  obtain ⟨t, hreads, hinstantiates, -⟩ := hlowers.emits hstem hnames (hkind.imp_right .inl)
  have hcode : ReadsAs (tree.text stem).toList .expression t := by
    rw [Expr.text, String.toList_ofList]
    exact hreads.expression (by decide)
  exact ⟨_, _, t, compile_of_lowers hvalid hlowers stem names, hcode.iff_eq, hinstantiates⟩

/-- Stretches in the value stretch one range to another, wherever the old one
    is not empty. -/
def Value.StretchesRanges (A : Arithmetic) (inputs : Inputs) (v : Value) : Prop :=
  ∀ form x low high newLow newHigh,
    v = .sequence form [.string "stretch", x, low, high, newLow, newHigh] →
    ∃ a l h l' h', x.meaning A inputs = some (.number a) ∧ low.meaning A inputs = some (.number l) ∧
      high.meaning A inputs = some (.number h) ∧ newLow.meaning A inputs = some (.number l') ∧
      newHigh.meaning A inputs = some (.number h') ∧
      v.meaning A inputs = some (.number (A.stretch a l h l' h')) ∧
      (l < h → Arithmetic.Stretches l h l' h' fun a => A.stretch a l h l' h')

/-- The code of a valid number or color computes what the expression means,
    wherever its names stand for the inputs that the expression reads under
    them. They can, unless a variable is called like the clock. -/
theorem Value.compile_preserves_meaning {v : Value} (hvalid : v.validate = .ok ())
    (hkind : v.kind = .number ∨ v.kind = .color) {stem : String}
    (hstem : stem = "a_" ∨ stem = "v_") (hnames : ReadsPlainNames v) (wanted : Option Kind)
    (names : Names) :
    ∃ code after t, v.compile stem wanted names = .ok (code, after) ∧
      (∀ t', ReadsAs code.toList .expression t' ↔ t' = t) ∧
      ∀ A inputs,
        (∃ d, v.meaning A inputs = some d ∧ d.IsOf v.kind ∧
          ∀ env, Feeds stem inputs env v → t.eval A env = some d) ∧
        ((∃ env, Feeds stem inputs env v) ↔
          (Reads v (.variable "time") → ReadsClock v → inputs.variable "time" = inputs.time)) ∧
        v.StretchesRanges A inputs := by
  obtain ⟨code, after, t, hcompile, hreads, hinstantiates⟩ :=
    exists_code hvalid hkind hstem hnames wanted names
  have hv : WellTyped v v.kind := v.validate_eq_ok_iff.1 hvalid
  refine ⟨code, after, t, hcompile, hreads, ?_⟩
  intro A inputs
  refine ⟨hinstantiates.means hv, exists_feeds_iff hstem, ?_⟩
  rintro form x low high newLow newHigh rfl
  obtain ⟨a, l, h, l', h', hx, hlow, hhigh, hnewLow, hnewHigh, hmeaning⟩ :=
    @Instantiates.meaning_stretch A inputs stem form x low high newLow newHigh t _ hinstantiates hv
  exact ⟨a, l, h, l', h', hx, hlow, hhigh, hnewLow, hnewHigh, hmeaning, A.stretches⟩

/-- A population up to a hundred, stretched to a size between one and five. -/
def stretchedPopulation : Value :=
  .sequence .list [.string "stretch", .sequence .list [.string "get", .string "population"],
    .int 0, .int 100, .int 1, .int 5]

/-- The code says three for a population of fifty. -/
theorem stretchedPopulation_evaluates :
    ∃ code after t, stretchedPopulation.compile "a_" none .empty = .ok (code, after) ∧
      (∀ t', ReadsAs code.toList .expression t' ↔ t' = t) ∧
      ∀ A env, env "a_population" = 50 → t.eval A env = some (.number 3) := by
  have hvalid : stretchedPopulation.validate = .ok () :=
    validate_eq_ok_of_isOk (by decide +kernel)
  have hreadings : stretchedPopulation.readings = [.attribute "population"] := by decide +kernel
  have hreads : ∀ reading, Reads stretchedPopulation reading →
      reading = .attribute "population" := by
    intro reading h
    rw [← (stretchedPopulation.validate_eq_ok_iff.1 hvalid).mem_readings_iff, hreadings] at h
    exact List.mem_singleton.1 h
  have hclock : ¬ ReadsClock stretchedPopulation := by
    have hstring : ∀ text, ¬ ReadsClock (.string text) := fun text h => by cases h
    have hint : ∀ n, ¬ ReadsClock (.int n) := fun n h => by cases h
    simp [stretchedPopulation, ReadsClock.sequence_iff, hstring, hint]
  have hnames : ReadsPlainNames stretchedPopulation := by
    rintro name (h | h)
    · obtain rfl := Reading.attribute.inj (hreads _ h)
      decide
    · exact absurd (hreads _ h) (by simp)
  obtain ⟨code, after, t, hcompile, hcode, hmeaning⟩ :=
    Value.compile_preserves_meaning hvalid (.inl rfl) (.inl rfl) hnames none .empty
  refine ⟨code, after, t, hcompile, hcode, ?_⟩
  intro A env henv
  let inputs : Inputs := ⟨fun _ => 50, fun _ => 0, 0⟩
  have hfeeds : Feeds "a_" inputs env stretchedPopulation := by
    refine ⟨?_, ?_, ?_⟩
    · intro name h
      obtain rfl := Reading.attribute.inj (hreads _ h)
      exact henv
    · intro name h
      exact absurd (hreads _ h) (by simp)
    · intro h
      exact absurd h hclock
  have hint : ∀ n : Int, (Value.int n).meaning A inputs = (Value.int n).constantMeaning :=
    fun n => meaning_of_not_application (by simp)
  obtain ⟨⟨d, hd, -, heval⟩, -, hstretch⟩ := hmeaning A inputs
  obtain ⟨a, l, h, l', h', hx, hlow, hhigh, hnewLow, hnewHigh, hvalue, hlaws⟩ :=
    hstretch _ _ _ _ _ _ rfl
  rw [hint] at hlow hhigh hnewLow hnewHigh
  have hzero : (Value.int 0).constantMeaning = some (.number 0) := by decide +kernel
  have hhundred : (Value.int 100).constantMeaning = some (.number 100) := by decide +kernel
  have hone : (Value.int 1).constantMeaning = some (.number 1) := by decide +kernel
  have hfive : (Value.int 5).constantMeaning = some (.number 5) := by decide +kernel
  obtain rfl := Datum.number.inj (Option.some.inj (meaning_get.symm.trans hx))
  obtain rfl := Datum.number.inj (Option.some.inj (hzero.symm.trans hlow))
  obtain rfl := Datum.number.inj (Option.some.inj (hhundred.symm.trans hhigh))
  obtain rfl := Datum.number.inj (Option.some.inj (hone.symm.trans hnewLow))
  obtain rfl := Datum.number.inj (Option.some.inj (hfive.symm.trans hnewHigh))
  obtain rfl := Option.some.inj (hd.symm.trans hvalue)
  have hbetween := (hlaws (by norm_num)).between 50 (by norm_num) (by norm_num)
  rw [heval env hfeeds]
  show some (Datum.number (A.stretch 50 0 100 1 5)) = _
  rw [hbetween]
  norm_num

/-- The variable `time` less the clock. -/
def clockDifference : Value :=
  .sequence .list [.string "-", .sequence .list [.string "var", .string "time"],
    .sequence .list [.string "time"]]

/-- The difference of a variable that is one and a clock at zero is one. The
    code reads both under one name, so it says zero. -/
theorem clockDifference_evaluates :
    ∃ code after t inputs, clockDifference.compile "a_" none .empty = .ok (code, after) ∧
      (∀ t', ReadsAs code.toList .expression t' ↔ t' = t) ∧
      ∀ A env, clockDifference.meaning A inputs = some (.number 1) ∧
        t.eval A env = some (.number 0) := by
  have hvalid : clockDifference.validate = .ok () := validate_eq_ok_of_isOk (by decide +kernel)
  have hreadings : clockDifference.readings = [.variable "time"] := by decide +kernel
  have hnames : ReadsPlainNames clockDifference := by
    intro name h
    simp only [← (clockDifference.validate_eq_ok_iff.1 hvalid).mem_readings_iff, hreadings,
      List.mem_singleton] at h
    obtain h | h := h
    · exact absurd h (by simp)
    · obtain rfl := Reading.variable.inj h
      decide
  obtain ⟨code, after, t, hcompile, hcode, hinstantiates⟩ :=
    exists_code hvalid (.inl rfl) (.inl rfl) hnames none .empty
  have hfilled : Instantiates "a_" clockDifference
      (.binary .subtract (.name ("u_" ++ "time")) (.name "u_time")) :=
    .application (.cons .var (.cons (.application .nil rfl) .nil)) rfl
  obtain rfl := hinstantiates.unique hfilled
  let inputs : Inputs := ⟨fun _ => 0, fun _ => 1, 0⟩
  refine ⟨code, after, _, inputs, hcompile, hcode, ?_⟩
  intro A env
  constructor
  · have htime : (Value.sequence .list [.string "var", .string "time"]).meaning A inputs
        = some (.number 1) := meaning_var
    have hclock : (Value.sequence .list [.string "time"]).meaning A inputs = some (.number 0) :=
      @meaning_application A inputs .list .time [] [] (by decide) .nil
    have hdifference : clockDifference.meaning A inputs = some (.number (1 - 0)) :=
      @meaning_application A inputs .list .subtract _ _ (by decide)
        (.cons htime (.cons hclock .nil))
    rw [hdifference, sub_zero]
  · have hboth : (Term.name ("u_" ++ "time")).eval A env = some (.number (env "u_time")) := rfl
    refine (Term.eval_binary .subtract hboth hboth).trans ?_
    show some (Datum.number (env "u_time" - env "u_time")) = _
    rw [sub_self]

end SymbolStyle

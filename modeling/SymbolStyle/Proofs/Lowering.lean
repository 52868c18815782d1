import SymbolStyle.Expression
import SymbolStyle.Proofs.Number.Rounding
import SymbolStyle.Proofs.Typing

/-! # Lowering succeeds

    What has passed validation is lowered without fault.

    * `Glsl.exists_literalOf` and the lemmas on `colorOf` after it: finite
      numbers and colors of finite numbers are constants of the shading
      language.
    * `Lowers v k wanted tree` says by rules which tree an expression is
      lowered to. `lowerable`: each expression has one, except a text that is
      no color where something else than a text is wanted.
    * `Lowers.lower_eq`: lowering yields that tree, and it registers exactly
      the readings of the expression, whatever names are known.
-/

namespace SymbolStyle

open Value
open Glsl (Expr Literal)

/-! ## Constants -/

namespace Glsl

theorem exists_finite_of_isFinite {x : Double} (h : x.isFinite) :
    ∃ negative m, x = .finite negative m := by
  cases x with
  | finite negative m => exact ⟨negative, m, rfl⟩
  | nan => exact absurd h (by simp [Double.isFinite])
  | infinite negative => exact absurd h (by simp [Double.isFinite])

theorem literalOf_of_toDouble {v : Value} {negative : Bool} {m : Magnitude}
    (h : v.toDouble = .ok (.finite negative m)) : literalOf v = .ok ⟨negative, m⟩ := by
  simp [literalOf, h]

theorem toDouble_int {n : Int} (h : (Double.ofInt n).isFinite) :
    (Value.int n).toDouble = .ok (.ofInt n) := by
  rw [toDouble, if_pos h]

theorem scaleLevel_int {n : Int} (h : (Double.ofQuotient (n < 0) n.natAbs 255).isFinite) :
    scaleLevel (.int n) = .ok (.float (.ofQuotient (n < 0) n.natAbs 255)) := by
  simp only [scaleLevel, h, if_true]

/-- A finite number has a literal. -/
theorem exists_literalOf {v : Value} (h : v.isFiniteNumber) : ∃ l, literalOf v = .ok l := by
  cases v with
  | int n =>
    rw [isFiniteNumber_int] at h
    obtain ⟨negative, m, hx⟩ := exists_finite_of_isFinite h
    exact ⟨_, literalOf_of_toDouble ((toDouble_int h).trans (congrArg Except.ok hx))⟩
  | float x =>
    rw [isFiniteNumber_float] at h
    obtain ⟨negative, m, rfl⟩ := exists_finite_of_isFinite h
    exact ⟨_, literalOf_of_toDouble rfl⟩
  | _ => exact absurd h (by simp [isFiniteNumber, number?])

/-- The scaled level of a finite number is a finite number: a share is not
    larger than the whole. -/
theorem exists_scaleLevel {v : Value} (h : v.isFiniteNumber) :
    ∃ share, scaleLevel v = .ok share ∧ share.isFiniteNumber := by
  cases v with
  | int n =>
    rw [isFiniteNumber_int] at h
    have hshare := Double.isFinite_ofQuotient_of_isFinite_ofInt 255 (by decide) h
    refine ⟨.float (.ofQuotient (n < 0) n.natAbs 255), scaleLevel_int hshare, ?_⟩
    rw [isFiniteNumber_float, hshare]
  | float x =>
    rw [isFiniteNumber_float] at h
    have hshare := Double.isFinite_divNat 255 (by decide) h
    refine ⟨.float (x.divNat 255), rfl, ?_⟩
    rw [isFiniteNumber_float, hshare]
  | _ => exact absurd h (by simp [isFiniteNumber, number?])

/-- The constant of a color: a vector of four literals. -/
def colorConstant (r g b a : Literal) : Expr :=
  .call .vec4 [.literal r, .literal g, .literal b, .literal a]

theorem vectorOf_four {r g b a : Value} {lr lg lb la : Literal} (hr : literalOf r = .ok lr)
    (hg : literalOf g = .ok lg) (hb : literalOf b = .ok lb) (ha : literalOf a = .ok la) :
    vectorOf [r, g, b, a] = .ok (colorConstant lr lg lb la) := by
  simp [vectorOf, Function.vector?, hr, hg, hb, ha, colorConstant, bind, Except.bind, pure,
    Except.pure]

theorem exists_vectorOf {r g b a : Value} (hr : r.isFiniteNumber) (hg : g.isFiniteNumber)
    (hb : b.isFiniteNumber) (ha : a.isFiniteNumber) :
    ∃ lr lg lb la, vectorOf [r, g, b, a] = .ok (colorConstant lr lg lb la) := by
  obtain ⟨lr, hr⟩ := exists_literalOf hr
  obtain ⟨lg, hg⟩ := exists_literalOf hg
  obtain ⟨lb, hb⟩ := exists_literalOf hb
  obtain ⟨la, ha⟩ := exists_literalOf ha
  exact ⟨lr, lg, lb, la, vectorOf_four hr hg hb ha⟩

/-- What stands behind the levels of a color: its alpha, or one if it has none. -/
def alphaOf (channels : List Value) : List Value :=
  if channels.length = 3 then [.int 1] else channels.drop 3

/-- A color is the vector of its scaled levels and its alpha. -/
theorem colorOf_of_count {color : Value} {channels : List Value}
    (hchannels : color.channels = .ok channels)
    (hcount : channels.length = 3 ∨ channels.length = 4) :
    colorOf color
      = (channels.take 3).mapM scaleLevel >>= fun levels =>
        vectorOf (levels ++ alphaOf channels) := by
  match channels, hcount with
  | [r, g, b], _ => simp [colorOf, hchannels, alphaOf, Except.mapError, bind, Except.bind]
  | [r, g, b, a], _ => simp [colorOf, hchannels, alphaOf, Except.mapError, bind, Except.bind]

theorem colorOf_of_levels {color r g b r' g' b' : Value} {rest : List Value}
    (hchannels : color.channels = .ok (r :: g :: b :: rest)) (hcount : rest.length ≤ 1)
    (hr : scaleLevel r = .ok r') (hg : scaleLevel g = .ok g') (hb : scaleLevel b = .ok b') :
    colorOf color = vectorOf (r' :: g' :: b' :: alphaOf (r :: g :: b :: rest)) := by
  have hlevels : [r, g, b].mapM scaleLevel = .ok [r', g', b'] := by
    simp [hr, hg, hb, bind, Except.bind, pure, Except.pure]
  have hlength : (r :: g :: b :: rest).length = rest.length + 3 := rfl
  rw [colorOf_of_count hchannels (by omega), List.take_succ_cons, List.take_succ_cons,
    List.take_succ_cons, List.take_zero, hlevels]
  rfl

/-- A color whose channels are finite numbers has a constant. -/
theorem exists_colorOf_of_channels {color : Value} {channels : List Value}
    (hchannels : color.channels = .ok channels)
    (hcount : channels.length = 3 ∨ channels.length = 4)
    (hfinite : ∀ channel ∈ channels, channel.isFiniteNumber) :
    ∃ r g b a, colorOf color = .ok (colorConstant r g b a) := by
  -- Three channels are completed by an alpha of one, which is not scaled.
  have hone : (Value.int 1).isFiniteNumber := by decide +kernel
  match channels, hcount with
  | [r, g, b], _ =>
    obtain ⟨r', hr, hr'⟩ := exists_scaleLevel (hfinite r (by simp))
    obtain ⟨g', hg, hg'⟩ := exists_scaleLevel (hfinite g (by simp))
    obtain ⟨b', hb, hb'⟩ := exists_scaleLevel (hfinite b (by simp))
    rw [colorOf_of_levels hchannels (by simp) hr hg hb]
    exact exists_vectorOf hr' hg' hb' hone
  | [r, g, b, a], _ =>
    obtain ⟨r', hr, hr'⟩ := exists_scaleLevel (hfinite r (by simp))
    obtain ⟨g', hg, hg'⟩ := exists_scaleLevel (hfinite g (by simp))
    obtain ⟨b', hb, hb'⟩ := exists_scaleLevel (hfinite b (by simp))
    rw [colorOf_of_levels hchannels (by simp) hr hg hb]
    exact exists_vectorOf hr' hg' hb' (hfinite a (by simp))

/-- The channels that a color text writes are finite numbers. -/
theorem isFiniteNumber_of_mem_toValues {c : Color} {v : Value} (h : v ∈ c.toValues) :
    v.isFiniteNumber := by
  have hlevel : ∀ channel : Channel, channel.toValue.isFiniteNumber := by
    intro channel
    cases channel with
    | level m => rfl
    | byte n =>
      have hmax : (Double.ofInt 255).isFinite := by decide +kernel
      have hle : (n.val : Int).natAbs ≤ (255 : Int).natAbs := by omega
      rw [Channel.toValue, isFiniteNumber_int]
      exact Double.isFinite_ofInt_of_natAbs_le hle hmax
  simp only [Color.toValues, List.mem_cons, List.not_mem_nil, or_false] at h
  rcases h with rfl | rfl | rfl | rfl
  · exact hlevel _
  · exact hlevel _
  · exact hlevel _
  · rfl

/-- A color text has a constant. -/
theorem exists_colorOf_of_isColorText {text : String} (h : isColorText text) :
    ∃ r g b a, colorOf (.string text) = .ok (colorConstant r g b a) := by
  obtain ⟨c, hc⟩ := Option.isSome_iff_exists.1 h
  have hchannels : (Value.string text).channels = .ok c.toValues := by
    simp [channels, hc]
  exact exists_colorOf_of_channels hchannels (.inr rfl)
    fun channel hmem => isFiniteNumber_of_mem_toValues hmem

theorem channels_of_isNumber (form : SequenceForm) {items : List Value}
    (hnumbers : ∀ item ∈ items, item.isNumber) :
    (Value.sequence form items).channels = .ok items := by
  rw [channels, if_pos (List.all_eq_true.2 hnumbers)]

/-- A sequence of three or four finite numbers has a constant as a color. -/
theorem exists_colorOf_of_items (form : SequenceForm) {items : List Value}
    (hcount : items.length = 3 ∨ items.length = 4)
    (hfinite : ∀ item ∈ items, item.isFiniteNumber) :
    ∃ r g b a, colorOf (.sequence form items) = .ok (colorConstant r g b a) := by
  have hnumbers : ∀ item ∈ items, item.isNumber := fun item hmem =>
    isNumber_of_isFiniteNumber (hfinite item hmem)
  exact exists_colorOf_of_channels (channels_of_isNumber form hnumbers) hcount hfinite

/-- A text that writes no color has no constant, and the fault names it. -/
theorem colorOf_of_not_isColorText {text : String} (h : isColorText text = false) :
    colorOf (.string text) = .error (.expression (.colorText text)) := by
  have hread : Color.read? text = none := by simpa [isColorText] using h
  simp [colorOf, channels, hread, Except.mapError, bind, Except.bind]

end Glsl

/-! ## The trees of expressions -/

namespace Operator

/-- The signatures of the operators. Those of two and of three numbers belong
    to many operators, each other one to an operator of its own. -/
theorem signature_cases (op : Operator) :
    (op = .get ∨ op = .var) ∨ op = .time ∨ op = .not ∨ op.signature = [.number, .number]
      ∨ op.signature = [.number, .number, .number] ∨ op = .stretch ∨ op = .interpolate := by
  cases op <;> simp [signature]

/-- Only an operator that takes colors yields one. -/
theorem returns_eq_number {op : Operator} (hop : Kind.color ∉ op.signature) :
    op.returns = .number := by
  cases op <;> first | rfl | simp [signature] at hop

theorem exists_template?_two {op : Operator} (hop : op.signature = [.number, .number])
    (a b : Expr) : ∃ tree, op.template? [a, b] = some tree := by
  cases op <;> first | exact ⟨_, rfl⟩ | simp [signature] at hop

theorem exists_template?_three {op : Operator} (hop : op.signature = [.number, .number, .number])
    (a b c : Expr) : ∃ tree, op.template? [a, b, c] = some tree := by
  cases op <;> first | exact ⟨_, rfl⟩ | simp [signature] at hop

end Operator

/-- The value is an expression of the given kind, and towards what is wanted it
    is lowered to the given tree. There is one rule for each form of constants
    and one for each form of signatures, in which the operands are named one
    by one. -/
inductive Lowers : Value → Kind → Option Kind → Expr → Prop where
  /-- A number becomes its literal, whatever is wanted. -/
  | number {v : Value} {wanted : Option Kind} {l : Literal} (hv : v.isNumber)
      (hl : Glsl.literalOf v = .ok l) : Lowers v .number wanted (.literal l)
  /-- A text stays a text unless something else is wanted. -/
  | text {text : String} {k : Kind} {wanted : Option Kind} (hk : WellTyped (.string text) k)
      (hw : wanted = none ∨ wanted = some .string) :
      Lowers (.string text) k wanted (.quoted text)
  /-- A color text becomes a vector where something else is wanted. -/
  | colorText {text : String} {wanted : Option Kind} {r g b a : Literal}
      (hw : ¬ (wanted = none ∨ wanted = some .string)) (hreads : isColorText text)
      (hcolor : Glsl.colorOf (.string text) = .ok (Glsl.colorConstant r g b a)) :
      Lowers (.string text) .colorOrString wanted (Glsl.colorConstant r g b a)
  /-- The channels of a color become a vector. -/
  | channels {form : SequenceForm} {items : List Value} {wanted : Option Kind} {r g b a : Literal}
      (hitems : areChannels items)
      (hcolor : Glsl.colorOf (.sequence form items) = .ok (Glsl.colorConstant r g b a)) :
      Lowers (.sequence form items) .color wanted (Glsl.colorConstant r g b a)
  | get {form : SequenceForm} {name : String} {wanted : Option Kind} :
      Lowers (.sequence form [.string Operator.get.tag, .string name]) .number wanted
        (.attribute name)
  | var {form : SequenceForm} {name : String} {wanted : Option Kind} :
      Lowers (.sequence form [.string Operator.var.tag, .string name]) .number wanted
        (.variable name)
  | time {form : SequenceForm} {wanted : Option Kind} :
      Lowers (.sequence form [.string Operator.time.tag]) .number wanted .time
  | not {form : SequenceForm} {a : Value} {wanted : Option Kind} {ta tree : Expr}
      (ha : Lowers a .number (some .number) ta)
      (htree : Operator.not.template? [ta] = some tree) :
      Lowers (.sequence form [.string Operator.not.tag, a]) .number wanted tree
  /-- Arithmetic, `mod`, `pow` and comparisons. -/
  | two {form : SequenceForm} {op : Operator} {a b : Value} {wanted : Option Kind}
      {ta tb tree : Expr} (hop : op.signature = [.number, .number])
      (ha : Lowers a .number (some .number) ta) (hb : Lowers b .number (some .number) tb)
      (htree : op.template? [ta, tb] = some tree) :
      Lowers (.sequence form [.string op.tag, a, b]) .number wanted tree
  /-- `clamp` and `between`. -/
  | three {form : SequenceForm} {op : Operator} {a b c : Value} {wanted : Option Kind}
      {ta tb tc tree : Expr} (hop : op.signature = [.number, .number, .number])
      (ha : Lowers a .number (some .number) ta) (hb : Lowers b .number (some .number) tb)
      (hc : Lowers c .number (some .number) tc) (htree : op.template? [ta, tb, tc] = some tree) :
      Lowers (.sequence form [.string op.tag, a, b, c]) .number wanted tree
  | stretch {form : SequenceForm} {x low high newLow newHigh : Value} {wanted : Option Kind}
      {tx tlow thigh tnewLow tnewHigh tree : Expr}
      (hx : Lowers x .number (some .number) tx) (hlow : Lowers low .number (some .number) tlow)
      (hhigh : Lowers high .number (some .number) thigh)
      (hnewLow : Lowers newLow .number (some .number) tnewLow)
      (hnewHigh : Lowers newHigh .number (some .number) tnewHigh)
      (htree : Operator.stretch.template? [tx, tlow, thigh, tnewLow, tnewHigh] = some tree) :
      Lowers (.sequence form [.string Operator.stretch.tag, x, low, high, newLow, newHigh])
        .number wanted tree
  | interpolate {form : SequenceForm} {ratio start stop : Value} {wanted : Option Kind}
      {k k' : Kind} {tratio tstart tstop tree : Expr}
      (hratio : Lowers ratio .number (some .number) tratio)
      (hk : Kind.color.accepts k) (hstart : Lowers start k (some .color) tstart)
      (hk' : Kind.color.accepts k') (hstop : Lowers stop k' (some .color) tstop)
      (htree : Operator.interpolate.template? [tratio, tstart, tstop] = some tree) :
      Lowers (.sequence form [.string Operator.interpolate.tag, ratio, start, stop]) .color wanted
        tree

/-- The value is lowered as whatever expression it is, except that a text that
    is no color is not lowered towards anything else than a text. -/
def Lowerable (v : Value) : Prop :=
  ∀ k, WellTyped v k → ∀ wanted, (k = .string → wanted = none ∨ wanted = some .string) →
    ∃ tree, Lowers v k wanted tree

theorem Lowerable.toNumber {v : Value} (h : Lowerable v)
    (hv : ∃ k, WellTyped v k ∧ Kind.number.accepts k) :
    ∃ tree, Lowers v .number (some .number) tree := by
  obtain ⟨k, hk, haccepts⟩ := hv
  obtain rfl := Kind.number_accepts_iff.1 haccepts
  exact h _ hk _ (by simp)

theorem Lowerable.toColor {v : Value} (h : Lowerable v)
    (hv : ∃ k, WellTyped v k ∧ Kind.color.accepts k) :
    ∃ k tree, Kind.color.accepts k ∧ Lowers v k (some .color) tree := by
  obtain ⟨k, hk, haccepts⟩ := hv
  have hne : k ≠ .string := by
    rintro rfl
    simp [Kind.accepts] at haccepts
  obtain ⟨tree, htree⟩ := h _ hk (some .color) (fun hstring => absurd hstring hne)
  exact ⟨k, tree, haccepts, htree⟩

/-- An operator that takes one text is applied to a text. -/
theorem exists_text_of_signature {op : Operator} {operands : List Value}
    (hop : op.signature = [.string])
    (hoperands : List.Forall₂ (fun expected operand =>
      ∃ actual, WellTyped operand actual ∧ expected.accepts actual) op.signature operands) :
    ∃ name, operands = [.string name] := by
  rw [hop] at hoperands
  simp only [List.forall₂_cons_left_iff, List.forall₂_nil_left_iff] at hoperands
  obtain ⟨operand, _, ⟨k, hk, haccepts⟩, rfl, rfl⟩ := hoperands
  obtain ⟨name, rfl⟩ := hk.exists_text (Kind.string_accepts_iff.1 haccepts)
  exact ⟨name, rfl⟩

/-- An application is lowered if its operands are. -/
theorem Lowerable.application {form : SequenceForm} {op : Operator} {operands : List Value}
    {wanted : Option Kind} (h : ∀ operand ∈ operands, Lowerable operand)
    (hoperands : List.Forall₂ (fun expected operand =>
      ∃ actual, WellTyped operand actual ∧ expected.accepts actual) op.signature operands) :
    ∃ tree, Lowers (.sequence form (.string op.tag :: operands)) op.returns wanted tree := by
  -- Apart from the text after `get` and `var`, places take numbers or colors.
  have hnumber : ∀ a ∈ operands, (∃ k, WellTyped a k ∧ Kind.number.accepts k) →
      ∃ ta, Lowers a .number (some .number) ta := fun a hmem => (h a hmem).toNumber
  have hcolor : ∀ a ∈ operands, (∃ k, WellTyped a k ∧ Kind.color.accepts k) →
      ∃ k ta, Kind.color.accepts k ∧ Lowers a k (some .color) ta := fun a hmem => (h a hmem).toColor
  rcases op.signature_cases with (rfl | rfl) | rfl | rfl | hop | hop | rfl | rfl
  · -- `get`
    obtain ⟨name, rfl⟩ := exists_text_of_signature rfl hoperands
    exact ⟨_, .get⟩
  · -- `var`
    obtain ⟨name, rfl⟩ := exists_text_of_signature rfl hoperands
    exact ⟨_, .var⟩
  · -- `time`
    simp only [Operator.signature, List.forall₂_nil_left_iff] at hoperands
    subst hoperands
    exact ⟨_, .time⟩
  · -- `!`
    simp only [Operator.signature, List.forall₂_cons_left_iff, List.forall₂_nil_left_iff]
      at hoperands
    obtain ⟨a, _, ha, rfl, rfl⟩ := hoperands
    obtain ⟨ta, hta⟩ := hnumber a (by simp) ha
    exact ⟨_, .not hta rfl⟩
  · -- two numbers
    have hreturns : op.returns = .number := Operator.returns_eq_number (by simp [hop])
    rw [hop] at hoperands
    simp only [List.forall₂_cons_left_iff, List.forall₂_nil_left_iff] at hoperands
    obtain ⟨a, _, ha, ⟨b, _, hb, rfl, rfl⟩, rfl⟩ := hoperands
    obtain ⟨ta, hta⟩ := hnumber a (by simp) ha
    obtain ⟨tb, htb⟩ := hnumber b (by simp) hb
    obtain ⟨tree, htree⟩ := Operator.exists_template?_two hop ta tb
    exact ⟨tree, hreturns ▸ .two hop hta htb htree⟩
  · -- three numbers
    have hreturns : op.returns = .number := Operator.returns_eq_number (by simp [hop])
    rw [hop] at hoperands
    simp only [List.forall₂_cons_left_iff, List.forall₂_nil_left_iff] at hoperands
    obtain ⟨a, _, ha, ⟨b, _, hb, ⟨c, _, hc, rfl, rfl⟩, rfl⟩, rfl⟩ := hoperands
    obtain ⟨ta, hta⟩ := hnumber a (by simp) ha
    obtain ⟨tb, htb⟩ := hnumber b (by simp) hb
    obtain ⟨tc, htc⟩ := hnumber c (by simp) hc
    obtain ⟨tree, htree⟩ := Operator.exists_template?_three hop ta tb tc
    exact ⟨tree, hreturns ▸ .three hop hta htb htc htree⟩
  · -- `stretch`
    simp only [Operator.signature, List.forall₂_cons_left_iff, List.forall₂_nil_left_iff]
      at hoperands
    obtain ⟨a, _, ha, hoperands, rfl⟩ := hoperands
    obtain ⟨b, _, hb, ⟨c, _, hc, ⟨d, _, hd, ⟨e, _, he, rfl, rfl⟩, rfl⟩, rfl⟩, rfl⟩ := hoperands
    obtain ⟨ta, hta⟩ := hnumber a (by simp) ha
    obtain ⟨tb, htb⟩ := hnumber b (by simp) hb
    obtain ⟨tc, htc⟩ := hnumber c (by simp) hc
    obtain ⟨td, htd⟩ := hnumber d (by simp) hd
    obtain ⟨te, hte⟩ := hnumber e (by simp) he
    exact ⟨_, .stretch hta htb htc htd hte rfl⟩
  · -- `interpolate`
    simp only [Operator.signature, List.forall₂_cons_left_iff, List.forall₂_nil_left_iff]
      at hoperands
    obtain ⟨a, _, ha, ⟨b, _, hb, ⟨c, _, hc, rfl, rfl⟩, rfl⟩, rfl⟩ := hoperands
    obtain ⟨ta, hta⟩ := hnumber a (by simp) ha
    obtain ⟨k, tb, hk, htb⟩ := hcolor b (by simp) hb
    obtain ⟨k', tc, hk', htc⟩ := hcolor c (by simp) hc
    exact ⟨_, .interpolate hta hk htb hk' htc rfl⟩

/-- Every expression is lowered, except a text that is no color where something
    else than a text is wanted. -/
theorem lowerable (v : Value) : Lowerable v := by
  induction v using Value.induction_on_items with
  | step v ih =>
    intro k h wanted hwanted
    cases h with
    | number finite =>
      obtain ⟨l, hl⟩ := Glsl.exists_literalOf finite
      exact ⟨_, .number (isNumber_of_isFiniteNumber finite) hl⟩
    | colorText reads =>
      by_cases hw : wanted = none ∨ wanted = some .string
      · exact ⟨_, .text (.colorText reads) hw⟩
      · obtain ⟨r, g, b, a, hcolor⟩ := Glsl.exists_colorOf_of_isColorText reads
        exact ⟨_, .colorText hw reads hcolor⟩
    | text reads => exact ⟨_, .text (.text reads) (hwanted rfl)⟩
    | @channels form items count finite =>
      obtain ⟨r, g, b, a, hcolor⟩ := Glsl.exists_colorOf_of_items form count finite
      exact ⟨_, .channels (areChannels_of_isFiniteNumber count finite) hcolor⟩
    | @application form op operands kinds typed fits =>
      apply Lowerable.application
      · intro operand hmem
        exact ih form _ rfl operand (by simp [hmem])
      · exact forall₂_exists_iff.2 ⟨kinds, typed, fits⟩

/-! ## Lowering on the way through names -/

namespace Names

@[simp] theorem add_nil (names : Names) : names.add [] = names := rfl

@[simp] theorem add_add (names : Names) (first second : List Reading) :
    (names.add first).add second = names.add (first ++ second) := by
  simp [add, Reading.attributeNames, Reading.variableNames, register_append]

end Names

namespace Value

/-- A value that is no application reads nothing. -/
theorem readings_of_not_application {v : Value}
    (hv : ∀ form tag operands, v ≠ .sequence form (.string tag :: operands)) : v.readings = [] := by
  unfold readings
  split
  · next form tag operands => exact absurd rfl (hv form tag operands)
  · rfl

/-- A value that is no application is lowered for itself. -/
theorem lower_eq_of_not_application {v : Value} {wanted : Option Kind} {tree : Expr}
    (hv : ∀ form tag operands, v ≠ .sequence form (.string tag :: operands))
    (htree : v.lowerPlain wanted = .ok tree) (names : Names) :
    v.lower wanted names = .ok (tree, names.add v.readings) := by
  rw [readings_of_not_application hv, lower]
  · simp [htree, bind, Except.bind, pure, Except.pure]
  · intro form tag operands heq
    exact hv form tag operands heq

/-- An application is lowered by its template once its operands are, and what
    it reads itself is registered after what they read. -/
theorem lower_application {form : SequenceForm} (op : Operator) {operands : List Value}
    {wanted : Option Kind} {trees : List Expr} {tree : Expr} {found : Names} {names : Names}
    (hoperands : lowerOperands op.postponesFirst op.signature operands names = .ok (trees, found))
    (htree : op.template? trees = some tree) :
    (Value.sequence form (.string op.tag :: operands)).lower wanted names
      = .ok (tree, found.add (op.ownReadings trees)) := by
  rw [lower, Operator.ofTag?_tag]
  simp [hoperands, htree, bind, Except.bind]

/-- What an application reads is what its operands read, for all operators but
    `get` and `var`. -/
theorem readings_application {form : SequenceForm} {op : Operator} {operands : List Value}
    (hop : Kind.string ∉ op.signature) :
    (Value.sequence form (.string op.tag :: operands)).readings
      = op.arrange (readingsOfAll operands) := by
  unfold readings
  rw [Operator.ofTag?_tag]
  cases op <;> first | rfl | simp [Operator.signature] at hop

/-- An operator that takes no text reads nothing itself. -/
theorem ownReadings_eq_nil {op : Operator} (hop : Kind.string ∉ op.signature)
    (trees : List Expr) : op.ownReadings trees = [] := by
  cases op <;> first | rfl | simp [Operator.signature] at hop

/-! Operands are lowered one by one. Each of them registers its own readings,
    and what a list of operands registers is what its parts register. -/

theorem lowerOperands_nil (names : Names) :
    lowerOperands false [] [] names = .ok ([], names.add (readingsOfAll []).flatten) := by
  rw [lowerOperands]
  · rfl
  · simp

/-- The name that `get` or `var` reads. -/
theorem lowerOperands_text (name : String) (names : Names) :
    lowerOperands false [.string] [.string name] names = .ok ([.quoted name], names) := by
  have htext : (Value.string name).lower (some .string) names = .ok (.quoted name, names) := by
    rw [lower]
    · simp [lowerPlain, isNumber, bind, Except.bind, pure, Except.pure]
    · simp
  rw [lowerOperands, htext]
  simp [lowerOperands_nil, readingsOfAll, bind, Except.bind, pure, Except.pure]

theorem lowerOperands_cons {expected : Kind} {signature : List Kind} {operand : Value}
    {operands : List Value} {tree : Expr} {trees : List Expr}
    (hhead : ∀ names, operand.lower (some expected) names
      = .ok (tree, names.add operand.readings))
    (htail : ∀ names, lowerOperands false signature operands names
      = .ok (trees, names.add (readingsOfAll operands).flatten)) (names : Names) :
    lowerOperands false (expected :: signature) (operand :: operands) names
      = .ok (tree :: trees, names.add (readingsOfAll (operand :: operands)).flatten) := by
  rw [lowerOperands]
  simp [hhead, htail, readingsOfAll, bind, Except.bind, pure, Except.pure]

/-- The first operand after the others. -/
theorem lowerOperands_postponed {expected : Kind} {signature : List Kind} {operand : Value}
    {operands : List Value} {tree : Expr} {trees : List Expr}
    (hhead : ∀ names, operand.lower (some expected) names
      = .ok (tree, names.add operand.readings))
    (htail : ∀ names, lowerOperands false signature operands names
      = .ok (trees, names.add (readingsOfAll operands).flatten)) (names : Names) :
    lowerOperands true (expected :: signature) (operand :: operands) names
      = .ok (tree :: trees, names.add ((readingsOfAll operands).flatten ++ operand.readings)) := by
  rw [lowerOperands]
  simp [hhead, htail, bind, Except.bind, pure, Except.pure]

theorem arrange_of_postponesFirst {op : Operator} (hop : op.postponesFirst) {operand : Value}
    {operands : List Value} :
    op.arrange (readingsOfAll (operand :: operands))
      = (readingsOfAll operands).flatten ++ operand.readings := by
  simp [Operator.arrange, hop, readingsOfAll]

/-- An application whose operands are lowered in the order of the operator is
    lowered, and it registers what it reads. -/
theorem lower_application_eq {form : SequenceForm} (op : Operator) {operands : List Value}
    {wanted : Option Kind} {trees : List Expr} {tree : Expr} (hop : Kind.string ∉ op.signature)
    (hoperands : ∀ names, lowerOperands op.postponesFirst op.signature operands names
      = .ok (trees, names.add (op.arrange (readingsOfAll operands))))
    (htree : op.template? trees = some tree) (names : Names) :
    (Value.sequence form (.string op.tag :: operands)).lower wanted names
      = .ok (tree, names.add (Value.sequence form (.string op.tag :: operands)).readings) := by
  rw [lower_application op (hoperands names) htree, ownReadings_eq_nil hop, Names.add_nil,
    readings_application hop]

/-- The same where the operands are lowered from left to right. -/
theorem lower_application_of_in_order {form : SequenceForm} (op : Operator)
    {operands : List Value} {wanted : Option Kind} {trees : List Expr} {tree : Expr}
    (hop : Kind.string ∉ op.signature) (hstretch : op ≠ .stretch) (hmix : op ≠ .interpolate)
    (hoperands : ∀ names, lowerOperands false op.signature operands names
      = .ok (trees, names.add (readingsOfAll operands).flatten))
    (htree : op.template? trees = some tree) (names : Names) :
    (Value.sequence form (.string op.tag :: operands)).lower wanted names
      = .ok (tree, names.add (Value.sequence form (.string op.tag :: operands)).readings) := by
  have hfirst : op.postponesFirst = false := by
    cases op <;> first | rfl | exact absurd rfl hstretch | exact absurd rfl hmix
  apply lower_application_eq op hop _ htree
  intro names
  rw [hfirst, hoperands]
  simp [Operator.arrange, hfirst]

end Value

/-- Lowering along the rules yields their tree, and it registers what the
    expression reads. -/
theorem Lowers.lower_eq {v : Value} {k : Kind} {wanted : Option Kind} {tree : Expr}
    (h : Lowers v k wanted tree) (names : Names) :
    v.lower wanted names = .ok (tree, names.add v.readings) := by
  -- The operands are lowered one after another, each with the names that those
  -- before it have left, so the names are generalized.
  induction h generalizing names with
  | @number v wanted l hv hl =>
    apply lower_eq_of_not_application
    · rintro form tag operands rfl
      simp [isNumber] at hv
    · simp [lowerPlain, hv, hl, Except.map]
  | text hk hw =>
    apply lower_eq_of_not_application (by simp)
    simp [lowerPlain, isNumber, hw]
  | colorText hw hreads hcolor =>
    apply lower_eq_of_not_application (by simp)
    simp [lowerPlain, isNumber, hw, hcolor]
  | channels hitems hcolor =>
    apply lower_eq_of_not_application
    · intro form tag operands heq
      cases heq
      simp [areChannels_string_cons] at hitems
    · simp [lowerPlain, isNumber, hcolor]
  | @get form name wanted =>
    exact lower_application .get (lowerOperands_text name names) rfl
  | @var form name wanted =>
    exact lower_application .var (lowerOperands_text name names) rfl
  | time =>
    exact lower_application_of_in_order .time (by decide) (by decide) (by decide)
      lowerOperands_nil rfl names
  | not ha htree iha =>
    exact lower_application_of_in_order .not (by decide) (by decide) (by decide)
      (lowerOperands_cons iha lowerOperands_nil) htree names
  | @two form op a b wanted ta tb tree hop ha hb htree iha ihb =>
    apply lower_application_of_in_order op _ _ _ _ htree
    · simp [hop]
    · rintro rfl
      simp [Operator.signature] at hop
    · rintro rfl
      simp [Operator.signature] at hop
    · rw [hop]
      exact lowerOperands_cons iha (lowerOperands_cons ihb lowerOperands_nil)
  | @three form op a b c wanted ta tb tc tree hop ha hb hc htree iha ihb ihc =>
    apply lower_application_of_in_order op _ _ _ _ htree
    · simp [hop]
    · rintro rfl
      simp [Operator.signature] at hop
    · rintro rfl
      simp [Operator.signature] at hop
    · rw [hop]
      exact lowerOperands_cons iha (lowerOperands_cons ihb
        (lowerOperands_cons ihc lowerOperands_nil))
  | stretch hx hlow hhigh hnewLow hnewHigh htree ihx ihlow ihhigh ihnewLow ihnewHigh =>
    apply lower_application_eq .stretch (by decide) _ htree
    -- The first operand is lowered last.
    have hrest := lowerOperands_cons ihlow (lowerOperands_cons ihhigh
      (lowerOperands_cons ihnewLow (lowerOperands_cons ihnewHigh lowerOperands_nil)))
    intro names
    rw [arrange_of_postponesFirst rfl]
    exact lowerOperands_postponed ihx hrest names
  | interpolate hratio hk hstart hk' hstop htree ihratio ihstart ihstop =>
    apply lower_application_eq .interpolate (by decide) _ htree
    -- Here too: the colors come first, and the ratio after them.
    have hrest := lowerOperands_cons ihstart (lowerOperands_cons ihstop lowerOperands_nil)
    intro names
    rw [arrange_of_postponesFirst rfl]
    exact lowerOperands_postponed ihratio hrest names

end SymbolStyle

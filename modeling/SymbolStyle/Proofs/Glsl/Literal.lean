import SymbolStyle.Proofs.Lowering
import SymbolStyle.Proofs.Number.Numeral
import SymbolStyle.Proofs.Refusal

/-! # Literals of numbers

    A finite number is written exactly and in one way, and any other number is
    refused.

    The text of a literal denotes the shortest decimal that is read as the
    double, which is also the number that its compact text denotes. So nothing
    is lost by writing a double in a shader and reading it again, not even the
    sign of zero.

    * `Literal.read?_text`: the text of a literal is read as the double.
    * `literalOf_eq_ok_iff`: which literal a number has.
    * `literalOf_exact_or_nonFinite`: what this says about the text of a number.
-/

namespace SymbolStyle

open Value

namespace Glsl

/-! ## The text of a literal -/

namespace Literal

theorem exists_isPlainNumeral (l : Literal) : ∃ whole places, IsPlainNumeral whole places ∧
    l.text = Double.signed l.negative (whole ++ '.' :: places) := by
  obtain ⟨whole, places, heq, hplain⟩ :=
    Decimal.exists_isPlainNumeral_positional l.magnitude.shortest_eq_or
  exact ⟨whole, places, hplain, by rw [text, heq]⟩

/-- The text denotes the shortest decimal. -/
theorem numeralValue?_text (l : Literal) :
    numeralValue? l.text = some (signedNumber l.negative l.magnitude.shortest.value) :=
  numeralValue?_positional l.magnitude.shortest_eq_or l.negative

/-- The text is read as the double, under its sign. -/
theorem read?_text (l : Literal) : Double.read? l.text = some (.finite l.negative l.magnitude) := by
  obtain ⟨whole, places, heq, hplain⟩ :=
    Decimal.exists_isPlainNumeral_positional l.magnitude.shortest_eq_or
  obtain ⟨d, hread, hvalue⟩ := Decimal.read?_plain hplain
  rw [← heq, denoted_positional] at hvalue
  rw [text, heq, Double.read?_signed l.negative hplain, hread, Option.map_some,
    Decimal.toDouble_congr hvalue, Magnitude.toDouble_shortest]

/-- Different literals have different texts. -/
theorem text_injective {l l' : Literal} (h : l.text = l'.text) : l = l' := by
  -- Both are read as the double of their common text.
  have hread := l.read?_text
  rw [h, l'.read?_text] at hread
  obtain ⟨hnegative, hmagnitude⟩ := Double.finite.inj (Option.some.inj hread)
  cases l
  cases l'
  rw [Literal.mk.injEq]
  exact ⟨hnegative.symm, hmagnitude.symm⟩

end Literal

/-! ## Which numbers have literals -/

theorem number?_eq_some {v : Value} {x : Double} (hv : v.number? = some x) :
    (∃ n, v = .int n ∧ x = .ofInt n) ∨ v = .float x := by
  cases v with
  | int n => exact .inl ⟨n, rfl, (Option.some.inj hv).symm⟩
  | float y => exact .inr (congrArg Value.float (Option.some.inj hv))
  | _ => cases hv

/-- A number without a finite double has no literal. -/
theorem literalOf_eq_error {v : Value} {x : Double} (hv : v.number? = some x)
    (hx : x.isFinite = false) : literalOf v = .error (.expression (.nonFinite v v)) := by
  rcases number?_eq_some hv with ⟨n, rfl, rfl⟩ | rfl
  · rw [literalOf, toDouble, if_neg (by simp [hx])]
  · cases x with
    | finite negative m => cases hx
    | nan => rfl
    | infinite negative => rfl

/-- Any other number has the literal of its double. -/
theorem literalOf_eq_ok_iff {v : Value} {x : Double} (hv : v.number? = some x) {l : Literal} :
    literalOf v = .ok l ↔ x = .finite l.negative l.magnitude := by
  cases hfinite : x.isFinite with
  | false =>
    rw [literalOf_eq_error hv hfinite]
    constructor
    · intro h
      cases h
    · rintro rfl
      cases hfinite
  | true =>
    -- A whole number is converted only if its double is finite, which it is.
    have hdouble : v.toDouble = .ok x := by
      rcases number?_eq_some hv with ⟨n, rfl, rfl⟩ | rfl
      · exact toDouble_int hfinite
      · rw [toDouble]
    obtain ⟨negative, m, rfl⟩ := exists_finite_of_isFinite hfinite
    obtain ⟨negative', m'⟩ := l
    rw [literalOf_of_toDouble hdouble]
    simp

/-- The checks of expressions accept the same numbers. -/
theorem validate_number {v : Value} {x : Double} (hv : v.number? = some x) :
    v.validate = if x.isFinite then .ok () else .error (.nonFinite v v) := by
  have hfinite : v.isFiniteNumber = x.isFinite := by rw [isFiniteNumber, hv, Option.any_some]
  have hplain : v.validate = validatePlain v [v] ∧ v.isNumber ∧ v.kind = .number := by
    rcases number?_eq_some hv with ⟨n, rfl, rfl⟩ | rfl
    · exact ⟨validate_of_not_sequence (by simp), rfl, rfl⟩
    · exact ⟨validate_of_not_sequence (by simp), rfl, rfl⟩
  obtain ⟨hvalidate, hnumber, hkind⟩ := hplain
  rw [hvalidate, validatePlain, findNonFinite?, List.find?_singleton, hnumber, hfinite]
  cases x.isFinite with
  | true => simp [hkind]
  | false => rfl

/-- Finite numbers are written exactly and in one way, and all others are refused, as
    they are when expressions are checked. -/
theorem literalOf_exact_or_nonFinite {v : Value} {x : Double} (hv : v.number? = some x) :
    (∀ negative m, x = .finite negative m → v.validate = .ok () ∧ ∃ l, literalOf v = .ok l ∧
      (∃ whole places, IsPlainNumeral whole places ∧
        l.text = Double.signed negative (whole ++ '.' :: places)) ∧
      (∃ d : Decimal, d.IsShortest m) ∧
      (∀ d : Decimal, d.IsShortest m →
        numeralValue? l.text = some (signedNumber negative d.value)) ∧
      (∀ words, numeralValue? l.text = numeralValue? (x.compact words)) ∧
      Double.read? l.text = some x ∧ literalOf (.float x) = .ok l ∧
      ∀ v' x' l', v'.number? = some x' → literalOf v' = .ok l' → l'.text = l.text → x' = x) ∧
    (x.isFinite = false → v.validate = .error (.nonFinite v v) ∧
      literalOf v = .error (.expression (.nonFinite v v)) ∧
      (v.hasLongInt = false → (ExpressionError.nonFinite v v).message?.isSome)) := by
  constructor
  · rintro negative m rfl
    have hshortest := m.isShortest_shortest
    refine ⟨by rw [validate_number hv]; rfl, ⟨negative, m⟩, (literalOf_eq_ok_iff hv).2 rfl,
      Literal.exists_isPlainNumeral _, ⟨_, hshortest⟩, fun d hd => ?_, fun words => ?_,
      Literal.read?_text _, (literalOf_eq_ok_iff rfl).2 rfl, fun v' x' l' hv' hl' htext => ?_⟩
    · rw [Literal.numeralValue?_text, hshortest.value_unique hd]
    · rw [Literal.numeralValue?_text]
      exact (numeralValue?_compact m.shortest_eq_or negative).symm
    · rw [(literalOf_eq_ok_iff hv').1 hl', Literal.text_injective htext]
  · intro hx
    refine ⟨by rw [validate_number hv, hx]; rfl, literalOf_eq_error hv hx, fun hlong => ?_⟩
    exact ExpressionError.isSome_message?_iff.2 hlong

/-- A whole number between two doubles is written as the even one. -/
theorem literalOf_roundedInt :
    (Value.int 9007199254740993).number? = some (.finite false ⟨1076 * Nat.pow 2 52, by decide⟩) ∧
      ∃ l, literalOf (.int 9007199254740993) = .ok l ∧
        Double.read? l.text = some (.finite false ⟨1076 * Nat.pow 2 52, by decide⟩) := by
  have hnumber : (Value.int 9007199254740993).number?
      = some (.finite false ⟨1076 * Nat.pow 2 52, by decide⟩) := by decide +kernel
  obtain ⟨-, l, hl, -, -, -, -, hread, -, -⟩ := (literalOf_exact_or_nonFinite hnumber).1 _ _ rfl
  exact ⟨hnumber, l, hl, hread⟩

end Glsl

end SymbolStyle

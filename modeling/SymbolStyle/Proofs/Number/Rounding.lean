import Mathlib.Data.Nat.Log
import Mathlib.Tactic.Linarith
import Mathlib.Tactic.Ring
import SymbolStyle.Number.Double

/-! # Laws of rounding

    Rounding to a binary format never reverses the order of two quotients and
    leaves the numbers of the format alone. Everything else that is needed of
    rounding follows from these two:

    * `BinaryFormat.nearest_le_nearest`: rounding is monotone.
    * `BinaryFormat.nearest_units`: a number of the format rounds to itself.
    * `Double.isFinite_ofQuotient_of_le`: dividing does not leave the finite
      range.
-/

namespace SymbolStyle

/-! ## Rounding to whole numbers -/

/-- The rounded quotient is at most half a unit away from the exact one, and it
    is even where it is exactly half a unit away. -/
structure NearestQuotient (num den n : Nat) : Prop where
  /-- Not too large. -/
  upper : 2 * (n * den) ≤ 2 * num + den
  /-- Not too small. -/
  lower : 2 * num ≤ 2 * (n * den) + den
  /-- A half that was rounded up went to an even number. -/
  even_up : 2 * (n * den) = 2 * num + den → n % 2 = 0
  /-- A half that was rounded down went to an even number. -/
  even_down : 2 * num = 2 * (n * den) + den → n % 2 = 0

theorem nearestQuotient_roundQuotient (num : Nat) {den : Nat} (hden : 0 < den) :
    NearestQuotient num den (roundQuotient num den) := by
  have hdiv : num / den * den + num % den = num := Nat.div_add_mod' num den
  have hrest : num % den < den := Nat.mod_lt _ hden
  -- The three branches are: below the middle, above it, and in the middle.
  unfold roundQuotient
  simp only
  generalize num / den = below at *
  generalize num % den = rest at *
  split
  · constructor <;> intros <;> omega
  · split
    · constructor <;> intros <;> rw [Nat.add_mul] at * <;> omega
    · rcases Nat.mod_two_eq_zero_or_one below with hb | hb
      · rw [hb]
        constructor <;> intros <;> rw [Nat.add_zero] at * <;> omega
      · rw [hb]
        constructor <;> intros <;> rw [Nat.add_mul] at * <;> omega

/-- Rounding to a whole number does not reverse the order of two quotients. -/
theorem roundQuotient_le_roundQuotient {num den num' den' : Nat} (hden : 0 < den)
    (hden' : 0 < den') (hle : num * den' ≤ num' * den) :
    roundQuotient num den ≤ roundQuotient num' den' := by
  have h := nearestQuotient_roundQuotient num hden
  have h' := nearestQuotient_roundQuotient num' hden'
  generalize roundQuotient num den = a at *
  generalize roundQuotient num' den' = b at *
  by_contra hlt
  -- Then both quotients lie in the middle between `b` and `a = b + 1`, and
  -- both of these would have to be even.
  have hba : b + 1 ≤ a := by omega
  have h₁ : 2 * (a * den) * den' ≤ (2 * num + den) * den' := Nat.mul_le_mul_right _ h.upper
  have h₂ : 2 * num' * den ≤ (2 * (b * den') + den') * den := Nat.mul_le_mul_right _ h'.lower
  have h₃ : (b + 1) * (den * den') ≤ a * (den * den') := Nat.mul_le_mul_right _ hba
  have hpos : 0 < den * den' := Nat.mul_pos hden hden'
  have hab : a * (den * den') = (b + 1) * (den * den') := by nlinarith
  have ha : a = b + 1 := Nat.eq_of_mul_eq_mul_right hpos hab
  subst ha
  have hup : 2 * ((b + 1) * den) = 2 * num + den := by
    apply Nat.eq_of_mul_eq_mul_right hden'
    nlinarith
  have hdown : 2 * num' = 2 * (b * den') + den' := by
    apply Nat.eq_of_mul_eq_mul_right hden
    nlinarith
  have := h.even_up hup
  have := h'.even_down hdown
  omega

/-- A quotient that is at most a whole number rounds to at most that. -/
theorem roundQuotient_le {num den n : Nat} (hden : 0 < den) (hle : num ≤ n * den) :
    roundQuotient num den ≤ n := by
  rw [← roundQuotient_mul n Nat.one_pos]
  apply roundQuotient_le_roundQuotient hden Nat.one_pos
  simpa using hle

/-- A quotient that is at least a whole number rounds to at least that. -/
theorem le_roundQuotient {num den n : Nat} (hden : 0 < den) (hle : n * den ≤ num) :
    n ≤ roundQuotient num den := by
  rw [← roundQuotient_mul n Nat.one_pos]
  apply roundQuotient_le_roundQuotient Nat.one_pos hden
  simpa using hle

namespace BinaryFormat

variable {f : BinaryFormat}

/-! ## Rounding to a format -/

theorem one_pos (f : BinaryFormat) : 0 < f.one := Nat.two_pow_pos f.depth

theorem binade_eq (f : BinaryFormat) : f.binade = 2 ^ (f.precision - 1) := rfl

theorem units_eq (f : BinaryFormat) (rank : Nat) :
    f.units rank = f.significand rank * 2 ^ f.scale rank := rfl

/-- The power of two by which a quotient is scaled down before it is rounded
    to a whole number. -/
def roundingScale (f : BinaryFormat) (num den : Nat) : Nat :=
  (num * f.one / den).log2 + 1 - f.precision

theorem nearest_eq (f : BinaryFormat) (num den : Nat) :
    f.nearest num den = f.roundingScale num den * f.binade
      + roundQuotient (num * f.one) (den * 2 ^ f.roundingScale num den) := rfl

theorem two_pow_precision (hf : 0 < f.precision) : 2 ^ f.precision = 2 * f.binade := by
  rw [binade_eq, ← Nat.pow_succ', Nat.succ_eq_add_one, Nat.sub_add_cancel hf]

/-- A scaled quotient has at most as many bits before the point as the format. -/
theorem lt_two_mul_binade (hf : 0 < f.precision) (num : Nat) {den : Nat} (hden : 0 < den) :
    num * f.one < 2 * f.binade * (den * 2 ^ f.roundingScale num den) := by
  -- The scale takes away all bits of the whole part beyond the precision.
  have hlog : num * f.one / den < 2 ^ ((num * f.one / den).log2 + 1) :=
    Nat.lt_log2_self
  have hscale : (num * f.one / den).log2 + 1 ≤ f.precision + f.roundingScale num den := by
    unfold roundingScale
    omega
  have hpow : num * f.one / den < 2 ^ (f.precision + f.roundingScale num den) :=
    Nat.lt_of_lt_of_le hlog (Nat.pow_le_pow_right (by decide) hscale)
  calc num * f.one < 2 ^ (f.precision + f.roundingScale num den) * den :=
        (Nat.div_lt_iff_lt_mul hden).1 hpow
    _ = 2 * f.binade * (den * 2 ^ f.roundingScale num den) := by
      rw [Nat.pow_add, two_pow_precision hf]
      ring

/-- Where a quotient is scaled down at all, it is not missing the leading bit. -/
theorem binade_mul_le (hf : 0 < f.precision) (num : Nat) {den : Nat} (hden : 0 < den)
    (hscale : 0 < f.roundingScale num den) :
    f.binade * (den * 2 ^ f.roundingScale num den) ≤ num * f.one := by
  unfold roundingScale at hscale
  have hne : num * f.one / den ≠ 0 := by
    intro h
    rw [h, Nat.log2_zero] at hscale
    omega
  have hpow : 2 ^ (num * f.one / den).log2 ≤ num * f.one / den :=
    Nat.log2_self_le hne
  have hmul : 2 ^ (num * f.one / den).log2 * den ≤ num * f.one :=
    (Nat.le_div_iff_mul_le hden).1 hpow
  have hexp : f.precision - 1 + f.roundingScale num den ≤ (num * f.one / den).log2 := by
    unfold roundingScale
    omega
  calc f.binade * (den * 2 ^ f.roundingScale num den)
      = 2 ^ (f.precision - 1 + f.roundingScale num den) * den := by
        rw [Nat.pow_add, binade_eq]
        ring
    _ ≤ 2 ^ (num * f.one / den).log2 * den :=
        Nat.mul_le_mul_right _ (Nat.pow_le_pow_right (by decide) hexp)
    _ ≤ num * f.one := hmul

/-- The scaled significand has at most as many bits as the format. -/
theorem roundQuotient_le_binade (hf : 0 < f.precision) (num : Nat) {den : Nat} (hden : 0 < den) :
    roundQuotient (num * f.one) (den * 2 ^ f.roundingScale num den) ≤ 2 * f.binade :=
  roundQuotient_le (Nat.mul_pos hden (Nat.two_pow_pos _)) (lt_two_mul_binade hf num hden).le

/-- Where a quotient is scaled down at all, its significand is not missing the
    leading bit. -/
theorem binade_le_roundQuotient (hf : 0 < f.precision) (num : Nat) {den : Nat} (hden : 0 < den)
    (hscale : 0 < f.roundingScale num den) :
    f.binade ≤ roundQuotient (num * f.one) (den * 2 ^ f.roundingScale num den) :=
  le_roundQuotient (Nat.mul_pos hden (Nat.two_pow_pos _)) (binade_mul_le hf num hden hscale)

/-- A larger quotient is not scaled down less. -/
theorem roundingScale_le_roundingScale {num den num' den' : Nat} (hden : 0 < den)
    (hden' : 0 < den') (hle : num * den' ≤ num' * den) :
    f.roundingScale num den ≤ f.roundingScale num' den' := by
  have hfloor : num * f.one / den ≤ num' * f.one / den' := by
    rw [Nat.le_div_iff_mul_le hden']
    have hmul : num * f.one / den * den ≤ num * f.one := Nat.div_mul_le_self _ _
    apply Nat.le_of_mul_le_mul_right _ hden
    calc num * f.one / den * den' * den
        = num * f.one / den * den * den' := by ring
      _ ≤ num * f.one * den' := Nat.mul_le_mul_right _ hmul
      _ = num * den' * f.one := by ring
      _ ≤ num' * den * f.one := Nat.mul_le_mul_right _ hle
      _ = num' * f.one * den := by ring
  -- A larger whole part has no fewer bits.
  have hlog : (num * f.one / den).log2 ≤ (num' * f.one / den').log2 := by
    rw [Nat.log2_eq_log_two, Nat.log2_eq_log_two]
    exact Nat.log_mono_right hfloor
  unfold roundingScale
  omega

/-- Rounding is monotone. Where the two quotients are scaled down alike, this
    is monotonicity of rounding to whole numbers; otherwise the larger one is
    in a higher binade. -/
theorem nearest_le_nearest (hf : 0 < f.precision) {num den num' den' : Nat} (hden : 0 < den)
    (hden' : 0 < den') (hle : num * den' ≤ num' * den) :
    f.nearest num den ≤ f.nearest num' den' := by
  rw [nearest_eq, nearest_eq]
  rcases (roundingScale_le_roundingScale (f := f) hden hden' hle).eq_or_lt with hscale | hscale
  · rw [hscale]
    apply Nat.add_le_add_left
    apply roundQuotient_le_roundQuotient
    · exact Nat.mul_pos hden (Nat.two_pow_pos _)
    · exact Nat.mul_pos hden' (Nat.two_pow_pos _)
    · calc num * f.one * (den' * 2 ^ f.roundingScale num' den')
          = num * den' * (f.one * 2 ^ f.roundingScale num' den') := by ring
        _ ≤ num' * den * (f.one * 2 ^ f.roundingScale num' den') :=
          Nat.mul_le_mul_right _ hle
        _ = num' * f.one * (den * 2 ^ f.roundingScale num' den') := by ring
  · -- The significands may be ordered either way, but by less than a binade.
    have hupper := roundQuotient_le_binade hf num hden
    have hlower := binade_le_roundQuotient hf num' hden' (by omega)
    have hbinades : (f.roundingScale num den + 1) * f.binade
        ≤ f.roundingScale num' den' * f.binade := Nat.mul_le_mul_right _ hscale
    rw [Nat.add_mul, Nat.one_mul] at hbinades
    omega

/-! ## Numbers of a format -/

theorem units_of_lt_binade {rank : Nat} (h : rank < f.binade) : f.units rank = rank := by
  have hscale : f.scale rank = 0 := by simp [scale, Nat.div_eq_of_lt h]
  simp [units, significand, h, hscale]

/-- Above the lowest binade a significand has the leading bit and no further
    one. -/
theorem significand_bounds {rank : Nat} (h : f.binade ≤ rank) :
    f.binade ≤ f.significand rank ∧ f.significand rank < 2 * f.binade := by
  have hlt : rank % f.binade < f.binade := Nat.mod_lt _ (Nat.two_pow_pos _)
  simp only [significand, Nat.not_lt.2 h, if_false]
  omega

/-- Scale and significand of a rank give back the rank. -/
theorem scale_mul_binade_add_significand {rank : Nat} (h : f.binade ≤ rank) :
    f.scale rank * f.binade + f.significand rank = rank := by
  have hpos : 0 < f.binade := Nat.two_pow_pos _
  have hdiv : 1 ≤ rank / f.binade := (Nat.one_le_div_iff hpos).2 h
  have hmul : (rank / f.binade - 1) * f.binade + f.binade = rank / f.binade * f.binade := by
    rw [← Nat.succ_mul, Nat.succ_eq_add_one, Nat.sub_add_cancel hdiv]
  have hrank : rank / f.binade * f.binade + rank % f.binade = rank := Nat.div_add_mod' _ _
  simp only [scale, significand, Nat.not_lt.2 h, if_false]
  omega

/-- A number of the format, taken as a quotient, is scaled down by its own
    scale. -/
theorem roundingScale_units (hf : 0 < f.precision) (rank : Nat) :
    f.roundingScale (f.units rank) f.one = f.scale rank := by
  unfold roundingScale
  rw [Nat.mul_div_cancel _ f.one_pos]
  by_cases h : rank < f.binade
  · have hscale : f.scale rank = 0 := by simp [scale, Nat.div_eq_of_lt h]
    rw [units_of_lt_binade h, hscale]
    by_cases hzero : rank = 0
    · rw [hzero, Nat.log2_zero]
      omega
    · have hlog : rank.log2 < f.precision - 1 := (Nat.log2_lt hzero).2 h
      omega
  · have hbounds := significand_bounds (Nat.not_lt.1 h)
    have hpos : 0 < 2 ^ f.scale rank := Nat.two_pow_pos _
    have hne : f.units rank ≠ 0 := by
      have : 0 < f.binade := Nat.two_pow_pos _
      exact (Nat.mul_pos (by omega) hpos).ne'
    -- The number has the bits of its significand and those of its scale.
    have hlog : (f.units rank).log2 = f.precision - 1 + f.scale rank := by
      rw [Nat.log2_eq_iff hne]
      rw [units_eq]
      constructor
      · rw [Nat.pow_add]
        exact Nat.mul_le_mul_right _ hbounds.1
      · rw [show f.precision - 1 + f.scale rank + 1 = f.precision + f.scale rank by omega,
          Nat.pow_add, two_pow_precision hf]
        exact Nat.mul_lt_mul_of_pos_right hbounds.2 hpos
    omega

/-- A number of the format rounds to itself. -/
theorem nearest_units (hf : 0 < f.precision) (rank : Nat) :
    f.nearest (f.units rank) f.one = rank := by
  have hquotient : f.units rank * f.one
      = f.significand rank * (f.one * 2 ^ f.scale rank) := by
    rw [units_eq]
    ring
  rw [nearest_eq, roundingScale_units hf, hquotient,
    roundQuotient_mul _ (Nat.mul_pos f.one_pos (Nat.two_pow_pos _))]
  by_cases h : rank < f.binade
  · simp [scale, significand, h, Nat.div_eq_of_lt h]
  · exact scale_mul_binade_add_significand (Nat.not_lt.1 h)

end BinaryFormat

/-! ## Doubles -/

namespace Double

theorem precision_pos : 0 < BinaryFormat.double.precision := by decide

theorem isFinite_ofRank (negative : Bool) (rank : Nat) :
    (ofRank negative rank).isFinite ↔ rank < BinaryFormat.double.infinityRank := by
  unfold ofRank
  split
  · next h => simpa [isFinite] using h
  · next h => simpa [isFinite] using h

/-- What is smaller than a quotient in the finite range is in the finite
    range, under either sign. -/
theorem isFinite_ofQuotient_of_le {negative negative' : Bool} {num den num' den' : Nat}
    (hden : 0 < den) (hden' : 0 < den') (hle : num * den' ≤ num' * den)
    (hfinite : (ofQuotient negative' num' den').isFinite) :
    (ofQuotient negative num den).isFinite := by
  unfold ofQuotient at *
  rw [isFinite_ofRank] at *
  have hmono := BinaryFormat.nearest_le_nearest precision_pos hden hden' hle
  omega

/-- A magnitude is the double nearest to itself. -/
theorem ofQuotient_units (negative : Bool) (m : Magnitude) :
    ofQuotient negative m.units BinaryFormat.double.one = .finite negative m := by
  unfold ofQuotient Magnitude.units
  rw [BinaryFormat.nearest_units precision_pos]
  simp [ofRank, m.rank_lt]

/-- Whole numbers between two finite ones are finite. -/
theorem isFinite_ofInt_of_natAbs_le {n bound : Int} (hle : n.natAbs ≤ bound.natAbs)
    (hfinite : (ofInt bound).isFinite) : (ofInt n).isFinite :=
  isFinite_ofQuotient_of_le Nat.one_pos Nat.one_pos (Nat.mul_le_mul_right _ hle) hfinite

/-- Dividing a whole number stays in the finite range. -/
theorem isFinite_ofQuotient_of_isFinite_ofInt (den : Nat) (hden : 0 < den) {n : Int}
    (hfinite : (ofInt n).isFinite) : (ofQuotient (n < 0) n.natAbs den).isFinite := by
  apply isFinite_ofQuotient_of_le hden Nat.one_pos _ hfinite
  exact Nat.mul_le_mul_left _ hden

/-- Dividing a double stays in the finite range. -/
theorem isFinite_divNat (den : Nat) (hden : 0 < den) {x : Double} (hfinite : x.isFinite) :
    (x.divNat den).isFinite := by
  cases x with
  | finite negative m =>
    have hone := BinaryFormat.double.one_pos
    -- The whole, taken as a quotient, is the double itself.
    have hself : (ofQuotient negative m.units BinaryFormat.double.one).isFinite := by
      rw [ofQuotient_units, isFinite]
    rw [divNat]
    apply isFinite_ofQuotient_of_le (Nat.mul_pos hden hone) hone _ hself
    exact Nat.mul_le_mul_left _ (Nat.le_mul_of_pos_left _ hden)
  | nan => exact hfinite
  | infinite negative => exact hfinite

end Double

end SymbolStyle

import Mathlib.Algebra.Order.Field.Power
import Mathlib.Order.Monotone.Basic
import Mathlib.Tactic.FieldSimp
import Mathlib.Tactic.Positivity
import SymbolStyle.Number.Numeral
import SymbolStyle.Proofs.Number.Positional
import SymbolStyle.Proofs.Number.Rounding

/-! # The nearest number of a format

    What rounding to a binary format means, without the way in which it is
    computed.

    A number rounds to the one of the format between whose midpoints to its
    neighbours it lies. On a midpoint it rounds to the neighbour of even rank,
    which is the one with an even significand.

    * `BinaryFormat.RoundsTo`: this meaning.
    * `BinaryFormat.nearest_eq_iff`: it is what is computed.
    * `Decimal.toDouble_eq_finite_iff`: a decimal is read as the double to which
      it rounds, so decimals of one value are read alike.
-/

namespace SymbolStyle

namespace BinaryFormat

variable {f : BinaryFormat}

/-! ## Neighbours in a format -/

theorem one_eq (f : BinaryFormat) : f.one = 2 ^ f.depth := rfl

theorem cast_one_pos (f : BinaryFormat) : (0 : ℚ) < f.one := by exact_mod_cast f.one_pos

theorem binade_pos (f : BinaryFormat) : 0 < f.binade := Nat.two_pow_pos _

/-- Ranks in one binade, the last of which already starts the next. -/
theorem units_add {scale significand : Nat} (hlow : scale = 0 ∨ f.binade ≤ significand)
    (hhigh : significand ≤ 2 * f.binade) :
    f.units (scale * f.binade + significand) = significand * 2 ^ scale := by
  have hpos := f.binade_pos
  rcases Nat.lt_or_ge significand f.binade with hsmall | hlarge
  · obtain rfl : scale = 0 := by omega
    rw [Nat.zero_mul, Nat.zero_add, units_of_lt_binade hsmall, Nat.pow_zero, Nat.mul_one]
  · have hrank : ¬ scale * f.binade + significand < f.binade := by omega
    rcases hhigh.lt_or_eq with hinside | hnext
    · -- The binades below take up the scale, and one more the leading bit.
      have hsplit : scale * f.binade + significand
          = (significand - f.binade) + (scale + 1) * f.binade := by
        rw [Nat.add_mul]
        omega
      have hrest : significand - f.binade < f.binade := by omega
      rw [units_eq, BinaryFormat.significand, BinaryFormat.scale, if_neg hrank, hsplit,
        Nat.add_mul_mod_self_right, Nat.mod_eq_of_lt hrest, Nat.add_mul_div_right _ _ hpos,
        Nat.div_eq_of_lt hrest]
      congr 1
      · omega
      · congr 1
        omega
    · have hsplit : scale * f.binade + significand = (scale + 2) * f.binade := by
        rw [Nat.add_mul]
        omega
      rw [units_eq, BinaryFormat.significand, BinaryFormat.scale, if_neg hrank, hsplit,
        Nat.mul_mod_left, Nat.mul_div_cancel _ hpos, Nat.zero_add, hnext]
      rw [show scale + 2 - 1 = scale + 1 by omega, Nat.pow_succ]
      ring

/-- Every rank is a place in a binade. -/
theorem exists_eq_add (f : BinaryFormat) (rank : Nat) : ∃ scale significand,
    rank = scale * f.binade + significand ∧ (scale = 0 ∨ f.binade ≤ significand) ∧
      significand < 2 * f.binade := by
  rcases Nat.lt_or_ge rank f.binade with hsmall | hlarge
  · exact ⟨0, rank, by simp, .inl rfl, by omega⟩
  · obtain ⟨hlow, hhigh⟩ := significand_bounds hlarge
    exact ⟨_, _, (scale_mul_binade_add_significand hlarge).symm, .inr hlow, hhigh⟩

/-- Ranks stand in the order of the numbers. -/
theorem units_strictMono (f : BinaryFormat) : StrictMono f.units := by
  apply strictMono_nat_of_lt_succ
  intro rank
  obtain ⟨scale, significand, rfl, hlow, hhigh⟩ := f.exists_eq_add rank
  have hnext : f.units (scale * f.binade + (significand + 1)) = (significand + 1) * 2 ^ scale :=
    units_add (by omega) (by omega)
  rw [Nat.add_assoc, units_add hlow hhigh.le, hnext]
  exact Nat.mul_lt_mul_of_pos_right (Nat.lt_succ_self _) (Nat.two_pow_pos _)

/-- Binades have an even number of ranks. -/
theorem binade_mod_two (hf : 2 ≤ f.precision) : f.binade % 2 = 0 := by
  rw [binade_eq, show f.precision - 1 = (f.precision - 2) + 1 by omega, Nat.pow_succ]
  exact Nat.mul_mod_left _ _

theorem significand_mod_two (hf : 2 ≤ f.precision) (rank : Nat) :
    f.significand rank % 2 = rank % 2 := by
  unfold significand
  split
  · rfl
  · have hsplit := Nat.div_add_mod' rank f.binade
    have heven := binade_mod_two hf
    have hmul : rank / f.binade * f.binade % 2 = 0 := by
      rw [Nat.mul_mod, heven, Nat.mul_zero, Nat.zero_mod]
    omega

/-! ## Midpoints -/

/-- The midpoint between the number of a rank and the one before it, doubled and
    in units of the least positive number. -/
def lowMidpoint (f : BinaryFormat) (rank : Nat) : Nat := f.units (rank - 1) + f.units rank

/-- The midpoint between the number of a rank and the next one, in the same
    units. -/
def highMidpoint (f : BinaryFormat) (rank : Nat) : Nat := f.units rank + f.units (rank + 1)

/-- The number rounds to the one of the rank: it lies between the midpoints, and
    on one only if the rank is even. -/
structure RoundsTo (f : BinaryFormat) (q : ℚ) (rank : Nat) : Prop where
  low_le : f.lowMidpoint rank ≤ 2 * f.one * q
  le_high : 2 * f.one * q ≤ f.highMidpoint rank
  even_of_low : 2 * f.one * q = f.lowMidpoint rank → rank % 2 = 0
  even_of_high : 2 * f.one * q = f.highMidpoint rank → rank % 2 = 0

theorem lowMidpoint_le_units (f : BinaryFormat) (rank : Nat) :
    f.lowMidpoint rank ≤ 2 * f.units rank := by
  have hle := f.units_strictMono.monotone (Nat.sub_le rank 1)
  unfold lowMidpoint
  omega

theorem units_lt_highMidpoint (f : BinaryFormat) (rank : Nat) :
    2 * f.units rank < f.highMidpoint rank := by
  have hlt : f.units rank < f.units (rank + 1) := f.units_strictMono (Nat.lt_succ_self rank)
  unfold highMidpoint
  omega

section Place

variable {scale significand : Nat}

/-- Inside a binade, the midpoint before a number is half a step from it. -/
theorem lowMidpoint_add (hinside : 0 < significand ∧ (scale = 0 ∨ f.binade < significand))
    (hhigh : significand ≤ 2 * f.binade) :
    f.lowMidpoint (scale * f.binade + significand) + 2 ^ scale
      = 2 * (significand * 2 ^ scale) := by
  have hprevious : f.units (scale * f.binade + significand - 1)
      = (significand - 1) * 2 ^ scale := by
    rw [Nat.add_sub_assoc hinside.1]
    exact units_add (by omega) (by omega)
  obtain ⟨before, rfl⟩ : ∃ before, significand = before + 1 := ⟨significand - 1, by omega⟩
  rw [lowMidpoint, hprevious, units_add (by omega) hhigh, Nat.add_sub_cancel]
  ring

/-- At the start of a binade it is nearer, since the last step was shorter. -/
theorem le_lowMidpoint_add (hlow : scale = 0 ∨ f.binade ≤ significand)
    (hhigh : significand ≤ 2 * f.binade) :
    2 * (significand * 2 ^ scale) ≤ f.lowMidpoint (scale * f.binade + significand) + 2 ^ scale := by
  by_cases hinside : 0 < significand ∧ (scale = 0 ∨ f.binade < significand)
  · exact (lowMidpoint_add hinside hhigh).ge
  · rcases Nat.eq_zero_or_pos significand with rfl | hpos
    · rw [Nat.zero_mul]
      exact Nat.zero_le _
    · have hbinade := f.binade_pos
      obtain rfl : significand = f.binade := by omega
      obtain ⟨below, rfl⟩ : ∃ below, scale = below + 1 := ⟨scale - 1, by omega⟩
      have hrank : (below + 1) * f.binade + f.binade - 1
          = below * f.binade + (2 * f.binade - 1) := by
        rw [Nat.add_mul]
        omega
      have hprevious : (f.binade - 1) * 2 ^ (below + 1) ≤ (2 * f.binade - 1) * 2 ^ below := by
        rw [Nat.pow_succ', ← Nat.mul_assoc]
        exact Nat.mul_le_mul_right _ (by omega)
      rw [lowMidpoint, hrank, units_add (by omega) (by omega), units_add hlow hhigh]
      rw [Nat.sub_mul] at hprevious
      omega

/-- The midpoint after a number is half a step from it. -/
theorem highMidpoint_eq (hlow : scale = 0 ∨ f.binade ≤ significand)
    (hhigh : significand < 2 * f.binade) :
    f.highMidpoint (scale * f.binade + significand)
      = 2 * (significand * 2 ^ scale) + 2 ^ scale := by
  have hnext : f.units (scale * f.binade + (significand + 1)) = (significand + 1) * 2 ^ scale :=
    units_add (by omega) (by omega)
  rw [highMidpoint, Nat.add_assoc, hnext, units_add hlow hhigh.le]
  ring

end Place

/-- A number lies between the midpoints around the rank that is computed. -/
theorem midpoints_nearest (hf : 2 ≤ f.precision) (num : Nat) {den : Nat} (hden : 0 < den) :
    f.lowMidpoint (f.nearest num den) * den ≤ 2 * (num * f.one) ∧
      2 * (num * f.one) ≤ f.highMidpoint (f.nearest num den) * den ∧
      (2 * (num * f.one) = f.lowMidpoint (f.nearest num den) * den →
        f.nearest num den % 2 = 0) ∧
      (2 * (num * f.one) = f.highMidpoint (f.nearest num den) * den →
        f.nearest num den % 2 = 0) := by
  have hf' : 0 < f.precision := by omega
  rw [nearest_eq]
  -- The significand is the rounded quotient, unless this starts or ends a binade.
  have hround := nearestQuotient_roundQuotient (num * f.one)
    (Nat.mul_pos hden (Nat.two_pow_pos (f.roundingScale num den)))
  have hlow := binade_mul_le hf' num hden
  have hhigh := lt_two_mul_binade hf' num hden
  have hlow' := binade_le_roundQuotient hf' num hden
  have hhigh' := roundQuotient_le_binade hf' num hden
  generalize roundQuotient (num * f.one) (den * 2 ^ f.roundingScale num den) = q at *
  generalize f.roundingScale num den = s at *
  generalize num * f.one = x at *
  have hplace : s = 0 ∨ f.binade ≤ q := by omega
  have hparity : (s * f.binade + q) % 2 = q % 2 := by
    have heven := binade_mod_two hf
    have hmul : s * f.binade % 2 = 0 := by rw [Nat.mul_mod, heven, Nat.mul_zero, Nat.zero_mod]
    omega
  have hscaled : 2 * f.units (s * f.binade + q) * den = 2 * (q * (den * 2 ^ s)) := by
    rw [units_add hplace hhigh']
    ring
  -- Rounding went wrong by half a step at most, which is the distance of the midpoints
  -- except at the ends of a binade.
  have hlowCases : f.lowMidpoint (s * f.binade + q) * den + den * 2 ^ s = 2 * (q * (den * 2 ^ s)) ∨
      f.lowMidpoint (s * f.binade + q) * den ≤ 2 * x ∧ q % 2 = 0 := by
    by_cases hinside : 0 < q ∧ (s = 0 ∨ f.binade < q)
    · have hmid := congrArg (· * den) (lowMidpoint_add hinside hhigh')
      exact .inl (by linarith)
    · have hle := Nat.mul_le_mul_right den (f.lowMidpoint_le_units (s * f.binade + q))
      rw [hscaled] at hle
      rcases Nat.eq_zero_or_pos q with rfl | hq
      · exact .inr ⟨by omega, rfl⟩
      · obtain rfl : q = f.binade := by omega
        exact .inr ⟨by omega, binade_mod_two hf⟩
  have hhighCases : f.highMidpoint (s * f.binade + q) * den
      = 2 * (q * (den * 2 ^ s)) + den * 2 ^ s ∨
      2 * x < f.highMidpoint (s * f.binade + q) * den := by
    rcases hhigh'.lt_or_eq with hinside | rfl
    · have hmid := congrArg (· * den) (highMidpoint_eq hplace hinside)
      exact .inl (by linarith)
    · have hlt := Nat.mul_lt_mul_of_pos_right
        (f.units_lt_highMidpoint (s * f.binade + 2 * f.binade)) hden
      rw [hscaled] at hlt
      exact .inr (by omega)
  have hupper := hround.upper
  have hlower := hround.lower
  rw [hparity]
  refine ⟨?_, ?_, ?_, ?_⟩
  · omega
  · omega
  · intro heq
    rcases hlowCases with hmid | ⟨-, heven⟩
    · exact hround.even_up (by omega)
    · exact heven
  · intro heq
    rcases hhighCases with hmid | hlt
    · exact hround.even_down (by omega)
    · omega

/-! ## Rounding to the nearest number -/

/-- What is computed is a rank to which the quotient rounds. -/
theorem roundsTo_nearest (hf : 2 ≤ f.precision) (num : Nat) {den : Nat} (hden : 0 < den) :
    f.RoundsTo (num / den) (f.nearest num den) := by
  obtain ⟨hlow, hhigh, hevenLow, hevenHigh⟩ := midpoints_nearest hf num hden
  have hpos : (0 : ℚ) < den := by exact_mod_cast hden
  have hscaled : 2 * (f.one : ℚ) * (num / den) * den = (2 * (num * f.one) : ℕ) := by
    push_cast
    field_simp
  constructor
  · apply le_of_mul_le_mul_right _ hpos
    rw [hscaled]
    exact_mod_cast hlow
  · apply le_of_mul_le_mul_right _ hpos
    rw [hscaled]
    exact_mod_cast hhigh
  · intro heq
    rw [heq] at hscaled
    exact hevenLow (by exact_mod_cast hscaled.symm)
  · intro heq
    rw [heq] at hscaled
    exact hevenHigh (by exact_mod_cast hscaled.symm)

/-- A number of the format rounds to itself. -/
theorem roundsTo_units (hf : 2 ≤ f.precision) (rank : Nat) :
    f.RoundsTo (f.units rank / f.one) rank := by
  have h := roundsTo_nearest hf (f.units rank) f.one_pos
  rwa [nearest_units (by omega)] at h

namespace RoundsTo

variable {q q' : ℚ} {rank rank' : Nat}

/-- Midpoints do not cross. -/
theorem le (h : f.RoundsTo q rank) (h' : f.RoundsTo q rank') : rank' ≤ rank := by
  by_contra hlt
  have hprevious : f.units rank ≤ f.units (rank' - 1) := f.units_strictMono.monotone (by omega)
  have hnext : f.units (rank + 1) ≤ f.units rank' := f.units_strictMono.monotone (by omega)
  have hmid : f.highMidpoint rank ≤ f.lowMidpoint rank' := Nat.add_le_add hprevious hnext
  have hmid' : (f.highMidpoint rank : ℚ) ≤ f.lowMidpoint rank' := by exact_mod_cast hmid
  -- The number is on a midpoint between the two, so both ranks are even.
  have heq : (f.highMidpoint rank : ℚ) = f.lowMidpoint rank' :=
    le_antisymm hmid' (h'.low_le.trans h.le_high)
  have heven := h.even_of_high (le_antisymm h.le_high (heq ▸ h'.low_le))
  have heven' := h'.even_of_low (le_antisymm (heq ▸ h.le_high) h'.low_le)
  have hstep : rank' = rank + 1 := by
    by_contra hfar
    have hstrict : f.units rank < f.units (rank' - 1) := f.units_strictMono (by omega)
    have hlt : f.highMidpoint rank < f.lowMidpoint rank' := Nat.add_lt_add_of_lt_of_le hstrict hnext
    exact absurd (by exact_mod_cast heq) hlt.ne
  omega

/-- A number rounds to one rank only. -/
theorem unique (h : f.RoundsTo q rank) (h' : f.RoundsTo q rank') : rank = rank' :=
  Nat.le_antisymm (h'.le h) (h.le h')

/-- What lies between numbers of one rank has this rank. -/
theorem between {middle : ℚ} (h : f.RoundsTo q rank) (h' : f.RoundsTo q' rank)
    (hle : q ≤ middle) (hle' : middle ≤ q') : f.RoundsTo middle rank := by
  have hpos := mul_pos two_pos f.cast_one_pos
  have hscaled : 2 * f.one * q ≤ 2 * f.one * middle := mul_le_mul_of_nonneg_left hle hpos.le
  have hscaled' : 2 * f.one * middle ≤ 2 * f.one * q' := mul_le_mul_of_nonneg_left hle' hpos.le
  refine ⟨h.low_le.trans hscaled, hscaled'.trans h'.le_high, ?_, ?_⟩
  · intro heq
    exact h.even_of_low (le_antisymm (heq ▸ hscaled) h.low_le)
  · intro heq
    exact h'.even_of_high (le_antisymm h'.le_high (heq ▸ hscaled'))

end RoundsTo

/-- The rank that is computed is the one to which the quotient rounds. -/
theorem nearest_eq_iff (hf : 2 ≤ f.precision) {num den rank : Nat} (hden : 0 < den) :
    f.nearest num den = rank ↔ f.RoundsTo (num / den) rank := by
  have h := roundsTo_nearest hf num hden
  constructor
  · rintro rfl
    exact h
  · exact h.unique

/-- Equal quotients have one rank. -/
theorem nearest_congr (hf : 2 ≤ f.precision) {num den num' den' : Nat} (hden : 0 < den)
    (hden' : 0 < den') (h : (num : ℚ) / den = num' / den') :
    f.nearest num den = f.nearest num' den' := by
  rw [nearest_eq_iff hf hden, h]
  exact roundsTo_nearest hf num' hden'

end BinaryFormat

/-! ## Doubles -/

namespace Double

theorem two_le_precision : 2 ≤ BinaryFormat.double.precision := by decide

theorem ofRank_eq_finite_iff {negative negative' : Bool} {rank : Nat} {m : Magnitude} :
    ofRank negative rank = .finite negative' m ↔ negative = negative' ∧ rank = m.rank := by
  obtain ⟨rank', hrank'⟩ := m
  unfold ofRank
  split
  · simp
  · next h =>
    simp only [reduceCtorEq, false_iff, not_and]
    rintro - rfl
    exact h hrank'

theorem ofQuotient_eq_finite_iff {negative : Bool} {num den : Nat} (hden : 0 < den)
    {m : Magnitude} : ofQuotient negative num den = .finite negative m ↔
      BinaryFormat.double.RoundsTo (num / den) m.rank := by
  rw [ofQuotient, ofRank_eq_finite_iff, BinaryFormat.nearest_eq_iff two_le_precision hden]
  simp

theorem ofQuotient_congr (negative : Bool) {num den num' den' : Nat} (hden : 0 < den)
    (hden' : 0 < den') (h : (num : ℚ) / den = num' / den') :
    ofQuotient negative num den = ofQuotient negative num' den' := by
  rw [ofQuotient, BinaryFormat.nearest_congr two_le_precision hden hden' h, ofQuotient]

/-- A quotient from the first number beyond the format on is infinite. -/
theorem ofQuotient_eq_infinite {negative : Bool} {num den n : Nat} (hden : 0 < den)
    (hn : 1024 ≤ n) (hlarge : 2 ^ n * den ≤ num) :
    ofQuotient negative num den = .infinite negative := by
  obtain ⟨bits, hbits⟩ : ∃ bits, bits = 1024 := ⟨_, rfl⟩
  have hbound : BinaryFormat.double.nearest (Nat.pow 2 bits) 1
      = BinaryFormat.double.infinityRank := by
    rw [hbits]
    decide +kernel
  rw [← hbits] at hn
  have hpower : Nat.pow 2 bits * den ≤ num * 1 := by
    rw [Nat.mul_one]
    exact (Nat.mul_le_mul_right _ (Nat.pow_le_pow_right (by decide) hn)).trans hlarge
  have hle := BinaryFormat.nearest_le_nearest precision_pos Nat.one_pos hden hpower
  have hrank : ¬ BinaryFormat.double.nearest num den < BinaryFormat.double.infinityRank := by
    omega
  rw [ofQuotient, ofRank, dif_neg hrank]

/-- A quotient up to half the least positive number is zero. -/
theorem ofQuotient_eq_zero {negative : Bool} {num den : Nat} (hden : 0 < den)
    (hsmall : num * (2 * BinaryFormat.double.one) ≤ den) :
    ofQuotient negative num den = .finite negative .zero := by
  have hpos : (0 : ℚ) < den := by exact_mod_cast hden
  have hlow : BinaryFormat.double.lowMidpoint 0 = 0 := by decide
  have hhigh : BinaryFormat.double.highMidpoint 0 = 1 := by decide
  rw [ofQuotient_eq_finite_iff hden, show Magnitude.zero.rank = 0 from rfl]
  refine ⟨?_, ?_, fun _ => rfl, fun _ => rfl⟩
  · rw [hlow]
    generalize BinaryFormat.double.one = one
    positivity
  · rw [hhigh, ← mul_div_assoc, div_le_iff₀ hpos, Nat.cast_one, one_mul, mul_comm]
    exact_mod_cast hsmall

end Double

/-! ## Decimals -/

namespace Decimal

/-- The numerator of a decimal as a quotient. -/
def num (d : Decimal) : Nat := d.coefficient * 10 ^ d.exponent.toNat

/-- The denominator of a decimal as a quotient. -/
def den (d : Decimal) : Nat := 10 ^ (-d.exponent).toNat

theorem den_pos (d : Decimal) : 0 < d.den := Nat.pow_pos (by decide)

theorem num_div_den (d : Decimal) : (d.num : ℚ) / d.den = d.value := by
  unfold num den value
  rcases Int.le_total 0 d.exponent with h | h
  · obtain ⟨n, hn⟩ := Int.eq_ofNat_of_zero_le h
    simp [hn]
  · obtain ⟨n, hn⟩ : ∃ n : Nat, d.exponent = -n := ⟨(-d.exponent).toNat, by omega⟩
    simp [hn, div_eq_mul_inv]

theorem num_eq_of_nonneg {d : Decimal} (h : 0 ≤ d.exponent) :
    d.num = d.coefficient * 10 ^ d.exponent.toNat ∧ d.den = 1 := by
  have hden : (-d.exponent).toNat = 0 := by omega
  rw [num, den, hden]
  exact ⟨rfl, rfl⟩

theorem num_eq_of_neg {d : Decimal} (h : d.exponent < 0) :
    d.num = d.coefficient ∧ d.den = 10 ^ d.exponent.natAbs := by
  have hnum : d.exponent.toNat = 0 := by omega
  have hden : (-d.exponent).toNat = d.exponent.natAbs := by omega
  rw [num, den, hnum, hden]
  exact ⟨Nat.mul_one _, rfl⟩

theorem mul_two_pow_le_ten_pow {c n k : Nat} (h : c.log2 + 1 + n ≤ 3 * k) :
    c * 2 ^ n ≤ 10 ^ k := by
  calc c * 2 ^ n ≤ 2 ^ (c.log2 + 1) * 2 ^ n := Nat.mul_le_mul_right _ Nat.lt_log2_self.le
    _ = 2 ^ (c.log2 + 1 + n) := (Nat.pow_add _ _ _).symm
    _ ≤ 2 ^ (3 * k) := Nat.pow_le_pow_right (by decide) h
    _ = (2 ^ 3) ^ k := Nat.pow_mul _ _ _
    _ ≤ 10 ^ k := Nat.pow_le_pow_left (by decide) _

/-- Decimals are rounded once. Those for which nothing is computed are beyond the
    format or nearer to zero than to any other number. -/
theorem toDouble_eq (negative : Bool) (d : Decimal) :
    d.toDouble negative = .ofQuotient negative d.num d.den := by
  unfold toDouble
  dsimp only
  split_ifs with hzero hlarge hsmall
  · refine (Double.ofQuotient_eq_zero d.den_pos ?_).symm
    rw [num, hzero, Nat.zero_mul, Nat.zero_mul]
    exact Nat.zero_le _
  · obtain ⟨hnum, hden⟩ := num_eq_of_nonneg (by omega : 0 ≤ d.exponent)
    have hexponent : 1024 ≤ 3 * d.exponent.toNat := by omega
    refine (Double.ofQuotient_eq_infinite d.den_pos hexponent ?_).symm
    rw [hnum, hden, Nat.mul_one]
    calc 2 ^ (3 * d.exponent.toNat) = (2 ^ 3) ^ d.exponent.toNat := Nat.pow_mul _ _ _
      _ ≤ 10 ^ d.exponent.toNat := Nat.pow_le_pow_left (by decide) _
      _ ≤ d.coefficient * 10 ^ d.exponent.toNat :=
        Nat.le_mul_of_pos_left _ (Nat.pos_of_ne_zero hzero)
  · obtain ⟨hnum, hden⟩ := num_eq_of_neg (by omega : d.exponent < 0)
    refine (Double.ofQuotient_eq_zero d.den_pos ?_).symm
    -- The coefficient has fewer bits than the power of ten by many.
    have hdepth : BinaryFormat.double.depth = 1074 := rfl
    have hbits : d.coefficient.log2 + 1 + (BinaryFormat.double.depth + 1)
        ≤ 3 * d.exponent.natAbs := by omega
    rw [hnum, hden]
    refine Nat.le_trans (Nat.le_of_eq ?_) (mul_two_pow_le_ten_pow hbits)
    rw [BinaryFormat.one_eq, Nat.pow_succ']
  · rfl

/-- A decimal is read as the double to which it rounds. -/
theorem toDouble_eq_finite_iff {negative : Bool} {d : Decimal} {m : Magnitude} :
    d.toDouble negative = .finite negative m ↔ BinaryFormat.double.RoundsTo d.value m.rank := by
  rw [toDouble_eq, Double.ofQuotient_eq_finite_iff d.den_pos, num_div_den]

/-- Decimals of one value are read alike. -/
theorem toDouble_congr {d d' : Decimal} (h : d.value = d'.value) (negative : Bool) :
    d.toDouble negative = d'.toDouble negative := by
  have hquotient : (d.num : ℚ) / d.den = d'.num / d'.den := by
    rw [num_div_den, num_div_den, h]
  rw [toDouble_eq, toDouble_eq, Double.ofQuotient_congr negative d.den_pos d'.den_pos hquotient]

end Decimal

end SymbolStyle

import SymbolStyle.Proofs.Number.Grid

/-! # What the shortest decimal is

    The decimal that stands for a double in text, described without the search
    for it. Of the decimals that are read as the double, it has the fewest
    digits. Of those, it is the nearest to the double, and the even one if two
    are equally near.

    * `Decimal.IsShortest`: the description.
    * `Decimal.IsShortest.value_unique`: it leaves no choice.
    * `Magnitude.isShortest_shortest`: what is found on the coarsest grid is it.

    The last of these is not obvious. A finer grid has decimals with as many
    digits, among them `8e-324` and `9e-324` beside `1e-323`. Such a decimal is
    read as the same double only if a power of ten is, and nine tenths of it.
    This needs an interval that is a tenth of the double in width, which the
    first few doubles have and no others.
-/

namespace SymbolStyle

/-! ## Digits -/

namespace Decimal

variable {d d' : Decimal} {n : Int}

theorem digitCount_pos (d : Decimal) : 0 < d.digitCount := Nat.length_toDigits_pos

theorem coefficient_lt (d : Decimal) : d.coefficient < 10 ^ d.digitCount :=
  (Nat.length_toDigits_le_iff (by decide) d.digitCount_pos).1 le_rfl

theorem le_coefficient (h : 0 < d.coefficient) : 10 ^ (d.digitCount - 1) ≤ d.coefficient := by
  have hpos := d.digitCount_pos
  rcases Nat.eq_or_lt_of_le hpos with hone | hmany
  · rw [← hone]
    exact h
  · by_contra hlt
    have hle : d.digitCount ≤ d.digitCount - 1 :=
      (Nat.length_toDigits_le_iff (by decide) (by omega)).2 (Nat.not_le.1 hlt)
    omega

theorem digitCount_le_of_coefficient_le (h : d.coefficient ≤ d'.coefficient) :
    d.digitCount ≤ d'.digitCount :=
  (Nat.length_toDigits_le_iff (by decide) d'.digitCount_pos).2 (h.trans_lt d'.coefficient_lt)

theorem digitCount_of_lt_ten (h : d.coefficient < 10) : d.digitCount = 1 :=
  Nat.le_antisymm ((Nat.length_toDigits_le_iff (by decide) Nat.one_pos).2 h) d.digitCount_pos

/-- A decimal is below the powers of ten with more digits. -/
theorem value_lt_zpow (h : d.digitCount + d.exponent ≤ n) : d.value < (10 : ℚ) ^ n := by
  have hlt : d.value < (10 : ℚ) ^ (d.digitCount + d.exponent) := by
    rw [zpow_add₀ (by norm_num), zpow_natCast, value, mul_lt_mul_iff_left₀ (by positivity)]
    exact_mod_cast d.coefficient_lt
  exact hlt.trans_le (zpow_le_zpow_right₀ (by norm_num) h)

/-- A positive decimal is not below the others. -/
theorem zpow_le_value (hpos : 0 < d.coefficient) (h : n < d.digitCount + d.exponent) :
    (10 : ℚ) ^ n ≤ d.value := by
  have hle : (10 : ℚ) ^ ((d.digitCount - 1 : Nat) + d.exponent) ≤ d.value := by
    rw [zpow_add₀ (by norm_num), zpow_natCast, value, mul_le_mul_iff_left₀ (by positivity)]
    exact_mod_cast le_coefficient hpos
  exact (zpow_le_zpow_right₀ (by norm_num) (by omega)).trans hle

/-- A power of ten as a decimal. -/
theorem value_power (n : Int) : (⟨1, n⟩ : Decimal).value = (10 : ℚ) ^ n := by
  rw [value_mk, Nat.cast_one, one_mul]

/-- The decimal with one digit before a power of ten. -/
theorem value_nine (n : Int) : (⟨9, n - 1⟩ : Decimal).value = 9 / 10 * (10 : ℚ) ^ n := by
  rw [value_mk, zpow_sub_one₀ (by norm_num)]
  push_cast
  ring

theorem digitCount_power (n : Int) : (⟨1, n⟩ : Decimal).digitCount = 1 :=
  digitCount_of_lt_ten (by decide : 1 < 10)

end Decimal

/-! ## Intervals of a tenth -/

namespace BinaryFormat

variable {f : BinaryFormat} {rank : Nat}

/-- From the tenth number on, the interval of a number is narrower than a tenth of
    its upper end. -/
theorem nine_mul_highMidpoint_lt (hf : 10 ≤ f.binade) (hrank : 10 ≤ rank) :
    9 * f.highMidpoint rank < 10 * f.lowMidpoint rank := by
  obtain ⟨scale, significand, rfl, hlow, hhigh⟩ := f.exists_eq_add rank
  have hlarge : 10 ≤ significand := by
    rcases hlow with rfl | hlow
    · simpa using hrank
    · omega
  -- In steps of the binade, the midpoints are half a step from the significand at most.
  have hmid := le_lowMidpoint_add hlow hhigh.le
  have hscaled := Nat.mul_lt_mul_of_pos_right (by omega : 19 < 2 * significand)
    (Nat.two_pow_pos scale)
  rw [highMidpoint_eq hlow hhigh]
  rw [Nat.mul_assoc] at hscaled
  omega

end BinaryFormat

namespace Magnitude

open Decimal

variable {m : Magnitude} {d d' : Decimal}

theorem two_mul_one_mul_value (m : Magnitude) :
    2 * (BinaryFormat.double.one : ℚ) * m.value = 2 * BinaryFormat.double.units m.rank := by
  rw [value, mul_assoc, mul_div_cancel₀ _ BinaryFormat.double.cast_one_pos.ne']
  rfl

/-- The lowest doubles, doubled, are one unit from their midpoints. -/
theorem midpoints_of_rank_lt_ten (hm : m.rank ≠ 0) (hrank : m.rank < 10) :
    BinaryFormat.double.lowMidpoint m.rank + 1 = 2 * m.rank ∧
      BinaryFormat.double.highMidpoint m.rank = 2 * m.rank + 1 := by
  have hbinade : 10 < BinaryFormat.double.binade := by decide
  have hunits : ∀ rank ≤ 10, BinaryFormat.double.units rank = rank := fun rank hle =>
    BinaryFormat.units_of_lt_binade (by omega)
  rw [BinaryFormat.lowMidpoint, BinaryFormat.highMidpoint, hunits _ (by omega), hunits _ (by omega),
    hunits _ (by omega)]
  omega

/-- A power of ten and nine tenths of it are both read as the magnitude only if it is
    one of the lowest. -/
theorem rank_lt_ten {e : Int} (hnine : (⟨9, e - 1⟩ : Decimal).RoundsTo m)
    (hpower : (⟨1, e⟩ : Decimal).RoundsTo m) : m.rank < 10 := by
  by_contra hge
  have hnarrow := BinaryFormat.nine_mul_highMidpoint_lt
    (by decide : 10 ≤ BinaryFormat.double.binade) (Nat.not_lt.1 hge)
  have hnarrow' : (9 * BinaryFormat.double.highMidpoint m.rank : ℚ)
      < 10 * BinaryFormat.double.lowMidpoint m.rank := by exact_mod_cast hnarrow
  have hlow := hnine.low_le
  have hhigh := hpower.le_high
  rw [value_nine] at hlow
  rw [value_power] at hhigh
  linarith

/-- The unit of the midpoints is a little less than a quarter of a power of ten. -/
theorem exists_two_mul_one_bounds : ∃ n : Nat, (4 : ℚ) * 10 ^ n < 2 * BinaryFormat.double.one ∧
    10 * (2 * BinaryFormat.double.one) < (41 : ℚ) * 10 ^ n := by
  obtain ⟨n, hmore, hless⟩ : ∃ n : Nat, 4 * 10 ^ n < 2 * BinaryFormat.double.one ∧
      10 * (2 * BinaryFormat.double.one) < 41 * 10 ^ n := ⟨323, by decide +kernel⟩
  generalize BinaryFormat.double.one = one at *
  exact ⟨n, by exact_mod_cast hmore, by exact_mod_cast hless⟩

/-- A number a little above four powers of ten is a little above four if a power of
    ten scales it into this range. -/
theorem mul_ten_zpow_bounds {t : ℚ} {n : Nat} {e : Int} (hmore : 4 * 10 ^ n < t)
    (hless : 10 * t < 41 * 10 ^ n) (hlow : 1 ≤ t * (9 / 10 * 10 ^ e)) (hhigh : t * 10 ^ e ≤ 19) :
    4 < t * 10 ^ e ∧ 10 * (t * 10 ^ e) < 41 := by
  have hpos : (0 : ℚ) < 10 ^ n := by positivity
  -- The two powers of ten have to cancel out: with one more on either side, the product
  -- would be beyond 19 or below 1.
  have hshift : (10 : ℚ) ^ e = 10 ^ (e + n) / 10 ^ n := by
    rw [zpow_add₀ (by norm_num), zpow_natCast, mul_div_cancel_right₀ _ hpos.ne']
  have hscaled : t * 10 ^ e = t / 10 ^ n * 10 ^ (e + n) := by rw [hshift]; ring
  have hmore' : 4 < t / 10 ^ n := (lt_div_iff₀ hpos).2 hmore
  have hless' : t / 10 ^ n < 41 / 10 := (div_lt_iff₀ hpos).2 (by linarith)
  rcases lt_trichotomy (e + n) 0 with hneg | hzero | hbig
  · have hsmall : (10 : ℚ) ^ (e + n) ≤ 10 ^ (-1 : Int) :=
      zpow_le_zpow_right₀ (by norm_num) (by omega)
    have hle : t / 10 ^ n * 10 ^ (e + n) ≤ 41 / 10 * 10 ^ (-1 : Int) :=
      mul_le_mul hless'.le hsmall (by positivity) (by norm_num)
    norm_num at hle
    linarith
  · rw [hscaled, hzero, zpow_zero, mul_one]
    exact ⟨hmore', by linarith⟩
  · have hlarge : (10 : ℚ) ^ (1 : Int) ≤ 10 ^ (e + n) :=
      zpow_le_zpow_right₀ (by norm_num) (by omega)
    have hle : 4 * (10 : ℚ) ^ (1 : Int) ≤ t / 10 ^ n * 10 ^ (e + n) :=
      mul_le_mul hmore'.le hlarge (by positivity) (by linarith)
    norm_num at hle
    linarith

/-- A power of ten and nine tenths of it are both read as the magnitude only if it is
    the second one, and there the power of ten is nearer. -/
theorem abs_sub_power_lt {e : Int} (hm : m.rank ≠ 0) (hnine : (⟨9, e - 1⟩ : Decimal).RoundsTo m)
    (hpower : (⟨1, e⟩ : Decimal).RoundsTo m) :
    |(⟨1, e⟩ : Decimal).value - m.value| < m.value - (⟨9, e - 1⟩ : Decimal).value := by
  have hrank := rank_lt_ten hnine hpower
  obtain ⟨hmid, hmid'⟩ := midpoints_of_rank_lt_ten hm hrank
  have hunits : BinaryFormat.double.units m.rank = m.rank :=
    BinaryFormat.units_of_lt_binade (hrank.trans (by decide))
  obtain ⟨n, hmore, hless⟩ := exists_two_mul_one_bounds
  have hpos := mul_pos two_pos BinaryFormat.double.cast_one_pos
  have hvalue := m.two_mul_one_mul_value
  have hlow := hnine.low_le
  have hhigh := hpower.le_high
  rw [hunits] at hvalue
  rw [value_nine] at hlow ⊢
  rw [value_power] at hhigh ⊢
  rw [hmid'] at hhigh
  generalize (2 : ℚ) * BinaryFormat.double.one = unit at *
  generalize BinaryFormat.double.lowMidpoint m.rank = low at *
  generalize m.rank = rank at *
  push_cast at hhigh
  have hlow' : (low : ℚ) + 1 = 2 * rank := by exact_mod_cast hmid
  have hleast : (1 : ℚ) ≤ rank := by exact_mod_cast Nat.pos_of_ne_zero hm
  have hmost : (rank : ℚ) ≤ 9 := by exact_mod_cast Nat.le_of_lt_succ hrank
  obtain ⟨hfour, hfour'⟩ := mul_ten_zpow_bounds (e := e) hmore hless (by linarith) (by linarith)
  -- Doubled, the magnitude is one unit from a number between 4 and 4.1.
  have hmore' : (1 : ℚ) < rank := by linarith
  have hless' : (rank : ℚ) < 3 := by linarith
  obtain rfl : rank = 2 := Nat.le_antisymm (Nat.le_of_lt_succ (by exact_mod_cast hless'))
    (by exact_mod_cast hmore')
  rw [Nat.cast_ofNat] at hvalue
  rw [abs_lt]
  constructor
  · apply lt_of_mul_lt_mul_left _ hpos.le
    linarith
  · apply lt_of_mul_lt_mul_left _ hpos.le
    linarith

/-! ## The coarsest grid -/

namespace IsOnCoarsestGrid

/-- No digit is superfluous. -/
theorem coefficient_mod_ten_ne_zero (h : m.IsOnCoarsestGrid d) : d.coefficient % 10 ≠ 0 := by
  intro hzero
  obtain ⟨k, hk⟩ : ∃ k, d.coefficient = 10 * k := Nat.dvd_of_mod_eq_zero hzero
  have hvalue : (⟨k, d.exponent + 1⟩ : Decimal).value = d.value := by
    rw [value_mk, Decimal.value, hk, zpow_add_one₀ (by norm_num)]
    push_cast
    ring
  have hle : d.exponent + 1 ≤ d.exponent :=
    h.coarsest _ (h.roundsTo.between h.roundsTo hvalue.ge hvalue.le)
  omega

/-- A power of ten that is read as the magnitude is on the coarsest grid at most. -/
theorem exponent_le (h : m.IsOnCoarsestGrid d) (hd' : d'.RoundsTo m) {n : Int}
    (hle : d'.value ≤ (10 : ℚ) ^ n) (hle' : (10 : ℚ) ^ n ≤ d.value) : n ≤ d.exponent := by
  rw [← value_power] at hle hle'
  exact h.coarsest _ (hd'.between h.roundsTo hle hle')

/-- With fewer digits, nothing is read as the magnitude. The least number with as
    many digits would be between the two, and it needs only one digit. -/
theorem digitCount_le (h : m.IsOnCoarsestGrid d) (hm : m.rank ≠ 0) (hd' : d'.RoundsTo m) :
    d.digitCount ≤ d'.digitCount := by
  by_contra hlt
  have hexponent := h.coarsest d' hd'
  have hbelow : d'.value < (10 : ℚ) ^ (d.digitCount + d.exponent - 1) := value_lt_zpow (by omega)
  have habove := zpow_le_value (n := d.digitCount + d.exponent - 1)
    (h.roundsTo.coefficient_pos hm) (by omega)
  have hpower := h.exponent_le hd' hbelow.le habove
  have hpos := d'.digitCount_pos
  omega

/-- On a finer grid, as many digits are read as the magnitude only if it is near a
    power of ten and there is a single digit. -/
theorem roundsTo_power (h : m.IsOnCoarsestGrid d) (hm : m.rank ≠ 0) (hd' : d'.RoundsTo m)
    (hcount : d'.digitCount = d.digitCount) (hexponent : d'.exponent < d.exponent) :
    (⟨1, d.exponent⟩ : Decimal).RoundsTo m ∧ (⟨9, d.exponent - 1⟩ : Decimal).RoundsTo m ∧
      d'.value ≤ (⟨9, d.exponent - 1⟩ : Decimal).value := by
  have hpositive := h.roundsTo.coefficient_pos hm
  have hpos := d.digitCount_pos
  have hbelow : d'.value < (10 : ℚ) ^ (d.digitCount + d.exponent - 1) := value_lt_zpow (by omega)
  have habove := zpow_le_value (n := d.digitCount + d.exponent - 1) hpositive (by omega)
  -- The least number with as many digits is between the two, so it is not on a coarser
  -- grid, and there is one digit only.
  have hle := h.exponent_le hd' hbelow.le habove
  have hsingle : d.digitCount = 1 := by omega
  have hpower : (⟨1, d.exponent⟩ : Decimal).RoundsTo m := by
    refine hd'.between h.roundsTo ?_ ?_ <;> rw [value_power]
    · exact (value_lt_zpow (by omega)).le
    · exact zpow_le_value hpositive (by omega)
  have hnine : d'.value ≤ (⟨9, d.exponent - 1⟩ : Decimal).value := by
    have hdigit : d'.coefficient ≤ 9 := by
      have hlt := d'.coefficient_lt
      rw [hcount, hsingle] at hlt
      omega
    rw [Decimal.value, value_mk]
    apply mul_le_mul (by exact_mod_cast hdigit) _ (by positivity) (by norm_num)
    exact zpow_le_zpow_right₀ (by norm_num) (by omega)
  refine ⟨hpower, hd'.between hpower hnine ?_, hnine⟩
  have hten : (0 : ℚ) < 10 ^ d.exponent := by positivity
  rw [value_nine, value_power]
  linarith

/-- What is read as the magnitude on a finer grid and has as many digits is farther
    from it. -/
theorem abs_sub_lt (h : m.IsOnCoarsestGrid d) (hm : m.rank ≠ 0) (hd' : d'.RoundsTo m)
    (hcount : d'.digitCount = d.digitCount) (hexponent : d'.exponent < d.exponent) :
    |d.value - m.value| < |d'.value - m.value| := by
  obtain ⟨hpower, hnine, hle⟩ := h.roundsTo_power hm hd' hcount hexponent
  calc |d.value - m.value| ≤ |(⟨1, d.exponent⟩ : Decimal).value - m.value| := h.nearest 1 hpower
    _ < m.value - (⟨9, d.exponent - 1⟩ : Decimal).value := abs_sub_power_lt hm hnine hpower
    _ ≤ m.value - d'.value := by linarith
    _ ≤ |d'.value - m.value| := by rw [abs_sub_comm]; exact le_abs_self _

end IsOnCoarsestGrid

end Magnitude

/-! ## The shortest decimal -/

namespace Decimal

/-- The decimal is the one that stands for the magnitude in text. -/
structure IsShortest (d : Decimal) (m : Magnitude) : Prop where
  /-- It is read as the magnitude. -/
  roundsTo : d.RoundsTo m
  /-- With fewer digits, nothing is. -/
  fewest : ∀ d' : Decimal, d'.RoundsTo m → d.digitCount ≤ d'.digitCount
  /-- With as many digits, nothing nearer is. -/
  nearest : ∀ d' : Decimal, d'.RoundsTo m → d'.digitCount = d.digitCount →
    |d.value - m.value| ≤ |d'.value - m.value|
  /-- If something as near is, this one is even. -/
  even_of_tie : ∀ d' : Decimal, d'.RoundsTo m → d'.digitCount = d.digitCount →
    |d.value - m.value| = |d'.value - m.value| → d'.value = d.value ∨ d.coefficient % 2 = 0

namespace IsShortest

variable {d d' : Decimal} {m : Magnitude}

theorem digitCount_eq (h : d.IsShortest m) (h' : d'.IsShortest m) : d.digitCount = d'.digitCount :=
  Nat.le_antisymm (h.fewest d' h'.roundsTo) (h'.fewest d h.roundsTo)

theorem abs_sub_eq (h : d.IsShortest m) (h' : d'.IsShortest m) :
    |d.value - m.value| = |d'.value - m.value| :=
  le_antisymm (h.nearest d' h'.roundsTo (h'.digitCount_eq h))
    (h'.nearest d h.roundsTo (h.digitCount_eq h'))

/-- Different candidates are equally near, so they are even. -/
theorem even_of_ne (h : d.IsShortest m) (h' : d'.IsShortest m) (hne : d'.value ≠ d.value) :
    d.coefficient % 2 = 0 :=
  (h.even_of_tie d' h'.roundsTo (h'.digitCount_eq h) (h.abs_sub_eq h')).resolve_left hne

/-- Nothing with as many digits is between two candidates, since it would be nearer
    to the magnitude, which is in the middle. -/
theorem not_between (h : d.IsShortest m) (h' : d'.IsShortest m) {p : Decimal}
    (hcount : p.digitCount ≤ d.digitCount) (hlt : d.value < p.value) : d'.value ≤ p.value := by
  by_contra hlt'
  rw [not_le] at hlt'
  have hround : p.RoundsTo m := h.roundsTo.between h'.roundsTo hlt.le hlt'.le
  have hle := h.nearest p hround (Nat.le_antisymm hcount (h.fewest p hround))
  have hmiddle : d.value - m.value = -(d'.value - m.value) := by
    rcases abs_eq_abs.1 (h.abs_sub_eq h') with heq | heq
    · linarith
    · exact heq
  have hnear : |p.value - m.value| < |d.value - m.value| := by
    rw [abs_of_neg (by linarith : d.value - m.value < 0), abs_lt]
    constructor <;> linarith
  exact absurd hnear (not_lt.2 hle)

/-- The smaller of two candidates is not on the finer grid: the larger one would have
    to be the power of ten between the two, which is odd. -/
theorem not_value_lt_of_exponent_lt (h : d.IsShortest m) (h' : d'.IsShortest m)
    (hpos : 0 < d'.coefficient) (hexponent : d.exponent < d'.exponent) : ¬ d.value < d'.value := by
  intro hlt
  have hcount := h.digitCount_eq h'
  have heven := h'.even_of_ne h hlt.ne
  have habove : d.value < (⟨1, d'.digitCount + d'.exponent - 1⟩ : Decimal).value := by
    rw [value_power]
    exact value_lt_zpow (by omega)
  have hbelow : (⟨1, d'.digitCount + d'.exponent - 1⟩ : Decimal).value ≤ d'.value := by
    rw [value_power]
    exact zpow_le_value hpos (by omega)
  have hequal : (⟨1, d'.digitCount + d'.exponent - 1⟩ : Decimal).value = d'.value :=
    hbelow.antisymm (h.not_between h' ((digitCount_power _).trans_le d.digitCount_pos) habove)
  have hshort := h'.fewest _ (h'.roundsTo.between h'.roundsTo hequal.ge hequal.le)
  rw [digitCount_power] at hshort
  have hleast := d'.digitCount_pos
  have hzero : (d'.digitCount : Int) + d'.exponent - 1 = d'.exponent := by omega
  rw [hzero] at hequal
  have hone : d'.coefficient = 1 :=
    Nat.le_antisymm (value_le_value_iff.1 hequal.ge) (value_le_value_iff.1 hequal.le)
  omega

/-- Nor is it on the same grid, where an odd coefficient is between two even ones. -/
theorem not_value_lt_of_exponent_eq (h : d.IsShortest m) (h' : d'.IsShortest m)
    (hexponent : d.exponent = d'.exponent) : ¬ d.value < d'.value := by
  intro hlt
  have hcount := h.digitCount_eq h'
  have heven := h.even_of_ne h' hlt.ne'
  have heven' := h'.even_of_ne h hlt.ne
  obtain ⟨k, e⟩ := d
  obtain ⟨k', e'⟩ := d'
  obtain rfl : e = e' := hexponent
  dsimp only at heven heven'
  have hstep : k < k' := value_lt_value_iff.1 hlt
  have hfew : (⟨k + 1, e⟩ : Decimal).digitCount ≤ (⟨k', e⟩ : Decimal).digitCount :=
    digitCount_le_of_coefficient_le hstep
  have hnext : k' ≤ k + 1 := value_le_value_iff.1
    (h.not_between h' (hfew.trans hcount.ge) (value_lt_value_iff.2 k.lt_succ_self))
  omega

/-- Nor is it on the coarser grid, where it would have to be zero. -/
theorem not_value_lt_of_lt_exponent (h : d.IsShortest m) (h' : d'.IsShortest m)
    (hexponent : d'.exponent < d.exponent) : ¬ d.value < d'.value := by
  intro hlt
  have hcount := h.digitCount_eq h'
  have heven := h'.even_of_ne h hlt.ne
  rcases Nat.eq_zero_or_pos d.coefficient with hzero | hpos
  · have hvalue : d.value = (⟨0, d'.exponent⟩ : Decimal).value := by
      rw [value_zero, value, hzero, Nat.cast_zero, zero_mul]
    rw [hvalue] at hlt
    have hstep : 0 < d'.coefficient := value_lt_value_iff.1 hlt
    have hfew := (digitCount_power d'.exponent).trans_le d.digitCount_pos
    have hnext : d'.coefficient ≤ 1 := value_le_value_iff.1
      (h.not_between h' hfew (hvalue ▸ value_lt_value_iff.2 Nat.one_pos))
    omega
  · have habove : d'.value < (10 : ℚ) ^ (d.digitCount + d.exponent - 1) :=
      value_lt_zpow (by omega)
    exact absurd (habove.trans_le (zpow_le_value hpos (by omega))) hlt.asymm

theorem not_value_lt (h : d.IsShortest m) (h' : d'.IsShortest m) : ¬ d.value < d'.value := by
  intro hlt
  -- What is larger than a decimal is not zero.
  have hpos : 0 < d'.coefficient := by
    apply Nat.pos_of_ne_zero
    intro hzero
    have hzero' : d'.value = 0 := by rw [value, hzero, Nat.cast_zero, zero_mul]
    exact absurd (hzero' ▸ hlt) (not_lt.2 d.value_nonneg)
  rcases lt_trichotomy d.exponent d'.exponent with hfine | hsame | hcoarse
  · exact h.not_value_lt_of_exponent_lt h' hpos hfine hlt
  · exact h.not_value_lt_of_exponent_eq h' hsame hlt
  · exact h.not_value_lt_of_lt_exponent h' hcoarse hlt

/-- The description leaves no choice. -/
theorem value_unique (h : d.IsShortest m) (h' : d'.IsShortest m) : d.value = d'.value :=
  le_antisymm (not_lt.1 (h'.not_value_lt h)) (not_lt.1 (h.not_value_lt h'))

end IsShortest

end Decimal

namespace Magnitude

variable {m : Magnitude} {d : Decimal}

/-- On the coarsest grid there are the fewest digits. -/
theorem IsOnCoarsestGrid.isShortest (h : m.IsOnCoarsestGrid d) (hm : m.rank ≠ 0) :
    d.IsShortest m := by
  refine ⟨h.roundsTo, fun d' => h.digitCount_le hm, fun d' hd' hcount => ?_,
    fun d' hd' hcount htie => ?_⟩
  · -- On a finer grid it is farther, and on the same one this is the nearest.
    rcases (h.coarsest d' hd').lt_or_eq with hfine | hsame
    · exact (h.abs_sub_lt hm hd' hcount hfine).le
    · obtain ⟨k, e⟩ := d'
      subst hsame
      exact h.nearest k hd'
  · rcases (h.coarsest d' hd').lt_or_eq with hfine | hsame
    · exact absurd htie (h.abs_sub_lt hm hd' hcount hfine).ne
    · obtain ⟨k, e⟩ := d'
      subst hsame
      refine (h.even_of_tie k hd' htie).imp_left fun hk => ?_
      rw [hk]

/-- Zero is written as such. -/
theorem shortest_of_rank_eq_zero (hm : m.rank = 0) : m.shortest = ⟨0, 0⟩ := by
  rw [shortest, if_pos hm]

/-- What is found is the shortest decimal. -/
theorem isShortest_shortest (m : Magnitude) : m.shortest.IsShortest m := by
  by_cases hm : m.rank = 0
  · have hvalue : (⟨0, 0⟩ : Decimal).value = m.value := by
      rw [Decimal.value_zero, value, units, hm, show BinaryFormat.double.units 0 = 0 from rfl,
        Nat.cast_zero, zero_div]
    rw [shortest_of_rank_eq_zero hm]
    refine ⟨Decimal.roundsTo_of_value_eq hvalue, fun d' _ => ?_, fun d' _ _ => ?_,
      fun _ _ _ _ => .inr rfl⟩
    · rw [Decimal.digitCount_of_lt_ten (by decide : 0 < 10)]
      exact d'.digitCount_pos
    · rw [hvalue, sub_self, abs_zero]
      exact abs_nonneg _
  · exact (isOnCoarsestGrid_shortest hm).isShortest hm

-- The double that is read from `8e-324`, `9e-324` and `1e-323`.
example : (⟨2, by decide⟩ : Magnitude).shortest = ⟨1, -323⟩ := by decide +kernel

/-- No digit of the shortest decimal is superfluous. -/
theorem shortest_eq_or (m : Magnitude) :
    m.shortest = ⟨0, 0⟩ ∨ m.shortest.coefficient % 10 ≠ 0 := by
  by_cases hm : m.rank = 0
  · exact .inl (shortest_of_rank_eq_zero hm)
  · exact .inr (isOnCoarsestGrid_shortest hm).coefficient_mod_ten_ne_zero

/-- A magnitude is what its shortest decimal is read as. -/
theorem toDouble_shortest (negative : Bool) (m : Magnitude) :
    m.shortest.toDouble negative = .finite negative m :=
  Decimal.toDouble_eq_finite_iff.2 m.isShortest_shortest.roundsTo

end Magnitude

end SymbolStyle

import SymbolStyle.Proofs.Number.Shortest

/-! # Bounds of doubles

    Rounding keeps quotients within bounds that are doubles themselves, and so
    does writing a double as its shortest decimal.

    * `Double.exists_ofQuotient_le`: what is at most a double rounds to at most
      that double.
    * `Double.isFinite_ofQuotient_iff`: which quotients are beyond the finite
      doubles. The first of them is the midpoint between the largest double and
      the next power of two.
    * `Magnitude.value_shortest_le_one`: the shortest decimal of a double up to
      one is not above one either, although it may be above the double.
-/

namespace SymbolStyle

/-! ## Magnitudes in order -/

namespace Magnitude

variable {m m' : Magnitude}

/-- Magnitudes stand in the order of their ranks. -/
theorem value_le_value_iff : m.value ≤ m'.value ↔ m.rank ≤ m'.rank := by
  rw [value, value, div_le_div_iff_of_pos_right BinaryFormat.double.cast_one_pos, Nat.cast_le]
  exact BinaryFormat.double.units_strictMono.le_iff_le

/-- A bound on a magnitude is one on its units. -/
theorem value_le_natCast_iff {n : Nat} :
    m.value ≤ n ↔ m.units ≤ n * BinaryFormat.double.one := by
  rw [value, div_le_iff₀ BinaryFormat.double.cast_one_pos]
  exact_mod_cast Iff.rfl

theorem value_zero : zero.value = 0 := by
  rw [value, units, show BinaryFormat.double.units zero.rank = 0 from rfl, Nat.cast_zero, zero_div]

theorem value_eq_zero_iff : m.value = 0 ↔ m.rank = 0 := by
  have hle : m.value ≤ zero.value ↔ m.rank ≤ 0 := value_le_value_iff
  have hge : zero.value ≤ m.value := value_le_value_iff.2 (Nat.zero_le _)
  rw [value_zero] at hle hge
  rw [← Nat.le_zero, ← hle, le_antisymm_iff, and_iff_left hge]

theorem value_one : one.value = 1 := by
  rw [value, units_one, div_self BinaryFormat.double.cast_one_pos.ne']

theorem rank_min_le (a b : Magnitude) : (a.min b).rank ≤ b.rank := by
  unfold min
  split
  · exact le_rfl
  · next h => exact Nat.le_of_not_lt h

end Magnitude

/-! ## Rounding within bounds -/

/-- Midpoints stand in the order of the numbers. -/
theorem BinaryFormat.highMidpoint_strictMono (f : BinaryFormat) : StrictMono f.highMidpoint := by
  intro rank rank' hlt
  exact Nat.add_lt_add (f.units_strictMono hlt) (f.units_strictMono (Nat.succ_lt_succ hlt))

namespace Double

variable {negative : Bool} {num den : Nat}

/-- What is at most a magnitude rounds to at most that. -/
theorem exists_ofQuotient_le {m : Magnitude} (hden : 0 < den)
    (hle : num * BinaryFormat.double.one ≤ m.units * den) :
    ∃ m', ofQuotient negative num den = .finite negative m' ∧ m'.value ≤ m.value := by
  have hrank : BinaryFormat.double.nearest num den ≤ m.rank := by
    rw [← BinaryFormat.nearest_units precision_pos m.rank]
    exact BinaryFormat.nearest_le_nearest precision_pos hden BinaryFormat.double.one_pos hle
  refine ⟨⟨_, Nat.lt_of_le_of_lt hrank m.rank_lt⟩, ?_, Magnitude.value_le_value_iff.2 hrank⟩
  rw [ofQuotient, ofRank_eq_finite_iff]
  exact ⟨rfl, rfl⟩

/-- A proper fraction rounds to at most one. -/
theorem exists_ofQuotient_le_one (hden : 0 < den) (hle : num ≤ den) :
    ∃ m, ofQuotient negative num den = .finite negative m ∧ m.value ≤ 1 := by
  rw [← Magnitude.value_one]
  apply exists_ofQuotient_le hden
  rw [Magnitude.units_one, Nat.mul_comm]
  exact Nat.mul_le_mul_left _ hle

/-- So it does when it is rounded to single precision first. -/
theorem exists_singleOfQuotient_le_one (hden : 0 < den) (hle : num ≤ den) :
    ∃ m, singleOfQuotient negative num den = .finite negative m ∧ m.value ≤ 1 := by
  have hone : BinaryFormat.single.units (BinaryFormat.single.nearest 1 1)
      = BinaryFormat.single.one := by decide +kernel
  have hlarge : BinaryFormat.single.nearest 1 1 < BinaryFormat.single.infinityRank := by
    decide +kernel
  have hrank : BinaryFormat.single.nearest num den ≤ BinaryFormat.single.nearest 1 1 :=
    BinaryFormat.nearest_le_nearest (by decide) hden Nat.one_pos (by omega)
  have hunits := BinaryFormat.single.units_strictMono.monotone hrank
  rw [singleOfQuotient, if_pos (Nat.lt_of_le_of_lt hrank hlarge)]
  exact exists_ofQuotient_le_one BinaryFormat.single.one_pos (hone ▸ hunits)

/-- Clamping leaves nothing above the bound. -/
theorem value_clamp_le (upper : Magnitude) (x : Double) : (clamp upper x).value ≤ upper.value := by
  rw [Magnitude.value_le_value_iff]
  cases x with
  | nan => exact le_rfl
  | infinite negative =>
    cases negative with
    | true => exact Nat.zero_le _
    | false => exact le_rfl
  | finite negative m =>
    cases negative with
    | true => exact Nat.zero_le _
    | false => exact Magnitude.rank_min_le m upper

/-- The least number that has no finite double, the midpoint behind the largest
    double. -/
def overflowBound : Nat := 2 ^ 1024 - 2 ^ 970

/-- A quotient has a finite double exactly if it is below the bound. -/
theorem isFinite_ofQuotient_iff (hden : 0 < den) :
    (ofQuotient negative num den).isFinite ↔ num < den * overflowBound := by
  obtain ⟨largest, hlargest⟩ : ∃ largest, largest = BinaryFormat.double.infinityRank - 1 :=
    ⟨_, rfl⟩
  have hbound : BinaryFormat.double.highMidpoint largest
      = 2 * BinaryFormat.double.one * overflowBound := by
    rw [hlargest]
    decide +kernel
  have hodd : largest % 2 ≠ 0 := by
    rw [hlargest]
    decide
  have hinfinity : BinaryFormat.double.infinityRank = largest + 1 := by
    rw [hlargest]
    decide
  have hone := BinaryFormat.double.one_pos
  obtain ⟨hlow, hhigh, -, hevenHigh⟩ := BinaryFormat.midpoints_nearest two_le_precision num hden
  rw [ofQuotient, isFinite_ofRank, hinfinity, Nat.lt_succ_iff]
  generalize BinaryFormat.double.nearest num den = rank at *
  generalize BinaryFormat.double.one = one at *
  have hscaled : num < den * overflowBound ↔
      2 * (num * one) < BinaryFormat.double.highMidpoint largest * den := by
    rw [hbound, show 2 * (num * one) = num * (2 * one) by ring,
      show 2 * one * overflowBound * den = den * overflowBound * (2 * one) by ring]
    exact (Nat.mul_lt_mul_right (by omega)).symm
  rw [hscaled]
  constructor
  · intro hle
    -- On the midpoint behind it, the largest rank is not even.
    rcases hle.lt_or_eq with hlt | rfl
    · exact hhigh.trans_lt
        (Nat.mul_lt_mul_of_pos_right (BinaryFormat.double.highMidpoint_strictMono hlt) hden)
    · exact hhigh.lt_of_ne fun heq => hodd (hevenHigh heq)
  · intro hlt
    by_contra hgt
    obtain ⟨before, rfl⟩ : ∃ before, rank = before + 1 := ⟨rank - 1, by omega⟩
    have hmono := BinaryFormat.double.highMidpoint_strictMono.monotone (by omega : largest ≤ before)
    exact absurd (hlow.trans_lt hlt)
      (Nat.not_lt_of_le (Nat.mul_le_mul_right den hmono))

end Double

/-! ## Shortest decimals within bounds -/

/-- What is read as a smaller magnitude is not above a magnitude. -/
theorem Decimal.RoundsTo.value_le {d : Decimal} {m m' : Magnitude} (h : d.RoundsTo m)
    (hlt : m.rank < m'.rank) : d.value ≤ m'.value := by
  -- The midpoint after the smaller one is not above the larger one.
  have hone := BinaryFormat.double.cast_one_pos
  have hunits : BinaryFormat.double.units m.rank < m'.units :=
    BinaryFormat.double.units_strictMono hlt
  have hnext : BinaryFormat.double.units (m.rank + 1) ≤ m'.units :=
    BinaryFormat.double.units_strictMono.monotone hlt
  have hmid : BinaryFormat.double.highMidpoint m.rank ≤ 2 * m'.units := by
    unfold BinaryFormat.highMidpoint
    omega
  have hmid' : (BinaryFormat.double.highMidpoint m.rank : ℚ) ≤ 2 * m'.units := by
    exact_mod_cast hmid
  have hhigh := h.le_high.trans hmid'
  rw [Magnitude.value, le_div_iff₀ hone]
  linarith

/-- The shortest decimal of a magnitude up to one is at most one. -/
theorem Magnitude.value_shortest_le_one {m : Magnitude} (h : m.value ≤ 1) :
    m.shortest.value ≤ 1 := by
  rw [← value_one, value_le_value_iff] at h
  rcases h.lt_or_eq with hlt | heq
  · rw [← value_one]
    exact m.isShortest_shortest.roundsTo.value_le hlt
  · obtain rfl : m = one := by
      cases m
      simpa [one] using heq
    have hshortest : one.shortest = ⟨1, 0⟩ := by decide +kernel
    rw [hshortest, Decimal.value_power, zpow_zero]

end SymbolStyle

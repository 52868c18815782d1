import Mathlib.Algebra.Order.Group.Abs
import SymbolStyle.Proofs.Number.Nearest

/-! # The search for the shortest decimal

    The multiples of a power of ten are a grid, and the decimals with this
    exponent are its points. The search for the decimal of a double goes from
    coarse grids to fine ones.

    * `Magnitude.gridPoint?_cases`: what is found on one grid. At most the two
      points next to the double come into question.
    * `Magnitude.isOnCoarsestGrid_searchGrid`: the search passes over no grid
      with a point that is read as the double.
    * `Magnitude.isOnCoarsestGrid_shortest`: nor is there such a grid before its
      start. It ends on the coarsest one, at the point nearest to the double.
-/

namespace SymbolStyle

/-! ## Nearest whole numbers -/

namespace NearestQuotient

variable {num den n : Nat}

/-- No whole number is nearer. -/
theorem natAbs_le (h : NearestQuotient num den n) (k : Nat) :
    ((n * den : Nat) - num : Int).natAbs ≤ ((k * den : Nat) - num : Int).natAbs := by
  have hupper := h.upper
  have hlower := h.lower
  rcases Nat.lt_trichotomy k n with hk | rfl | hk
  · have hstep : (k + 1) * den ≤ n * den := Nat.mul_le_mul_right _ hk
    rw [Nat.add_mul] at hstep
    omega
  · exact le_rfl
  · have hstep : (n + 1) * den ≤ k * den := Nat.mul_le_mul_right _ hk
    rw [Nat.add_mul] at hstep
    omega

/-- If another one is as near, this one is even. -/
theorem even_of_natAbs_eq (h : NearestQuotient num den n) (hden : 0 < den) {k : Nat}
    (heq : ((n * den : Nat) - num : Int).natAbs = ((k * den : Nat) - num : Int).natAbs) :
    k = n ∨ n % 2 = 0 := by
  have hupper := h.upper
  have hlower := h.lower
  have hup := h.even_up
  have hdown := h.even_down
  rcases Nat.lt_trichotomy k n with hk | rfl | hk
  · have hstep : (k + 1) * den ≤ n * den := Nat.mul_le_mul_right _ hk
    rw [Nat.add_mul] at hstep
    exact .inr (hup (by omega))
  · exact .inl rfl
  · have hstep : (n + 1) * den ≤ k * den := Nat.mul_le_mul_right _ hk
    rw [Nat.add_mul] at hstep
    exact .inr (hdown (by omega))

end NearestQuotient

/-! ## The interval of a rank -/

namespace BinaryFormat

variable {f : BinaryFormat} {q : ℚ} {rank : Nat}

theorem roundsTo_iff_of_even (h : rank % 2 = 0) : f.RoundsTo q rank ↔
    f.lowMidpoint rank ≤ 2 * f.one * q ∧ 2 * f.one * q ≤ f.highMidpoint rank := by
  constructor
  · intro hq
    exact ⟨hq.low_le, hq.le_high⟩
  · rintro ⟨hlow, hhigh⟩
    exact ⟨hlow, hhigh, fun _ => h, fun _ => h⟩

theorem roundsTo_iff_of_odd (h : rank % 2 ≠ 0) : f.RoundsTo q rank ↔
    f.lowMidpoint rank < 2 * f.one * q ∧ 2 * f.one * q < f.highMidpoint rank := by
  constructor
  · intro hq
    exact ⟨hq.low_le.lt_of_ne' fun heq => h (hq.even_of_low heq),
      hq.le_high.lt_of_ne fun heq => h (hq.even_of_high heq)⟩
  · rintro ⟨hlow, hhigh⟩
    exact ⟨hlow.le, hhigh.le, fun heq => absurd heq hlow.ne', fun heq => absurd heq hhigh.ne⟩

end BinaryFormat

/-! ## Decimals that are read as a double -/

namespace Magnitude

/-- The magnitude as a number. -/
def value (m : Magnitude) : ℚ := m.units / BinaryFormat.double.one

end Magnitude

namespace Decimal

/-- The decimal is read as the magnitude. -/
def RoundsTo (d : Decimal) (m : Magnitude) : Prop := BinaryFormat.double.RoundsTo d.value m.rank

variable {d d' : Decimal} {m : Magnitude}

theorem value_mk (k : Nat) (e : Int) : (⟨k, e⟩ : Decimal).value = k * (10 : ℚ) ^ e := rfl

theorem value_nonneg (d : Decimal) : 0 ≤ d.value := by
  unfold value
  positivity

theorem value_zero (e : Int) : (⟨0, e⟩ : Decimal).value = 0 := by simp [value]

/-- Numbers on one grid stand in the order of their coefficients. -/
theorem value_le_value_iff {k k' : Nat} {e : Int} :
    (⟨k, e⟩ : Decimal).value ≤ (⟨k', e⟩ : Decimal).value ↔ k ≤ k' := by
  rw [value_mk, value_mk, mul_le_mul_iff_left₀ (by positivity), Nat.cast_le]

theorem value_lt_value_iff {k k' : Nat} {e : Int} :
    (⟨k, e⟩ : Decimal).value < (⟨k', e⟩ : Decimal).value ↔ k < k' := by
  rw [← not_le, value_le_value_iff, not_le]

/-- The magnitude itself is in its interval. -/
theorem roundsTo_of_value_eq (h : d.value = m.value) : d.RoundsTo m := by
  rw [RoundsTo, h]
  exact BinaryFormat.roundsTo_units Double.two_le_precision m.rank

/-- What lies between decimals that are read as a magnitude is read as it too. -/
theorem RoundsTo.between {d₁ d₂ : Decimal} (h₁ : d₁.RoundsTo m) (h₂ : d₂.RoundsTo m)
    (hle : d₁.value ≤ d.value) (hle' : d.value ≤ d₂.value) : d.RoundsTo m := by
  unfold RoundsTo at *
  exact BinaryFormat.RoundsTo.between h₁ h₂ hle hle'

/-- A decimal at a positive magnitude is positive. -/
theorem RoundsTo.coefficient_pos (h : d.RoundsTo m) (hm : m.rank ≠ 0) : 0 < d.coefficient := by
  apply Nat.pos_of_ne_zero
  intro hzero
  have hlow := h.low_le
  rw [value, hzero, Nat.cast_zero, zero_mul, mul_zero] at hlow
  have hunits : 0 < BinaryFormat.double.units m.rank :=
    Nat.zero_lt_of_lt (BinaryFormat.double.units_strictMono (Nat.pos_of_ne_zero hm))
  have hmid : BinaryFormat.double.lowMidpoint m.rank ≤ 0 := by exact_mod_cast hlow
  unfold BinaryFormat.lowMidpoint at hmid
  omega

end Decimal

/-! ## Points of a grid -/

namespace Magnitude

open Decimal

variable {m : Magnitude}

theorem covers_eq_true_iff {num den : Nat} (hden : 0 < den) : m.covers num den = true ↔
    BinaryFormat.double.RoundsTo (num / (den * (2 * BinaryFormat.double.one))) m.rank := by
  have hpos : (0 : ℚ) < den := by exact_mod_cast hden
  have hone := BinaryFormat.double.cast_one_pos
  have hscaled : 2 * (BinaryFormat.double.one : ℚ) * (num / (den * (2 * BinaryFormat.double.one)))
      = num / den := by field_simp
  have hinterval : m.interval
      = (BinaryFormat.double.lowMidpoint m.rank, BinaryFormat.double.highMidpoint m.rank) := rfl
  rw [covers, hinterval]
  dsimp only
  rw [BinaryFormat.significand_mod_two Double.two_le_precision]
  split
  · next heven =>
    rw [BinaryFormat.roundsTo_iff_of_even heven, hscaled, le_div_iff₀ hpos, div_le_iff₀ hpos]
    simp only [Bool.and_eq_true, decide_eq_true_eq]
    exact_mod_cast Iff.rfl
  · next hodd =>
    rw [BinaryFormat.roundsTo_iff_of_odd hodd, hscaled, lt_div_iff₀ hpos, div_lt_iff₀ hpos]
    simp only [Bool.and_eq_true, decide_eq_true_eq]
    exact_mod_cast Iff.rfl

/-- The width of a grid of decimals, in the units in which it is searched. -/
def gridStep (exponent : Int) : Nat := 10 ^ exponent.toNat * (2 * BinaryFormat.double.one)

/-- The magnitude, in the units in which a grid of decimals is searched. -/
def gridTarget (m : Magnitude) (exponent : Int) : Nat := 2 * m.units * 10 ^ (-exponent).toNat

theorem gridStep_pos (exponent : Int) : 0 < gridStep exponent :=
  Nat.mul_pos (Nat.pow_pos (by decide)) (Nat.mul_pos (by decide) BinaryFormat.double.one_pos)

/-- The units of a search. -/
def gridUnit (exponent : Int) : ℚ := 10 ^ (-exponent).toNat * (2 * BinaryFormat.double.one)

theorem gridUnit_pos (exponent : Int) : 0 < gridUnit exponent := by
  have hone := BinaryFormat.double.cast_one_pos
  unfold gridUnit
  positivity

theorem value_mul_gridUnit (k : Nat) (e : Int) :
    (⟨k, e⟩ : Decimal).value * gridUnit e = (k * gridStep e : Nat) := by
  have hden : ((⟨k, e⟩ : Decimal).den : ℚ) ≠ 0 := by exact_mod_cast (den_pos _).ne'
  have hpower : ((10 : ℚ) ^ (-e).toNat) = ((⟨k, e⟩ : Decimal).den : ℚ) := by simp [den]
  -- The denominator goes, and the power of ten that is left is the step.
  rw [← num_div_den, gridUnit, hpower, ← mul_assoc, div_mul_cancel₀ _ hden, num, gridStep]
  push_cast
  ring

theorem target_mul_gridUnit (m : Magnitude) (e : Int) : m.value * gridUnit e = m.gridTarget e := by
  have hone := BinaryFormat.double.cast_one_pos
  rw [value, gridUnit, gridTarget]
  push_cast
  generalize BinaryFormat.double.one = one at *
  field_simp

theorem value_le_iff {k : Nat} {e : Int} :
    (⟨k, e⟩ : Decimal).value ≤ m.value ↔ k * gridStep e ≤ m.gridTarget e := by
  rw [← mul_le_mul_iff_left₀ (gridUnit_pos e), value_mul_gridUnit, target_mul_gridUnit,
    Nat.cast_le]

theorem le_value_iff {k : Nat} {e : Int} :
    m.value ≤ (⟨k, e⟩ : Decimal).value ↔ m.gridTarget e ≤ k * gridStep e := by
  rw [← mul_le_mul_iff_left₀ (gridUnit_pos e), value_mul_gridUnit, target_mul_gridUnit,
    Nat.cast_le]

/-- How far a point of a grid is from the magnitude, in the units of the search. -/
def gridDistance (m : Magnitude) (exponent : Int) (k : Nat) : Nat :=
  ((k * gridStep exponent : Nat) - m.gridTarget exponent : Int).natAbs

/-- Up to the magnitude, the later points of a grid are nearer. -/
theorem gridDistance_lt_of_lt {k k' : Nat} {e : Int} (hlt : k' < k)
    (hle : k * gridStep e ≤ m.gridTarget e) : m.gridDistance e k < m.gridDistance e k' := by
  have hstep : (k' + 1) * gridStep e ≤ k * gridStep e := Nat.mul_le_mul_right _ hlt
  have hpos := gridStep_pos e
  rw [Nat.add_mul] at hstep
  unfold gridDistance
  omega

/-- Beyond it, the earlier ones are. -/
theorem gridDistance_lt_of_gt {k k' : Nat} {e : Int} (hlt : k < k')
    (hle : m.gridTarget e ≤ k * gridStep e) : m.gridDistance e k < m.gridDistance e k' := by
  have hstep : (k + 1) * gridStep e ≤ k' * gridStep e := Nat.mul_le_mul_right _ hlt
  have hpos := gridStep_pos e
  rw [Nat.add_mul] at hstep
  unfold gridDistance
  omega

theorem abs_sub_mul_gridUnit (k : Nat) (e : Int) :
    |(⟨k, e⟩ : Decimal).value - m.value| * gridUnit e = m.gridDistance e k := by
  calc |(⟨k, e⟩ : Decimal).value - m.value| * gridUnit e
      = |((⟨k, e⟩ : Decimal).value - m.value) * gridUnit e| := by
        rw [abs_mul, abs_of_pos (gridUnit_pos e)]
    _ = |((k * gridStep e : Nat) : ℚ) - m.gridTarget e| := by
        rw [sub_mul, value_mul_gridUnit, target_mul_gridUnit]
    _ = m.gridDistance e k := by
        rw [gridDistance, Nat.cast_natAbs]
        push_cast
        rfl

theorem abs_sub_le_abs_sub_iff {k k' : Nat} {e : Int} :
    |(⟨k, e⟩ : Decimal).value - m.value| ≤ |(⟨k', e⟩ : Decimal).value - m.value| ↔
      m.gridDistance e k ≤ m.gridDistance e k' := by
  rw [← mul_le_mul_iff_left₀ (gridUnit_pos e), abs_sub_mul_gridUnit, abs_sub_mul_gridUnit,
    Nat.cast_le]

theorem abs_sub_eq_abs_sub_iff {k k' : Nat} {e : Int} :
    |(⟨k, e⟩ : Decimal).value - m.value| = |(⟨k', e⟩ : Decimal).value - m.value| ↔
      m.gridDistance e k = m.gridDistance e k' := by
  rw [← mul_left_inj' (gridUnit_pos e).ne', abs_sub_mul_gridUnit, abs_sub_mul_gridUnit,
    Nat.cast_inj]

theorem covers_gridStep_iff {k : Nat} {e : Int} :
    m.covers (k * gridStep e) (10 ^ (-e).toNat) = true ↔ (⟨k, e⟩ : Decimal).RoundsTo m := by
  have hone := mul_pos two_pos BinaryFormat.double.cast_one_pos
  have hvalue : ((k * gridStep e : Nat) : ℚ)
      / ((10 ^ (-e).toNat : Nat) * (2 * BinaryFormat.double.one))
        = (⟨k, e⟩ : Decimal).value := by
    rw [← num_div_den, num, den, gridStep, ← mul_assoc]
    push_cast
    exact mul_div_mul_right _ _ hone.ne'
  rw [covers_eq_true_iff (Nat.pow_pos (by decide)), hvalue, Decimal.RoundsTo]

/-- The last point of a grid that is not beyond the magnitude. -/
def gridFloor (m : Magnitude) (exponent : Int) : Nat := m.gridTarget exponent / gridStep exponent

theorem gridFloor_mul_le (m : Magnitude) (e : Int) :
    m.gridFloor e * gridStep e ≤ m.gridTarget e := Nat.div_mul_le_self _ _

theorem gridTarget_le (m : Magnitude) (e : Int) :
    m.gridTarget e ≤ (m.gridFloor e + 1) * gridStep e := by
  rw [Nat.mul_comm]
  exact (Nat.lt_mul_div_succ _ (gridStep_pos e)).le

/-- What is found on a grid, by which of the two points next to the magnitude are
    read as it. -/
theorem gridPoint?_cases (m : Magnitude) (e : Int) :
    (⟨m.gridFloor e, e⟩ : Decimal).RoundsTo m ∧
        (⟨m.gridFloor e + 1, e⟩ : Decimal).RoundsTo m ∧
        m.gridPoint? e = some (roundQuotient (m.gridTarget e) (gridStep e)) ∨
      (⟨m.gridFloor e, e⟩ : Decimal).RoundsTo m ∧
        ¬ (⟨m.gridFloor e + 1, e⟩ : Decimal).RoundsTo m ∧
        m.gridPoint? e = some (m.gridFloor e) ∨
      ¬ (⟨m.gridFloor e, e⟩ : Decimal).RoundsTo m ∧
        (⟨m.gridFloor e + 1, e⟩ : Decimal).RoundsTo m ∧
        m.gridPoint? e = some (m.gridFloor e + 1) ∨
      ¬ (⟨m.gridFloor e, e⟩ : Decimal).RoundsTo m ∧
        ¬ (⟨m.gridFloor e + 1, e⟩ : Decimal).RoundsTo m ∧
        m.gridPoint? e = none := by
  have hstep : Nat.pow 10 e.toNat * (2 * BinaryFormat.double.one) = gridStep e := rfl
  have htarget : 2 * m.units * Nat.pow 10 (-e).toNat = m.gridTarget e := rfl
  have hfloor : m.gridTarget e / gridStep e = m.gridFloor e := rfl
  simp only [← covers_gridStep_iff]
  unfold gridPoint?
  dsimp only
  rw [hstep, htarget, hfloor, Nat.pow_eq]
  split <;> simp [*]

variable {k : Nat} {e : Int}

/-- If a point up to the magnitude is read as it, the last one is. -/
theorem roundsTo_gridFloor (h : (⟨k, e⟩ : Decimal).RoundsTo m) (hle : k ≤ m.gridFloor e) :
    (⟨m.gridFloor e, e⟩ : Decimal).RoundsTo m :=
  BinaryFormat.RoundsTo.between h (BinaryFormat.roundsTo_units Double.two_le_precision m.rank)
    (value_le_value_iff.2 hle) (value_le_iff.2 (m.gridFloor_mul_le e))

/-- If a point beyond the magnitude is read as it, the first one is. -/
theorem roundsTo_gridFloor_succ (h : (⟨k, e⟩ : Decimal).RoundsTo m) (hlt : m.gridFloor e < k) :
    (⟨m.gridFloor e + 1, e⟩ : Decimal).RoundsTo m :=
  BinaryFormat.RoundsTo.between (BinaryFormat.roundsTo_units Double.two_le_precision m.rank) h
    (le_value_iff.2 (m.gridTarget_le e)) (value_le_value_iff.2 hlt)

/-- A grid on which nothing is found has no point that is read as the magnitude. -/
theorem not_roundsTo_of_gridPoint?_eq_none (h : m.gridPoint? e = none) (k : Nat) :
    ¬ (⟨k, e⟩ : Decimal).RoundsTo m := by
  intro hk
  rcases m.gridPoint?_cases e with ⟨-, -, heq⟩ | ⟨-, -, heq⟩ | ⟨-, -, heq⟩ | ⟨hlow, hhigh, -⟩
  · simp [h] at heq
  · simp [h] at heq
  · simp [h] at heq
  · rcases le_or_gt k (m.gridFloor e) with hle | hlt
    · exact hlow (roundsTo_gridFloor hk hle)
    · exact hhigh (roundsTo_gridFloor_succ hk hlt)

/-- The decimal is read as the magnitude, and no other with its power of ten that
    is read so takes precedence. -/
structure IsNearestOnGrid (m : Magnitude) (d : Decimal) : Prop where
  /-- It is read as the magnitude. -/
  roundsTo : d.RoundsTo m
  /-- No other is nearer. -/
  nearest : ∀ k, (⟨k, d.exponent⟩ : Decimal).RoundsTo m →
    |d.value - m.value| ≤ |(⟨k, d.exponent⟩ : Decimal).value - m.value|
  /-- If another one is as near, this one is even. -/
  even_of_tie : ∀ k, (⟨k, d.exponent⟩ : Decimal).RoundsTo m →
    |d.value - m.value| = |(⟨k, d.exponent⟩ : Decimal).value - m.value| →
      k = d.coefficient ∨ d.coefficient % 2 = 0

/-- A point to which all others are farther is the nearest one. -/
theorem IsNearestOnGrid.of_lt (h : (⟨k, e⟩ : Decimal).RoundsTo m)
    (hlt : ∀ k', (⟨k', e⟩ : Decimal).RoundsTo m → k' ≠ k →
      m.gridDistance e k < m.gridDistance e k') : m.IsNearestOnGrid ⟨k, e⟩ := by
  refine ⟨h, fun k' hk' => ?_, fun k' hk' heq => .inl ?_⟩
  · rw [abs_sub_le_abs_sub_iff]
    by_cases heq : k' = k
    · rw [heq]
    · exact (hlt k' hk' heq).le
  · by_contra hne
    exact (hlt k' hk' hne).ne (abs_sub_eq_abs_sub_iff.1 heq)

/-- What is found on a grid is the point nearest to the magnitude, among those
    that are read as it. -/
theorem isNearestOnGrid_of_gridPoint?_eq_some (h : m.gridPoint? e = some k) :
    m.IsNearestOnGrid ⟨k, e⟩ := by
  have hfloor := m.gridFloor_mul_le e
  have hceiling := m.gridTarget_le e
  rcases m.gridPoint?_cases e with ⟨hlow, hhigh, heq⟩ | ⟨hlow, hhigh, heq⟩ | ⟨hlow, hhigh, heq⟩ |
    ⟨-, -, heq⟩
  · -- Both neighbours are read as the magnitude, so nearness decides.
    obtain rfl := Option.some.inj (heq.symm.trans h)
    have hround := nearestQuotient_roundQuotient (m.gridTarget e) (gridStep_pos e)
    refine ⟨?_, fun k' _ => ?_, fun k' _ htie => ?_⟩
    · exact hlow.between hhigh (value_le_value_iff.2 (le_roundQuotient (gridStep_pos e) hfloor))
        (value_le_value_iff.2 (roundQuotient_le (gridStep_pos e) hceiling))
    · exact abs_sub_le_abs_sub_iff.2 (hround.natAbs_le k')
    · have htie := abs_sub_eq_abs_sub_iff.1 htie
      unfold gridDistance at htie
      dsimp only
      exact hround.even_of_natAbs_eq (gridStep_pos e) htie
  · -- No point beyond the magnitude is read as it, and up to it the last one is nearest.
    obtain rfl := Option.some.inj (h.symm.trans heq)
    refine .of_lt hlow fun k' hk' hne => gridDistance_lt_of_lt (hne.lt_of_le ?_) hfloor
    by_contra hgt
    exact hhigh (roundsTo_gridFloor_succ hk' (not_le.1 hgt))
  · -- The other way round.
    obtain rfl := Option.some.inj (h.symm.trans heq)
    refine .of_lt hhigh fun k' hk' hne => gridDistance_lt_of_gt (hne.symm.lt_of_le ?_) hceiling
    by_contra hlt
    exact hlow (roundsTo_gridFloor hk' (Nat.le_of_lt_succ (not_le.1 hlt)))
  · simp [h] at heq

/-! ## The search -/

/-- The decimal is on the coarsest grid with a point that is read as the magnitude,
    and there it is the nearest one. -/
structure IsOnCoarsestGrid (m : Magnitude) (d : Decimal) : Prop extends m.IsNearestOnGrid d where
  /-- Coarser grids have no point that is read as the magnitude. -/
  coarsest : ∀ d' : Decimal, d'.RoundsTo m → d'.exponent ≤ d.exponent

/-- The search ends at the magnitude itself: a binary fraction is a decimal with as
    many places. -/
theorem value_searchGrid_zero (m : Magnitude) (e : Int) : (m.searchGrid 0 e).value = m.value := by
  rw [searchGrid]
  generalize hplaces : 1074 = places
  have hdepth : BinaryFormat.double.depth = places := hplaces
  have hexponent : (-1074 : Int) = -(places : Int) := by omega
  have hten : (10 : ℚ) ^ places = 5 ^ places * 2 ^ places := by rw [← mul_pow]; norm_num
  rw [value_mk, value, BinaryFormat.one_eq, hdepth, hexponent, zpow_neg, zpow_natCast, hten]
  push_cast [Nat.pow_eq]
  field_simp

/-- The search goes on through grids without a point that is read as the magnitude,
    down to one on which the magnitude itself lies. -/
theorem isOnCoarsestGrid_searchGrid (m : Magnitude) (steps : Nat) (e : Int)
    (hsteps : e = steps - 1074) (hcoarser : ∀ d : Decimal, d.RoundsTo m → d.exponent ≤ e) :
    m.IsOnCoarsestGrid (m.searchGrid steps e) := by
  induction steps generalizing e with
  | zero =>
    -- Nothing is nearer than the magnitude itself.
    obtain rfl : e = -1074 := by omega
    have hexact : (m.searchGrid 0 (-1074)).value = m.value := m.value_searchGrid_zero _
    have hround := roundsTo_of_value_eq hexact
    refine ⟨⟨hround, fun k _ => ?_, fun k _ htie => .inl ?_⟩, hcoarser⟩
    · rw [hexact, sub_self, abs_zero]
      exact abs_nonneg _
    · rw [hexact, sub_self, abs_zero, eq_comm, abs_eq_zero, sub_eq_zero, ← hexact] at htie
      exact Nat.le_antisymm (value_le_value_iff.1 htie.le) (value_le_value_iff.1 htie.ge)
  | succ steps ih =>
    rw [searchGrid]
    split
    · next k hk => exact ⟨isNearestOnGrid_of_gridPoint?_eq_some hk, hcoarser⟩
    · next hnone =>
      -- This grid joins those without a point.
      apply ih (e - 1) (by omega)
      rintro ⟨k, e'⟩ hd
      have hle : e' ≤ e := hcoarser _ hd
      have hne : e' ≠ e := by
        rintro rfl
        exact not_roundsTo_of_gridPoint?_eq_none hnone k hd
      show e' ≤ e - 1
      omega

theorem ten_pow_le_two_pow {n b : Nat} (h : 10 * n ≤ 3 * b) : 10 ^ n ≤ 2 ^ b := by
  rw [← Nat.pow_le_pow_iff_left (by decide : 10 ≠ 0)]
  calc (10 ^ n) ^ 10 = 10 ^ (10 * n) := by rw [← Nat.pow_mul, Nat.mul_comm]
    _ ≤ 10 ^ (3 * b) := Nat.pow_le_pow_right (by decide) h
    _ = (10 ^ 3) ^ b := Nat.pow_mul _ _ _
    _ ≤ (2 ^ 10) ^ b := Nat.pow_le_pow_left (by decide) _
    _ = (2 ^ b) ^ 10 := by rw [← Nat.pow_mul, Nat.mul_comm, Nat.pow_mul]

theorem neg_le_topExponent (m : Magnitude) : -1074 ≤ m.topExponent := by
  unfold topExponent
  dsimp only
  split <;> omega

/-- A power of ten beyond the start of the search is beyond the interval. -/
theorem interval_mul_ten_pow_lt {e : Int} (h : m.topExponent < e) :
    m.interval.2 * 10 ^ (-e).toNat < 10 ^ e.toNat * (2 * BinaryFormat.double.one) := by
  obtain ⟨depth, hdepth, hvalue⟩ : ∃ depth, BinaryFormat.double.depth = depth ∧ depth = 1074 :=
    ⟨_, rfl, rfl⟩
  have hbits : m.interval.2 < 2 ^ (m.interval.2.log2 + 1) := Nat.lt_log2_self
  have hpos : 0 < 10 ^ (-e).toNat := Nat.pow_pos (by decide)
  refine (Nat.mul_lt_mul_of_pos_right hbits hpos).trans_le ?_
  unfold topExponent at h
  dsimp only at h
  generalize m.interval.2.log2 = bits at *
  rw [BinaryFormat.one_eq, hdepth, ← Nat.pow_succ']
  rcases Int.le_total 0 e with hlarge | hsmall
  · -- A power of ten has more than three bits for each of its zeros.
    have hzero : (-e).toNat = 0 := by omega
    have hexp : bits + 1 ≤ 3 * e.toNat + (depth + 1) := by
      split at h <;> omega
    calc 2 ^ (bits + 1) * 10 ^ (-e).toNat = 2 ^ (bits + 1) := by
          rw [hzero, Nat.pow_zero, Nat.mul_one]
      _ ≤ 2 ^ (3 * e.toNat + (depth + 1)) := Nat.pow_le_pow_right (by decide) hexp
      _ = (2 ^ 3) ^ e.toNat * 2 ^ (depth + 1) := by rw [Nat.pow_add, Nat.pow_mul]
      _ ≤ 10 ^ e.toNat * 2 ^ (depth + 1) :=
        Nat.mul_le_mul_right _ (Nat.pow_le_pow_left (by decide) _)
  · -- But it has no more than ten bits for three of them.
    have hzero : e.toNat = 0 := by omega
    have hexp : 10 * (-e).toNat ≤ 3 * (depth - bits) ∧
        bits ≤ depth := by
      split at h <;> omega
    calc 2 ^ (bits + 1) * 10 ^ (-e).toNat
        ≤ 2 ^ (bits + 1) * 2 ^ (depth - bits) :=
          Nat.mul_le_mul_left _ (ten_pow_le_two_pow hexp.1)
      _ = 2 ^ (depth + 1) := by
          rw [← Nat.pow_add]
          congr 1
          omega
      _ = 10 ^ e.toNat * 2 ^ (depth + 1) := by
          rw [hzero, Nat.pow_zero, Nat.one_mul]

/-- Grids beyond the start of the search have no point that is read as the
    magnitude. -/
theorem exponent_le_topExponent (hm : m.rank ≠ 0) {d : Decimal} (h : d.RoundsTo m) :
    d.exponent ≤ m.topExponent := by
  by_contra hlt
  have hbound := interval_mul_ten_pow_lt (Int.not_le.1 hlt)
  have hpos : (0 : ℚ) < d.den := by exact_mod_cast d.den_pos
  have hhigh : d.num * (2 * BinaryFormat.double.one)
      ≤ BinaryFormat.double.highMidpoint m.rank * d.den := by
    have hle := h.le_high
    rw [← num_div_den, ← mul_div_assoc, div_le_iff₀ hpos] at hle
    rw [Nat.mul_comm]
    exact_mod_cast hle
  have hlow : 10 ^ d.exponent.toNat * (2 * BinaryFormat.double.one)
      ≤ d.num * (2 * BinaryFormat.double.one) :=
    Nat.mul_le_mul_right _ (Nat.le_mul_of_pos_left _ (h.coefficient_pos hm))
  exact absurd (hbound.trans_le (hlow.trans hhigh)) (lt_irrefl _)

/-- What the search finds. -/
theorem isOnCoarsestGrid_shortest (hm : m.rank ≠ 0) : m.IsOnCoarsestGrid m.shortest := by
  have htop := m.neg_le_topExponent
  rw [shortest, if_neg hm]
  exact isOnCoarsestGrid_searchGrid m _ _ (by omega) fun d hd => exponent_le_topExponent hm hd

end Magnitude

end SymbolStyle

import Mathlib.Algebra.Field.Rat
import Mathlib.Data.List.Basic
import Mathlib.Tactic.Ring
import SymbolStyle.Number.Decimal

/-! # Numbers in positional layout

    What the positional layout of a decimal looks like, and which number it
    denotes.

    * `Decimal.positional_cases`: the places that the point can have.
    * `exists_digits_of_positional`: there are digits on either side of it.
    * `denoted_positional`: the text denotes the decimal.
-/

namespace SymbolStyle

namespace Decimal

/-- The decimal as a number. -/
def value (d : Decimal) : ℚ := d.coefficient * (10 : ℚ) ^ d.exponent

/-- How many digits the coefficient has. -/
def digitCount (d : Decimal) : Nat := (digits d.coefficient).length

/-! ## Digits -/

theorem isDigit_of_mem_digits {n : Nat} {c : Char} (h : c ∈ digits n) : c.isDigit :=
  Nat.isDigit_of_mem_toDigits (by decide) (by decide) h

theorem isDigit_of_mem_zeros {n : Nat} {c : Char} (h : c ∈ List.replicate n '0') : c.isDigit := by
  rw [List.eq_of_mem_replicate h]
  rfl

theorem digits_ne_nil (n : Nat) : digits n ≠ [] := Nat.toDigits_ne_nil

theorem ofDigitChars_digits (n : Nat) : Nat.ofDigitChars 10 (digits n) 0 = n :=
  Nat.ofDigitChars_ten_toDigits

/-- Zeros in front of the digits do not count. -/
theorem ofDigitChars_zeros_append (zeros n : Nat) :
    Nat.ofDigitChars 10 (List.replicate zeros '0' ++ digits n) 0 = n := by
  rw [Nat.ofDigitChars_append, Nat.ofDigitChars_replicate_zero, Nat.mul_zero, ofDigitChars_digits]

theorem digitChar_eq_zero_iff {n : Nat} (h : n < 10) : n.digitChar = '0' ↔ n = 0 := by
  have hall : ∀ n < 10, n.digitChar = '0' ↔ n = 0 := by decide
  exact hall n h

/-- The first digit of a positive number is not zero. -/
theorem head?_digits {n : Nat} (h : 0 < n) : (digits n).head? ≠ some '0' := by
  induction n using Nat.strongRecOn with
  | ind n ih =>
    unfold digits at *
    -- The digits are those of the tenth part and one more, and the first is among the former.
    rw [Nat.toDigits_eq_if (by decide)]
    split
    · next hsmall =>
      rw [List.head?_cons, Ne, Option.some.injEq, digitChar_eq_zero_iff hsmall]
      omega
    · next hlarge =>
      rw [List.head?_append_of_ne_nil _ Nat.toDigits_ne_nil]
      exact ih (n / 10) (by omega) (by omega)

/-- The last digit of a number is zero only for multiples of ten. -/
theorem getLast?_digits {n : Nat} (h : n % 10 ≠ 0) : (digits n).getLast? ≠ some '0' := by
  unfold digits
  rw [Nat.toDigits_eq_if (by decide)]
  split
  · next hsmall =>
    rw [List.getLast?_singleton, Ne, Option.some.injEq, digitChar_eq_zero_iff hsmall]
    omega
  · have hdigit : n % 10 < 10 := Nat.mod_lt _ (by decide)
    rw [List.getLast?_concat, Ne, Option.some.injEq, digitChar_eq_zero_iff hdigit]
    exact h

/-! ## The place of the point -/

/-- The point is behind the digits, among them, or before them. -/
theorem positional_cases (d : Decimal) :
    (∃ zeros : Nat, d.exponent = zeros ∧
        d.positional = digits d.coefficient ++ List.replicate zeros '0' ++ '.' :: ['0']) ∨
      (∃ places : Nat, d.exponent = -places ∧ 0 < places ∧ places < d.digitCount ∧
        d.positional = (digits d.coefficient).take (d.digitCount - places)
          ++ '.' :: (digits d.coefficient).drop (d.digitCount - places)) ∨
      ∃ places : Nat, d.exponent = -places ∧ 0 < places ∧ d.digitCount ≤ places ∧
        d.positional = ['0']
          ++ '.' :: (List.replicate (places - d.digitCount) '0' ++ digits d.coefficient) := by
  by_cases hexponent : d.exponent < 0
  · obtain ⟨places, hplaces⟩ : ∃ places : Nat, d.exponent = -places :=
      ⟨d.exponent.natAbs, by omega⟩
    have habs : d.exponent.natAbs = places := by omega
    have hcount : (digits d.coefficient).length = d.digitCount := rfl
    rw [positional, if_pos hexponent, habs, insertPoint, hcount]
    -- Zeros are filled in only if there are no more digits than places.
    rcases Nat.lt_or_ge places d.digitCount with hinside | hbefore
    · refine .inr (.inl ⟨places, hplaces, by omega, hinside, ?_⟩)
      have hzeros : places + 1 - d.digitCount = 0 := by omega
      simp [hzeros, hcount]
    · refine .inr (.inr ⟨places, hplaces, by omega, hbefore, ?_⟩)
      have hzeros : places + 1 - d.digitCount = (places - d.digitCount) + 1 := by omega
      have hwhole : places - d.digitCount + d.digitCount + 1 - places = 1 := by omega
      simp [hzeros, hcount, hwhole, List.replicate_succ]
  · obtain ⟨zeros, hzeros⟩ : ∃ zeros : Nat, d.exponent = zeros := ⟨d.exponent.toNat, by omega⟩
    refine .inl ⟨zeros, hzeros, ?_⟩
    rw [positional, if_neg hexponent, hzeros, Int.toNat_natCast]

/-- The digits before the point and after it. A zero stands in front of other digits
    for no decimal but zero, and behind other places only if the coefficient ends
    with one. -/
theorem positional_eq (d : Decimal) : ∃ whole places : List Char,
    d.positional = whole ++ '.' :: places ∧ whole ≠ [] ∧ places ≠ [] ∧
      (∀ c ∈ whole ++ places, c.isDigit) ∧
      (0 < d.coefficient → whole.head? = some '0' → whole = ['0']) ∧
      (d.coefficient % 10 ≠ 0 → places.getLast? = some '0' → places = ['0']) := by
  have hnil := digits_ne_nil d.coefficient
  rcases d.positional_cases with ⟨zeros, -, heq⟩ | ⟨places, -, hplaces, hinside, heq⟩ |
    ⟨places, -, hplaces, hbefore, heq⟩
  · refine ⟨_, ['0'], heq, List.append_ne_nil_of_left_ne_nil hnil _, by simp, ?_, ?_,
      fun _ _ => rfl⟩
    · intro c hc
      simp only [List.mem_append, List.mem_singleton] at hc
      rcases hc with (hc | hc) | rfl
      · exact isDigit_of_mem_digits hc
      · exact isDigit_of_mem_zeros hc
      · rfl
    · -- The zeros are filled in behind the digits.
      intro hpos hzero
      rw [List.head?_append_of_ne_nil _ hnil] at hzero
      exact absurd hzero (head?_digits hpos)
  · have hcount : (digits d.coefficient).length = d.digitCount := rfl
    refine ⟨_, _, heq, ?_, ?_, ?_, ?_, ?_⟩
    · rw [Ne, List.take_eq_nil_iff]
      rintro (hzero | hzero)
      · omega
      · exact hnil hzero
    · rw [Ne, List.drop_eq_nil_iff, hcount]
      omega
    · rw [List.take_append_drop]
      exact fun c hc => isDigit_of_mem_digits hc
    · intro hpos hzero
      rw [List.head?_take, if_neg (by omega)] at hzero
      exact absurd hzero (head?_digits hpos)
    · intro hlast hzero
      rw [List.getLast?_drop, if_neg (by omega)] at hzero
      exact absurd hzero (getLast?_digits hlast)
  · refine ⟨['0'], _, heq, by simp, List.append_ne_nil_of_right_ne_nil _ hnil, ?_,
      fun _ _ => rfl, ?_⟩
    · intro c hc
      simp only [List.mem_append, List.mem_singleton] at hc
      rcases hc with rfl | hc | hc
      · rfl
      · exact isDigit_of_mem_zeros hc
      · exact isDigit_of_mem_digits hc
    · -- The zeros are filled in before the digits.
      intro hlast hzero
      rw [List.getLast?_append_of_ne_nil _ hnil] at hzero
      exact absurd hzero (getLast?_digits hlast)

end Decimal

/-- There are digits on either side of the point. -/
theorem exists_digits_of_positional (d : Decimal) :
    ∃ whole places : List Char, d.positional = whole ++ '.' :: places ∧ whole ≠ [] ∧ places ≠ [] ∧
      ∀ c ∈ whole ++ places, c.isDigit := by
  obtain ⟨whole, places, heq, hwhole, hplaces, hdigits, -, -⟩ := d.positional_eq
  exact ⟨whole, places, heq, hwhole, hplaces, hdigits⟩

/-! ## The number that a text denotes -/

/-- The number that digits denote if the point stands before the last `places`
    of them. -/
def pointed (digits : List Char) (places : Nat) : ℚ :=
  (Nat.ofDigitChars 10 digits 0 : ℚ) / 10 ^ places

/-- The number that a text denotes which starts with digits. A point may follow
    them, and more digits after it. -/
def denoted (text : List Char) : ℚ :=
  let places := (text.dropWhile Char.isDigit).drop 1
  pointed (text.takeWhile Char.isDigit ++ places) places.length

theorem denoted_digits {whole places : List Char} (h : ∀ c ∈ whole, c.isDigit) :
    denoted (whole ++ '.' :: places) = pointed (whole ++ places) places.length := by
  have htake : (whole ++ '.' :: places).takeWhile Char.isDigit = whole := by
    rw [List.takeWhile_append_of_pos h]
    simp
  have hdrop : (whole ++ '.' :: places).dropWhile Char.isDigit = '.' :: places := by
    rw [List.dropWhile_append_of_pos h]
    rfl
  unfold denoted
  rw [htake, hdrop]
  rfl

/-- The positional layout of a decimal denotes the decimal. -/
theorem denoted_positional (d : Decimal) : denoted d.positional = d.value := by
  have hread := Decimal.ofDigitChars_digits d.coefficient
  have hcount : (Decimal.digits d.coefficient).length = d.digitCount := rfl
  rcases d.positional_cases with ⟨zeros, hexponent, heq⟩ | ⟨places, hexponent, -, hinside, heq⟩ |
    ⟨places, hexponent, -, hbefore, heq⟩
  · -- Zeros after the digits count, and so does the one after the point.
    have hwhole : ∀ c ∈ Decimal.digits d.coefficient ++ List.replicate zeros '0', c.isDigit := by
      intro c hc
      rcases List.mem_append.1 hc with hc | hc
      · exact Decimal.isDigit_of_mem_digits hc
      · exact Decimal.isDigit_of_mem_zeros hc
    have hvalue : Nat.ofDigitChars 10
        (Decimal.digits d.coefficient ++ List.replicate zeros '0' ++ ['0']) 0
          = 10 * (10 ^ zeros * d.coefficient) := by
      rw [Nat.ofDigitChars_append, Nat.ofDigitChars_append, hread, Nat.ofDigitChars_replicate_zero]
      rfl
    rw [heq, denoted_digits hwhole, pointed, hvalue, Decimal.value, hexponent, zpow_natCast]
    push_cast
    simp only [List.length_singleton, pow_one]
    ring
  · have hwhole : ∀ c ∈ (Decimal.digits d.coefficient).take (d.digitCount - places), c.isDigit :=
      fun c hc => Decimal.isDigit_of_mem_digits (List.mem_of_mem_take hc)
    have hlength : d.digitCount - (d.digitCount - places) = places := by omega
    rw [heq, denoted_digits hwhole, List.take_append_drop, pointed, hread, List.length_drop, hcount,
      hlength, Decimal.value, hexponent, zpow_neg, zpow_natCast, div_eq_mul_inv]
  · -- Zeros in front of the digits do not count.
    have hvalue := Decimal.ofDigitChars_zeros_append (1 + (places - d.digitCount)) d.coefficient
    rw [List.replicate_add, List.append_assoc] at hvalue
    have hlength : places - d.digitCount + d.digitCount = places := by omega
    rw [heq, denoted_digits (by simp), pointed, List.length_append, List.length_replicate, hcount,
      hlength, Decimal.value, hexponent, zpow_neg, zpow_natCast, div_eq_mul_inv]
    exact congrArg (fun n : Nat => (n : ℚ) * _) hvalue

end SymbolStyle

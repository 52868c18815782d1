import Mathlib.Data.List.TakeWhile
import SymbolStyle.Proofs.Number.Shortest

/-! # Numerals

    What the texts of a number look like, and how they are read.

    * `IsPlainNumeral`: a numeral with a point and with no superfluous zero. The
      positional layout of a shortest decimal is one.
    * `Decimal.exponential_eq`: the parts of the exponential layout.
    * `Decimal.read?_plain` and `Decimal.read?_exponential`: what the two layouts
      are read as.
    * `Double.read?_signed`: reading a plain numeral as a double is reading the
      decimal and rounding it.
-/

namespace SymbolStyle

open Text

/-! ## Plain numerals -/

/-- Digits before a point and digits after it make a plain numeral: there are both,
    and no zero can be left out. -/
structure IsPlainNumeral (whole places : List Char) : Prop where
  whole_ne_nil : whole ≠ []
  places_ne_nil : places ≠ []
  isDigit : ∀ c ∈ whole ++ places, c.isDigit
  /-- A zero in front is the only digit there. -/
  leading : whole.head? = some '0' → whole = ['0']
  /-- A zero at the end is the only digit there. -/
  trailing : places.getLast? = some '0' → places = ['0']

namespace Decimal

/-- The positional layout of a decimal without superfluous digits is plain. -/
theorem exists_isPlainNumeral_positional {d : Decimal} (h : d = ⟨0, 0⟩ ∨ d.coefficient % 10 ≠ 0) :
    ∃ whole places, d.positional = whole ++ '.' :: places ∧ IsPlainNumeral whole places := by
  rcases h with rfl | hlast
  · refine ⟨['0'], ['0'], by decide, ?_⟩
    constructor <;> simp
  · have hpos : 0 < d.coefficient := Nat.pos_of_ne_zero fun hzero => hlast (by rw [hzero])
    obtain ⟨whole, places, heq, hwhole, hplaces, hdigits, hleading, htrailing⟩ := d.positional_eq
    exact ⟨whole, places, heq, hwhole, hplaces, hdigits, hleading hpos, htrailing hlast⟩

/-! ## Reading decimals -/

theorem isAsciiDigit_eq : isAsciiDigit = Char.isDigit := rfl

/-- Digits are read up to the first other character. -/
theorem span_digits {ds rest : List Char} (h : ∀ c ∈ ds, c.isDigit)
    (hrest : ∀ c ∈ rest.head?, ¬ c.isDigit) : (ds ++ rest).span isAsciiDigit = (ds, rest) := by
  rw [isAsciiDigit_eq, List.span_eq_takeWhile_dropWhile, List.takeWhile_append_of_pos h,
    List.dropWhile_append_of_pos h]
  cases rest with
  | nil => simp
  | cons c rest =>
    rw [List.takeWhile_cons_of_neg (hrest c rfl), List.dropWhile_cons_of_neg (hrest c rfl),
      List.append_nil]

/-- What a numeral is read as whose digits before the point, digits after it and
    power of ten are known. -/
theorem read?_point (whole places : List Char) {rest : List Char} {power : Int}
    (hwhole : whole ≠ []) (hdigits : ∀ c ∈ whole ++ places, c.isDigit)
    (hrest : ∀ c ∈ rest.head?, ¬ c.isDigit) (hpower : readPower? rest = some power) :
    read? (whole ++ '.' :: (places ++ rest)) = some (ofParts whole places power) := by
  have hspan : (whole ++ '.' :: (places ++ rest)).span isAsciiDigit
      = (whole, '.' :: (places ++ rest)) := by
    apply span_digits fun c hc => hdigits c (List.mem_append_left _ hc)
    simp
  have hspan' : (places ++ rest).span isAsciiDigit = (places, rest) :=
    span_digits (fun c hc => hdigits c (List.mem_append_right _ hc)) hrest
  simp only [read?, hspan, hspan', hwhole, hpower, false_and, if_false, Option.map_some]

/-- What a numeral without a point is read as. -/
theorem read?_whole {whole rest : List Char} {power : Int} (hwhole : whole ≠ [])
    (hdigits : ∀ c ∈ whole, c.isDigit) (hpower : readPower? ('e' :: rest) = some power) :
    read? (whole ++ 'e' :: rest) = some (ofParts whole [] power) := by
  have hspan : (whole ++ 'e' :: rest).span isAsciiDigit = (whole, 'e' :: rest) := by
    apply span_digits hdigits
    simp
  unfold read?
  rw [hspan]
  show (if whole = [] ∧ [] = [] then none
    else (readPower? ('e' :: rest)).map (ofParts whole [])) = _
  rw [if_neg fun h => hwhole h.1, hpower, Option.map_some]

/-- The power of ten that the exponential layout ends with. -/
theorem readPower?_exponent (power : Int) (zeros : Nat) :
    readPower? ('e' :: (if power < 0 then '-' else '+')
      :: (List.replicate zeros '0' ++ digits power.natAbs)) = some power := by
  have hall : (List.replicate zeros '0' ++ digits power.natAbs).all isAsciiDigit = true := by
    rw [List.all_eq_true, isAsciiDigit_eq]
    intro c hc
    rcases List.mem_append.1 hc with hc | hc
    · exact isDigit_of_mem_zeros hc
    · exact isDigit_of_mem_digits hc
  have hnil : List.replicate zeros '0' ++ digits power.natAbs ≠ [] :=
    List.append_ne_nil_of_right_ne_nil _ (digits_ne_nil _)
  have hread := ofDigitChars_zeros_append zeros power.natAbs
  by_cases hnegative : power < 0
  · rw [if_pos hnegative, readPower?]
    simp only [takeSign, hall, hread, ne_eq, hnil, not_false_eq_true, true_or, and_self, if_true,
      Option.some.injEq]
    omega
  · rw [if_neg hnegative, readPower?]
    simp only [takeSign, hall, hread, ne_eq, hnil, not_false_eq_true, true_or, and_self, if_true,
      Option.some.injEq]
    simp
    omega

/-- The exponential layout: a digit, the others behind a point if there are any, and
    the power of ten. These parts make up the decimal. -/
theorem exponential_eq (d : Decimal) : ∃ (first : Char) (places : List Char) (zeros : Nat),
    d.exponential = first :: ((if places = [] then [] else '.' :: places)
      ++ 'e' :: (if d.leadExponent < 0 then '-' else '+')
        :: (List.replicate zeros '0' ++ digits d.leadExponent.natAbs)) ∧
    (∀ c ∈ first :: places, c.isDigit) ∧ ofParts [first] places d.leadExponent = d := by
  have hdigit : ∀ c ∈ digits d.coefficient, c.isDigit := fun c hc => isDigit_of_mem_digits hc
  have hread := ofDigitChars_digits d.coefficient
  have hnil := digits_ne_nil d.coefficient
  have hlead : d.leadExponent = d.exponent + (digits d.coefficient).length - 1 := rfl
  unfold exponential
  dsimp only
  generalize digits d.coefficient = ds at *
  rcases ds with - | ⟨first, places⟩
  · exact absurd rfl hnil
  · -- The digits behind the point take their number off the exponent again.
    have hparts : ofParts [first] places d.leadExponent = d := by
      have hexponent : d.leadExponent - (places.length : Nat) = d.exponent := by
        rw [hlead, List.length_cons]
        omega
      rw [ofParts, List.singleton_append, hread, hexponent]
    cases places with
    | nil => exact ⟨first, [], _, rfl, hdigit, hparts⟩
    | cons second rest => exact ⟨first, second :: rest, _, rfl, hdigit, hparts⟩

/-- The exponential layout is read as the decimal itself. -/
theorem read?_exponential (d : Decimal) : read? d.exponential = some d := by
  obtain ⟨first, places, zeros, heq, hdigits, hparts⟩ := d.exponential_eq
  have hpower := readPower?_exponent d.leadExponent zeros
  rw [heq]
  split
  · next hplaces =>
    subst hplaces
    rw [List.nil_append]
    exact (read?_whole (List.cons_ne_nil _ _) hdigits hpower).trans (congrArg some hparts)
  · have hread := read?_point [first] places (by simp) hdigits (by simp) hpower
    exact hread.trans (congrArg some hparts)

/-- The parts of a plain numeral make up the decimal that it denotes. -/
theorem value_ofParts {whole places : List Char} (h : IsPlainNumeral whole places) :
    (ofParts whole places 0).value = denoted (whole ++ '.' :: places) := by
  rw [denoted_digits fun c hc => h.isDigit c (List.mem_append_left _ hc), pointed, ofParts, value,
    zero_sub, zpow_neg, zpow_natCast, div_eq_mul_inv]

/-- A plain numeral is read as what it denotes. -/
theorem read?_plain {whole places : List Char} (h : IsPlainNumeral whole places) :
    ∃ d, read? (whole ++ '.' :: places) = some d ∧ d.value = denoted (whole ++ '.' :: places) := by
  refine ⟨ofParts whole places 0, ?_, value_ofParts h⟩
  have hread := read?_point whole places h.whole_ne_nil h.isDigit (by simp)
    (show readPower? [] = some 0 from rfl)
  rwa [List.append_nil] at hread

end Decimal

/-! ## The number of a numeral -/

/-- A number under a sign. -/
def signedNumber (negative : Bool) (q : ℚ) : ℚ := if negative then -q else q

/-- The number that a numeral denotes, without any rounding. -/
def numeralValue? (text : List Char) : Option ℚ :=
  let (negative, rest) := Decimal.takeSign text
  (Decimal.read? rest).map fun d => signedNumber negative d.value

theorem takeSign_signed {c : Char} (hc : c.isDigit) (negative : Bool) (cs : List Char) :
    Decimal.takeSign (Double.signed negative (c :: cs)) = (negative, c :: cs) := by
  cases negative with
  | true => rfl
  | false =>
    have hminus : c ≠ '-' := by rintro rfl; exact absurd hc (by decide)
    have hplus : c ≠ '+' := by rintro rfl; exact absurd hc (by decide)
    simp [Double.signed, Decimal.takeSign, hminus, hplus]

/-- What a numeral denotes that does not bring a sign of its own. -/
theorem numeralValue?_signed {text : List Char} (htext : ∃ c cs, text = c :: cs ∧ c.isDigit)
    (negative : Bool) {d : Decimal} (hread : Decimal.read? text = some d) :
    numeralValue? (Double.signed negative text) = some (signedNumber negative d.value) := by
  obtain ⟨c, cs, rfl, hc⟩ := htext
  rw [numeralValue?, takeSign_signed hc]
  dsimp only
  rw [hread, Option.map_some]

theorem IsPlainNumeral.exists_cons {whole places : List Char} (h : IsPlainNumeral whole places) :
    ∃ c cs, whole ++ '.' :: places = c :: cs ∧ c.isDigit := by
  obtain ⟨c, cs, rfl⟩ := List.exists_cons_of_ne_nil h.whole_ne_nil
  exact ⟨c, cs ++ '.' :: places, rfl, h.isDigit c List.mem_cons_self⟩

theorem Decimal.exists_cons_exponential (d : Decimal) :
    ∃ c cs, d.exponential = c :: cs ∧ c.isDigit := by
  obtain ⟨first, places, zeros, heq, hdigits, -⟩ := d.exponential_eq
  exact ⟨_, _, heq, hdigits first List.mem_cons_self⟩

/-- Both layouts of a decimal denote it. -/
theorem numeralValue?_positional {d : Decimal} (h : d = ⟨0, 0⟩ ∨ d.coefficient % 10 ≠ 0)
    (negative : Bool) :
    numeralValue? (Double.signed negative d.positional) = some (signedNumber negative d.value) := by
  obtain ⟨whole, places, heq, hplain⟩ := Decimal.exists_isPlainNumeral_positional h
  obtain ⟨d', hread, hvalue⟩ := Decimal.read?_plain hplain
  rw [heq, numeralValue?_signed hplain.exists_cons negative hread, hvalue, ← heq,
    denoted_positional]

theorem numeralValue?_compact {d : Decimal} (h : d = ⟨0, 0⟩ ∨ d.coefficient % 10 ≠ 0)
    (negative : Bool) :
    numeralValue? (Double.signed negative d.compact) = some (signedNumber negative d.value) := by
  unfold Decimal.compact
  split
  · exact numeralValue?_positional h negative
  · exact numeralValue?_signed d.exists_cons_exponential negative d.read?_exponential

/-! ## Reading doubles -/

namespace Double

/-- The characters of signed numerals. -/
def IsNumeralChar (c : Char) : Prop := c.isDigit ∨ c = '.' ∨ c = '-'

theorem IsNumeralChar.plainChar_eq {c : Char} (h : IsNumeralChar c) : plainChar c = c := by
  rw [plainChar, if_pos]
  rcases h with h | rfl | rfl
  · rw [Char.isDigit_iff_toNat] at h
    exact Nat.lt_of_le_of_lt h.2 (by decide)
  · decide
  · decide

theorem IsNumeralChar.isAsciiBlank_eq {c : Char} (h : IsNumeralChar c) :
    isAsciiBlank c = false := by
  rcases h with h | rfl | rfl
  · rw [Char.isDigit_iff_toNat] at h
    have hleast : 48 ≤ c.toNat := h.1
    have hnot : ¬ c.toNat ≤ 13 ∧ c.toNat ≠ 32 := by omega
    simp [isAsciiBlank, hnot]
  · rfl
  · rfl

theorem IsNumeralChar.ne_separator {c : Char} (h : IsNumeralChar c) : c ≠ '_' := by
  rintro rfl
  revert h
  unfold IsNumeralChar
  decide

/-- A text without anything to drop is not trimmed. -/
theorem trim_eq_self {drop : Char → Bool} {cs : List Char} (h : ∀ c ∈ cs, drop c = false) :
    trim drop cs = cs := by
  have hkeep : ∀ cs : List Char, (∀ c ∈ cs, drop c = false) → cs.dropWhile drop = cs := by
    intro cs hcs
    cases cs with
    | nil => rfl
    | cons c cs => exact List.dropWhile_cons_of_neg (by simp [hcs c List.mem_cons_self])
  have hreverse : ∀ c ∈ cs.reverse, drop c = false := fun c hc => h c (List.mem_reverse.1 hc)
  rw [trim, hkeep cs h, hkeep _ hreverse, List.reverse_reverse]

theorem dropSeparators_eq {cs : List Char} (h : ∀ c ∈ cs, c ≠ '_') (afterDigit : Bool) :
    dropSeparators afterDigit cs = some cs := by
  induction cs generalizing afterDigit with
  | nil => rw [dropSeparators]
  | cons c cs ih =>
    have hc : c ≠ '_' := h c List.mem_cons_self
    rw [dropSeparators, if_neg hc, ih fun c hc => h c (List.mem_cons_of_mem _ hc)]
    · rfl
    · intro _ _ heq _
      exact absurd heq hc

theorem toLower_of_isDigit {c : Char} (hc : c.isDigit) : c.toLower = c := by
  rw [Char.isDigit_iff_toNat] at hc
  refine dif_neg ?_
  rintro ⟨hupper, -⟩
  have hle : 'A'.toNat ≤ c.toNat := UInt32.le_iff_toNat_le.1 hupper
  exact absurd (hle.trans hc.2) (by decide)

/-- What starts with a digit is none of the words for numbers. -/
theorem lowered_ne {c : Char} (hc : c.isDigit) (cs : List Char) (word : String)
    (hword : ∀ d ∈ word.toList.head?, ¬ d.isDigit) :
    String.ofList ((c :: cs).map Char.toLower) ≠ word := by
  rintro rfl
  apply hword c _ hc
  rw [String.toList_ofList, List.map_cons, toLower_of_isDigit hc]
  rfl

/-- A plain numeral under a sign is read as the double to which the decimal rounds. -/
theorem read?_signed (negative : Bool) {whole places : List Char}
    (h : IsPlainNumeral whole places) :
    read? (signed negative (whole ++ '.' :: places))
      = (Decimal.read? (whole ++ '.' :: places)).map (·.toDouble negative) := by
  obtain ⟨c, cs, rfl⟩ := List.exists_cons_of_ne_nil h.whole_ne_nil
  have hc : c.isDigit := h.isDigit c List.mem_cons_self
  have hchars : ∀ d ∈ signed negative (c :: cs ++ '.' :: places), IsNumeralChar d := by
    intro d hd
    have hd' : d = '-' ∨ d = '.' ∨ d ∈ c :: cs ++ places := by
      cases negative <;> simp [signed] at hd ⊢ <;> tauto
    rcases hd' with rfl | rfl | hd'
    · exact .inr (.inr rfl)
    · exact .inr (.inl rfl)
    · exact .inl (h.isDigit d hd')
  -- No character is replaced, trimmed or taken out.
  have hmap : (signed negative (c :: cs ++ '.' :: places)).map plainChar
      = signed negative (c :: cs ++ '.' :: places) := by
    rw [List.map_congr_left fun d hd => (hchars d hd).plainChar_eq, List.map_id']
  have htrim := trim_eq_self fun d hd => (hchars d hd).isAsciiBlank_eq
  have hdrop := dropSeparators_eq (fun d hd => (hchars d hd).ne_separator) false
  unfold read?
  rw [hmap, htrim, hdrop]
  simp only [Option.bind_eq_bind, Option.bind_some]
  rw [List.cons_append, takeSign_signed hc]
  dsimp only
  rw [if_neg (lowered_ne hc _ "nan" (by simp)), if_neg]
  rintro (hword | hword)
  · exact lowered_ne hc _ "inf" (by simp) hword
  · exact lowered_ne hc _ "infinity" (by simp) hword

end Double

end SymbolStyle

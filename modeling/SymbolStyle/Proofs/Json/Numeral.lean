import SymbolStyle.Proofs.Json.LongInt
import SymbolStyle.Proofs.Number.Numeral
import SymbolStyle.Value.Written

/-! # Reading numbers

    A written number is read as itself: a whole number as a whole one, and a double
    as that double, under the sign of its zero too.

    A number ends where it cannot go on, so this holds only in front of what ends a
    value in a document. There, whole numbers and doubles are told apart by the
    point or the power of ten that every finite double has.

    * `EndsValue`: what may stand behind a value.
    * `scanToken?_int`, `scanToken?_float`: which tokens written numbers are.
-/

namespace SymbolStyle.Json

open Decimal

/-- What may stand behind a value: nothing, a comma or a closing bracket. -/
def EndsValue (rest : List Char) : Prop := ∀ c ∈ rest.head?, c ∈ [',', ']', '}']

theorem endsValue_nil : EndsValue [] := by simp [EndsValue]

theorem endsValue_cons {c : Char} (h : c ∈ [',', ']', '}']) (rest : List Char) :
    EndsValue (c :: rest) := by simpa [EndsValue] using h

/-- What ends a value does not go on with a number. -/
theorem EndsValue.stops {rest : List Char} (h : EndsValue rest) :
    ∀ c ∈ rest.head?, ¬ c.isDigit ∧ c ≠ '.' ∧ c ≠ 'e' ∧ c ≠ 'E' := by
  intro c hc
  have hmark := h c hc
  simp only [List.mem_cons, List.not_mem_nil, or_false] at hmark
  rcases hmark with rfl | rfl | rfl <;> decide

/-! ## Parts of a number -/

section Parts

variable {whole places rest : List Char}

/-- Digits are taken as a whole part if no zero stands in front of others. -/
theorem scanWhole?_append (hwhole : whole ≠ []) (hdigits : ∀ c ∈ whole, c.isDigit)
    (hleading : whole.head? = some '0' → whole = ['0'])
    (hrest : ∀ c ∈ rest.head?, ¬ c.isDigit) : scanWhole? (whole ++ rest) = some (whole, rest) := by
  obtain ⟨c, cs, rfl⟩ := List.exists_cons_of_ne_nil hwhole
  by_cases hzero : c = '0'
  · subst hzero
    rw [hleading rfl]
    rfl
  · have hspan := span_digits hdigits hrest
    unfold scanWhole?
    split
    · next heq => exact absurd (List.cons.inj heq).1 hzero
    · rw [hspan]
      rfl

theorem scanFraction_point (hplaces : places ≠ []) (hdigits : ∀ c ∈ places, c.isDigit)
    (hrest : ∀ c ∈ rest.head?, ¬ c.isDigit) :
    scanFraction ('.' :: (places ++ rest)) = (places, rest) := by
  rw [scanFraction, span_digits hdigits hrest]
  exact if_neg hplaces

theorem scanFraction_of_ne (h : ∀ c ∈ rest.head?, c ≠ '.') : scanFraction rest = ([], rest) := by
  unfold scanFraction
  split
  · exact absurd rfl (h '.' rfl)
  · rfl

theorem scanPower_of_ne (h : ∀ c ∈ rest.head?, c ≠ 'e' ∧ c ≠ 'E') :
    scanPower rest = (none, rest) := by
  cases rest with
  | nil => rfl
  | cons c rest =>
    obtain ⟨hsmall, hcapital⟩ := h c rfl
    simp [scanPower, hsmall, hcapital]

/-- The power of ten of the exponential layout. -/
theorem scanPower_exponent (power : Int) (zeros : Nat) (hrest : ∀ c ∈ rest.head?, ¬ c.isDigit) :
    scanPower ('e' :: (if power < 0 then '-' else '+')
      :: (List.replicate zeros '0' ++ digits power.natAbs ++ rest)) = (some power, rest) := by
  have hdigits : ∀ c ∈ List.replicate zeros '0' ++ digits power.natAbs, c.isDigit := by
    rw [List.forall_mem_append]
    exact ⟨fun c => isDigit_of_mem_zeros, fun c => isDigit_of_mem_digits⟩
  have hnil : List.replicate zeros '0' ++ digits power.natAbs ≠ [] :=
    List.append_ne_nil_of_right_ne_nil _ (digits_ne_nil _)
  have hspan := span_digits hdigits hrest
  have hread := ofDigitChars_zeros_append zeros power.natAbs
  by_cases hnegative : power < 0
  · have hpower : -(power.natAbs : Int) = power := by omega
    rw [if_pos hnegative, scanPower]
    simp only [takeSign, hspan, hread, ne_eq, hnil, not_false_eq_true, true_or, and_self, if_true,
      hpower]
  · have hpower : (power.natAbs : Int) = power := by omega
    rw [if_neg hnegative, scanPower]
    simp only [takeSign, hspan, hread, ne_eq, hnil, not_false_eq_true, true_or, and_self, if_true,
      Bool.false_eq_true, if_false, hpower]

end Parts

/-! ## Unsigned numbers -/

section Unsigned

variable {text afterWhole afterFraction rest whole fraction : List Char} {power : Option Int}

/-- A number with a fraction or a power of ten is a double. -/
theorem scanNumber?_eq_float (negative : Bool) (hwhole : scanWhole? text = some (whole, afterWhole))
    (hfraction : scanFraction afterWhole = (fraction, afterFraction))
    (hpower : scanPower afterFraction = (power, rest)) (h : fraction = [] → power ≠ none) :
    scanNumber? negative text = some
      (.scalar (.float ((ofParts whole fraction (power.getD 0)).toDouble negative)), rest) := by
  have hparts : ¬ (fraction = [] ∧ power = none) := fun hnone => h hnone.1 hnone.2
  simp only [scanNumber?, hwhole, hfraction, hpower, Option.bind_eq_bind, Option.bind_some,
    if_neg hparts]
  rfl

/-- A number that is not too long has no more digits than are read. -/
theorem length_digits_le {n : Nat} (h : n < Value.longInt) : (digits n).length ≤ digitLimit := by
  have hlimit : 0 < 4300 := by decide
  unfold Value.longInt at h
  unfold digitLimit
  -- The power itself is too large to be computed.
  generalize 4300 = limit at *
  exact (Nat.length_toDigits_le_iff (by decide) hlimit).2 h

/-- Digits write a number below the power of ten of as many zeros. -/
theorem ofDigitChars_lt {ds : List Char} (h : ∀ c ∈ ds, c.isDigit) :
    Nat.ofDigitChars 10 ds 0 < 10 ^ ds.length := by
  induction ds using List.reverseRecOn with
  | nil => simp
  | append_singleton ds c ih =>
    rw [List.forall_mem_append, List.forall_mem_singleton, Char.isDigit_iff_toNat] at h
    have hdigit : c.toNat - '0'.toNat ≤ 9 := Nat.sub_le_sub_right h.2.2 _
    have hfirst := ih h.1
    rw [Nat.ofDigitChars_append, Nat.ofDigitChars_cons, Nat.ofDigitChars_nil, List.length_append,
      List.length_singleton, Nat.pow_succ]
    omega

/-- Digits that are not too many write a number that is not too long. -/
theorem ofDigitChars_lt_longInt {ds : List Char} (h : ∀ c ∈ ds, c.isDigit)
    (hlength : ds.length ≤ digitLimit) : Nat.ofDigitChars 10 ds 0 < Value.longInt := by
  have hlt := ofDigitChars_lt h
  unfold Value.longInt
  unfold digitLimit at hlength
  generalize 4300 = limit at *
  exact hlt.trans_le (Nat.pow_le_pow_right (by decide) hlength)

/-- Digits alone are a whole number. -/
theorem scanNumber?_digits {n : Nat} (hshort : n < Value.longInt) (negative : Bool)
    (hrest : EndsValue rest) : scanNumber? negative (digits n ++ rest)
      = some (.scalar (.int (if negative then -n else n)), rest) := by
  have hleading : (digits n).head? = some '0' → digits n = ['0'] := by
    rcases Nat.eq_zero_or_pos n with rfl | hpos
    · intro _
      rfl
    · intro hzero
      exact absurd hzero (head?_digits hpos)
  have hwhole := scanWhole?_append (digits_ne_nil n) (fun c => isDigit_of_mem_digits) hleading
    fun c hc => (hrest.stops c hc).1
  have hfraction := scanFraction_of_ne fun c hc => (hrest.stops c hc).2.1
  have hpower := scanPower_of_ne fun c hc => (hrest.stops c hc).2.2
  have hcount : ¬ digitLimit < (digits n).length := Nat.not_lt.2 (length_digits_le hshort)
  simp only [scanNumber?, hwhole, hfraction, hpower, Option.bind_eq_bind, Option.bind_some,
    and_self, if_true, if_neg hcount, ofDigitChars_digits]
  rfl

/-- The shortest decimal of a double is read as the double. -/
theorem scanNumber?_shortest (m : Magnitude) (negative : Bool) (hrest : EndsValue rest) :
    scanNumber? negative (m.shortest.compact ++ rest)
      = some (.scalar (.float (.finite negative m)), rest) := by
  have hend : ∀ c ∈ rest.head?, ¬ c.isDigit := fun c hc => (hrest.stops c hc).1
  unfold compact
  split
  · obtain ⟨whole, places, heq, hplain⟩ := exists_isPlainNumeral_positional m.shortest_eq_or
    obtain ⟨hwhole, hplaces⟩ := List.forall_mem_append.1 hplain.isDigit
    have hvalue : (ofParts whole places 0).value = m.shortest.value := by
      rw [value_ofParts hplain, ← heq, denoted_positional]
    have hnumber := scanNumber?_eq_float negative
      (scanWhole?_append hplain.whole_ne_nil hwhole hplain.leading (by simp))
      (scanFraction_point hplain.places_ne_nil hplaces hend)
      (scanPower_of_ne fun c hc => (hrest.stops c hc).2.2)
      (fun hnil => absurd hnil hplain.places_ne_nil)
    rw [heq, List.append_assoc, List.cons_append, hnumber, Option.getD_none, toDouble_congr hvalue,
      Magnitude.toDouble_shortest]
  · obtain ⟨first, places, zeros, heq, hdigits, hparts⟩ := m.shortest.exponential_eq
    obtain ⟨hfirst, hplaces⟩ := List.forall_mem_cons.1 hdigits
    have hwhole : ∀ {behind : List Char}, (∀ c ∈ behind.head?, ¬ c.isDigit) →
        scanWhole? (first :: behind) = some ([first], behind) := fun hbehind =>
      scanWhole?_append (List.cons_ne_nil first []) (by simpa using hfirst)
        (fun hzero => by rw [Option.some.inj hzero]) hbehind
    have hpower := scanPower_exponent m.shortest.leadExponent zeros hend
    have hdouble : ((ofParts [first] places m.shortest.leadExponent).toDouble negative)
        = .finite negative m := by rw [hparts, Magnitude.toDouble_shortest]
    rw [heq]
    by_cases hnil : places = []
    · subst hnil
      have hnumber := scanNumber?_eq_float negative (hwhole (by simp)) (scanFraction_of_ne (by simp))
        hpower (by simp)
      simpa [hdouble] using hnumber
    · have hnumber := scanNumber?_eq_float negative (hwhole (by simp))
        (scanFraction_point hnil hplaces (by simp)) hpower (by simp)
      simpa [hdouble, hnil] using hnumber

end Unsigned

/-! ## Signed numbers -/

/-- No word starts like a number. -/
theorem scanWord?_signed {c : Char} (hc : c.isDigit) (negative : Bool) (cs : List Char) :
    scanWord? (Double.signed negative (c :: cs)) = none := by
  rw [scanWord?, List.findSome?_eq_none_iff]
  intro entry hentry
  rw [Option.map_eq_none_iff, Option.eq_none_iff_forall_ne_some]
  intro rest hrest
  have heq := List.append_eq_of_isPrefixOf?_eq_some hrest
  simp only [words, List.mem_cons, List.not_mem_nil, or_false] at hentry
  rcases hentry with rfl | rfl | rfl | rfl | rfl | rfl <;> cases negative <;>
    simp [Double.signed] at heq <;> simp [← heq.1] at hc

/-- A number under its sign is the token of the number without it. -/
theorem scanToken?_signed {text : List Char} (htext : ∃ c cs, text = c :: cs ∧ c.isDigit)
    (negative : Bool) : scanToken? (Double.signed negative text) = scanNumber? negative text := by
  obtain ⟨c, cs, rfl, hc⟩ := htext
  have hword := scanWord?_signed hc negative cs
  cases negative with
  | true =>
    show (scanWord? ('-' :: c :: cs)).or (scanNumber? true (c :: cs)) = _
    rw [show scanWord? ('-' :: c :: cs) = none from hword, Option.none_or]
  | false =>
    have hne : ∀ d, d.isDigit = false → c ≠ d := by
      rintro d hd rfl
      rw [hc] at hd
      cases hd
    have hmark : mark? c = none := by
      unfold mark?
      split <;> first | rfl | exact absurd hc (by decide)
    show scanToken? (c :: cs) = scanNumber? false (c :: cs)
    rw [scanToken?, hmark]
    · show (scanWord? (c :: cs)).or _ = _
      rw [show scanWord? (c :: cs) = none from hword, Option.none_or, if_neg (hne '-' (by decide))]
    · exact hne '"' (by decide)

theorem exists_cons_digits (n : Nat) (rest : List Char) :
    ∃ c cs, digits n ++ rest = c :: cs ∧ c.isDigit := by
  obtain ⟨c, cs, heq⟩ := List.exists_cons_of_ne_nil (digits_ne_nil n)
  exact ⟨c, cs ++ rest, by rw [heq, List.cons_append],
    isDigit_of_mem_digits (heq ▸ List.mem_cons_self)⟩

theorem exists_cons_compact (m : Magnitude) (rest : List Char) :
    ∃ c cs, m.shortest.compact ++ rest = c :: cs ∧ c.isDigit := by
  have hhead : ∃ c cs, m.shortest.compact = c :: cs ∧ c.isDigit := by
    unfold compact
    split
    · obtain ⟨whole, places, heq, hplain⟩ := exists_isPlainNumeral_positional m.shortest_eq_or
      rw [heq]
      exact hplain.exists_cons
    · exact m.shortest.exists_cons_exponential
  obtain ⟨c, cs, heq, hc⟩ := hhead
  exact ⟨c, cs ++ rest, by rw [heq, List.cons_append], hc⟩

/-- A written whole number is read as the number. -/
theorem scanToken?_int {n : Int} (hshort : n.natAbs < Value.longInt) {rest : List Char}
    (hrest : EndsValue rest) :
    scanToken? (Value.writeInt n ++ rest) = some (.scalar (.int n), rest) := by
  have hsigned : Value.writeInt n ++ rest
      = Double.signed (n < 0) (digits n.natAbs ++ rest) := by
    cases n with
    | ofNat n => rfl
    | negSucc n =>
      rw [decide_eq_true (Int.negSucc_lt_zero n)]
      rfl
  rw [hsigned, scanToken?_signed (exists_cons_digits _ _), scanNumber?_digits hshort _ hrest]
  have hvalue : (if (decide (n < 0)) = true then -(n.natAbs : Int) else n.natAbs) = n := by
    simp only [decide_eq_true_eq]
    split <;> omega
  rw [hvalue]

/-- A written finite double is read as the double. -/
theorem scanToken?_finite (negative : Bool) (m : Magnitude) {rest : List Char}
    (hrest : EndsValue rest) :
    scanToken? (Double.signed negative m.shortest.compact ++ rest)
      = some (.scalar (.float (.finite negative m)), rest) := by
  have hsigned : Double.signed negative m.shortest.compact ++ rest
      = Double.signed negative (m.shortest.compact ++ rest) := by
    cases negative <;> rfl
  rw [hsigned, scanToken?_signed (exists_cons_compact m rest), scanNumber?_shortest m negative hrest]

end SymbolStyle.Json

import SymbolStyle.Json.Token
import SymbolStyle.Proofs.Text.Quoted

/-! # Reading quotations

    A text in ASCII quotation is read as the text, whatever comes behind the
    quotation.

    The scanner undoes the escapes but leaves a character above U+FFFF as a pair of
    surrogates, and pairs are joined afterwards. So reading is stated in two steps,
    with the UTF-16 units of a character (`unitsOf`) between them.

    * `scanUnits_quotation`: the units of a quoted text.
    * `joinUnits_unitsOf`: what they are joined to.
    * `scanToken?_quoteAscii`: both together.
-/

namespace SymbolStyle.Json

open Text

/-- The UTF-16 units of a character: one, or a pair of surrogates. -/
def unitsOf (c : Char) : List Nat :=
  if c.toNat < 0x10000 then [c.toNat]
  else [0xd800 + (c.toNat - 0x10000) / 0x400, 0xdc00 + (c.toNat - 0x10000) % 0x400]

/-- No character is a surrogate. -/
theorem toNat_bounds (c : Char) :
    c.toNat < 0xd800 ∨ 0xdfff < c.toNat ∧ c.toNat < 0x110000 := c.valid

/-! ## Escapes -/

section Scan

variable {rest after : List Char} {units : List Nat}

/-- Four digits are read as the unit that they write. -/
theorem scanUnits_code {n : Nat} (hn : n < 0x10000) (h : scanUnits rest = some (units, after)) :
    scanUnits ('\\' :: 'u' :: hex 4 n ++ rest) = some (n :: units, after) := by
  have hunit : hexUnit? (n / 0x1000).digitChar (n / 0x100 % 0x10).digitChar
      (n / 0x10 % 0x10).digitChar (n % 0x10).digitChar = some n := by
    rw [hexUnit?, hexDigit?_digitChar (by omega), hexDigit?_digitChar (by omega),
      hexDigit?_digitChar (by omega), hexDigit?_digitChar (by omega)]
    show some _ = some n
    rw [Option.some.injEq]
    omega
  rw [hex_four hn]
  show scanUnits ('\\' :: 'u' :: _ :: _ :: _ :: _ :: rest) = _
  rw [scanUnits, hunit, h]
  rfl

/-- What does not need an escape is read as itself. -/
theorem scanUnits_self {c : Char} (hquote : c ≠ '"') (hescape : c ≠ '\\') (hc : 0x20 ≤ c.toNat)
    (h : scanUnits rest = some (units, after)) :
    scanUnits (c :: rest) = some (c.toNat :: units, after) := by
  have hplain : ¬ (c = '\\' ∨ c.toNat < 0x20) := by
    rintro (rfl | hlow)
    · exact hescape rfl
    · omega
  rw [scanUnits]
  · rw [if_neg hplain, h]
    rfl
  all_goals simp [hquote, hescape]

/-- An escaped character is read as its units. -/
theorem scanUnits_escapeAscii (c : Char) (h : scanUnits rest = some (units, after)) :
    scanUnits (escapeAscii c ++ rest) = some (unitsOf c ++ units, after) := by
  unfold escapeAscii
  split
  case h_8 hquote hescape _ _ _ _ _ =>
    dsimp only
    split_ifs with hself hsmall
    · have hunits : unitsOf c = [c.toNat] := by
        rw [unitsOf, if_pos]
        omega
      rw [hunits]
      exact scanUnits_self hquote hescape hself.1 h
    · rw [unitsOf, if_pos hsmall]
      exact scanUnits_code hsmall h
    · -- The two halves of a pair stand one after the other.
      have hbounds := toNat_bounds c
      rw [unitsOf, if_neg hsmall, List.append_assoc]
      exact scanUnits_code (by omega) (scanUnits_code (by omega) h)
  all_goals
    simp [scanUnits, escaped?, h]
    rfl

/-- A quoted text is read up to the closing quote. -/
theorem scanUnits_quotation (cs rest : List Char) :
    scanUnits (cs.flatMap escapeAscii ++ '"' :: rest) = some (cs.flatMap unitsOf, rest) := by
  induction cs with
  | nil => rw [List.flatMap_nil, List.flatMap_nil, List.nil_append, scanUnits]
  | cons c cs ih =>
    rw [List.flatMap_cons, List.flatMap_cons, List.append_assoc]
    exact scanUnits_escapeAscii c ih

end Scan

/-! ## Units -/

/-- A unit that is no surrogate stands for a character by itself. -/
theorem joinUnits_cons {n : Nat} (hhigh : isHighSurrogate n = false)
    (hlow : isLowSurrogate n = false) (units : List Nat) :
    joinUnits (n :: units) = Char.ofNat n :: joinUnits units := by
  cases units with
  | nil => simp [joinUnits, hhigh, hlow]
  | cons m units => simp [joinUnits, hhigh, hlow]

/-- A character is read back from its units. -/
theorem joinUnits_unitsOf (c : Char) (units : List Nat) :
    joinUnits (unitsOf c ++ units) = c :: joinUnits units := by
  unfold unitsOf
  split
  · have hbounds := toNat_bounds c
    have hhigh : isHighSurrogate c.toNat = false := by
      simp only [isHighSurrogate, Bool.and_eq_false_iff, decide_eq_false_iff_not]
      omega
    have hlow : isLowSurrogate c.toNat = false := by
      simp only [isLowSurrogate, Bool.and_eq_false_iff, decide_eq_false_iff_not]
      omega
    rw [List.singleton_append, joinUnits_cons hhigh hlow, Char.ofNat_toNat]
  · next hlarge =>
    have hbounds := toNat_bounds c
    -- The pair counts from the first character that needs one.
    have hhigh : isHighSurrogate (0xd800 + (c.toNat - 0x10000) / 0x400) := by
      simp only [isHighSurrogate, Bool.and_eq_true, decide_eq_true_eq]
      omega
    have hlow : isLowSurrogate (0xdc00 + (c.toNat - 0x10000) % 0x400) := by
      simp only [isLowSurrogate, Bool.and_eq_true, decide_eq_true_eq]
      omega
    have hsum : 0x10000 + (0xd800 + (c.toNat - 0x10000) / 0x400 - 0xd800) * 0x400
        + (0xdc00 + (c.toNat - 0x10000) % 0x400 - 0xdc00) = c.toNat := by omega
    rw [List.cons_append, List.singleton_append, joinUnits, hhigh, hlow, hsum, Char.ofNat_toNat]
    rfl

theorem joinUnits_flatMap_unitsOf (cs : List Char) : joinUnits (cs.flatMap unitsOf) = cs := by
  induction cs with
  | nil => rfl
  | cons c cs ih => rw [List.flatMap_cons, joinUnits_unitsOf, ih]

/-- A quotation is read as the text that it quotes. -/
theorem scanToken?_quoteAscii (text : String) (rest : List Char) :
    scanToken? (quoteAscii text.toList ++ rest) = some (.scalar (.string text), rest) := by
  rw [quoteAscii, List.append_assoc, List.cons_append, scanToken?, List.singleton_append,
    scanUnits_quotation, Option.map_some]
  dsimp only
  rw [joinUnits_flatMap_unitsOf, String.ofList_toList]

end SymbolStyle.Json

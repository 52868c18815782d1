import Mathlib.Data.List.Forall2
import Mathlib.Data.List.TakeWhile
import SymbolStyle.Text.Blank
import SymbolStyle.Text.Hexadecimal
import SymbolStyle.Text.LowerCase

/-! # Spellings of a text

    What trimming a text and bringing it into lower case leaves of the blanks
    around it and of the case of its letters.

    * `trim_append`: nothing is left of the blanks.
    * `SameSpelling`: two texts that differ at most in the case of their letters.
      They are trimmed alike, and in lower case they are equal or both hold a
      character that is no hexadecimal digit (`SameSpelling.lower_eq_or`).
-/

namespace SymbolStyle.Text

variable {c c' : Char} {cs cs' : List Char}

/-! ## Blanks -/

/-- Trimming drops what surrounds a text if it is to be dropped. -/
theorem trim_append {drop : Char → Bool} {before after : List Char}
    (hbefore : ∀ c ∈ before, drop c) (hafter : ∀ c ∈ after, drop c) :
    trim drop (before ++ cs ++ after) = trim drop cs := by
  have hreverse : ∀ c ∈ after.reverse, drop c := fun c hc => hafter c (List.mem_reverse.1 hc)
  rw [trim, trim, List.append_assoc, List.dropWhile_append_of_pos hbefore, List.dropWhile_append]
  cases hkept : cs.dropWhile drop with
  | nil =>
    rw [List.isEmpty_nil, if_pos rfl, List.dropWhile_eq_nil_iff.2 hafter]
  | cons first rest =>
    rw [List.isEmpty_cons, if_neg Bool.false_ne_true, List.reverse_append,
      List.dropWhile_append_of_pos hreverse]

theorem isBlank_eq_false
    (h : 0x20 < c.toNat ∧ c.toNat < 0x85 ∨ 0xa0 < c.toNat ∧ c.toNat < 0x1680) :
    isBlank c = false := by
  rw [Bool.eq_false_iff]
  simp only [isBlank, ne_eq, Bool.or_eq_true, Bool.and_eq_true, decide_eq_true_eq, beq_iff_eq]
  omega

/-! ## Letters -/

theorem hexDigit?_eq_none_iff : hexDigit? c = none ↔
    ¬ (48 ≤ c.toNat ∧ c.toNat ≤ 57 ∨ 97 ≤ c.toNat ∧ c.toNat ≤ 102 ∨
      65 ≤ c.toNat ∧ c.toNat ≤ 70) := by
  have hdigit : ('0' ≤ c ∧ c ≤ '9') ↔ 48 ≤ c.toNat ∧ c.toNat ≤ 57 := Iff.rfl
  have hlower : ('a' ≤ c ∧ c ≤ 'f') ↔ 97 ≤ c.toNat ∧ c.toNat ≤ 102 := Iff.rfl
  have hupper : ('A' ≤ c ∧ c ≤ 'F') ↔ 65 ≤ c.toNat ∧ c.toNat ≤ 70 := Iff.rfl
  unfold hexDigit?
  simp only [hdigit, hlower, hupper]
  split_ifs with h1 h2 h3
  · simp [h1]
  · simp [h2]
  · simp [h3]
  · simp [h1, h2, h3]

/-- What the lower case of a character has in common with it. -/
structure IsLowerCase (c : Char) (lowered : List Char) : Prop where
  ne_nil : lowered ≠ []
  isBlank_eq : ∀ x ∈ lowered, isBlank x = isBlank c
  eq_hash : '#' ∈ lowered → c = '#'
  no_digit : hexDigit? c = none → ∃ x ∈ lowered, hexDigit? x = none

theorem IsLowerCase.self : IsLowerCase c [c] where
  ne_nil := List.cons_ne_nil _ _
  isBlank_eq x hx := by rw [List.mem_singleton.1 hx]
  eq_hash h := (List.mem_singleton.1 h).symm
  no_digit h := ⟨c, List.mem_singleton_self c, h⟩

/-- Capitals of ASCII and of the characters up to U+00FF have their lower case
    32 characters later. -/
theorem IsLowerCase.shift
    (h : 65 ≤ c.toNat ∧ c.toNat ≤ 90 ∨ 192 ≤ c.toNat ∧ c.toNat ≤ 222) :
    IsLowerCase c [Char.ofNat (c.toNat + 32)] := by
  obtain ⟨x, hx⟩ : ∃ x, x = Char.ofNat (c.toNat + 32) := ⟨_, rfl⟩
  have hnat : x.toNat = c.toNat + 32 := by
    have hvalid : (c.toNat + 32).isValidChar := .inl (by omega)
    rw [hx, Char.ofNat, dif_pos hvalid]
    rfl
  rw [← hx]
  have hblank : isBlank x = false := isBlank_eq_false (by omega)
  have hblank' : isBlank c = false := isBlank_eq_false (by omega)
  refine ⟨List.cons_ne_nil _ _, fun y hy => ?_, fun hhash => ?_, fun hdigit => ?_⟩
  · rw [List.mem_singleton.1 hy, hblank, hblank']
  · have hlow : ('#' : Char).toNat = 35 := rfl
    rw [List.mem_singleton.1 hhash] at hlow
    omega
  · refine ⟨x, List.mem_singleton_self x, hexDigit?_eq_none_iff.2 ?_⟩
    have hnot := hexDigit?_eq_none_iff.1 hdigit
    omega

/-- Single characters are tested one by one. -/
theorem IsLowerCase.of_tests {x : Char} {rest : List Char}
    (hblank : (x :: rest).all fun x => isBlank x == isBlank c)
    (hhash : (x :: rest).contains '#' = false)
    (hdigit : (x :: rest).any fun x => (hexDigit? x).isNone) : IsLowerCase c (x :: rest) where
  ne_nil := List.cons_ne_nil _ _
  isBlank_eq y hy := eq_of_beq (List.all_eq_true.1 hblank y hy)
  eq_hash hmem := by
    rw [← List.contains_iff_mem, hhash] at hmem
    cases hmem
  no_digit _ := by
    obtain ⟨y, hy, hnone⟩ := List.any_eq_true.1 hdigit
    exact ⟨y, hy, Option.isNone_iff_eq_none.1 hnone⟩

theorem isLowerCase_lowerChar (c : Char) : IsLowerCase c (lowerChar c) := by
  unfold lowerChar
  split
  · next h => exact .shift (.inl h)
  · split
    · next h => exact .shift (.inr ⟨h.1, h.2.1⟩)
    · split
      case h_6 => exact .self
      all_goals exact .of_tests rfl rfl rfl

/-- Neither a blank nor part of a hexadecimal notation. -/
structure IsForeign (c : Char) : Prop where
  not_blank : isBlank c = false
  not_digit : hexDigit? c = none
  ne_hash : c ≠ '#'

/-- One letter, in upper or in lower case. Foreign characters have no case here,
    so any two of them count as one letter. -/
def SameLetter (c c' : Char) : Prop := lowerChar c = lowerChar c' ∨ IsForeign c ∧ IsForeign c'

theorem SameLetter.isBlank_eq (h : SameLetter c c') : isBlank c = isBlank c' := by
  rcases h with heq | ⟨hc, hc'⟩
  · obtain ⟨x, hx⟩ := List.exists_mem_of_ne_nil _ (isLowerCase_lowerChar c).ne_nil
    rw [← (isLowerCase_lowerChar c).isBlank_eq x hx,
      (isLowerCase_lowerChar c').isBlank_eq x (heq ▸ hx)]
  · rw [hc.not_blank, hc'.not_blank]

theorem SameLetter.eq_hash (h : SameLetter '#' c') : c' = '#' := by
  rcases h with heq | ⟨hhash, -⟩
  · apply (isLowerCase_lowerChar c').eq_hash
    rw [← heq]
    exact List.mem_singleton_self '#'
  · exact absurd rfl hhash.ne_hash

/-- Two texts that differ at most in the case of their letters. -/
def SameSpelling (cs cs' : List Char) : Prop := List.Forall₂ SameLetter cs cs'

namespace SameSpelling

theorem dropWhile (h : SameSpelling cs cs') :
    SameSpelling (cs.dropWhile isBlank) (cs'.dropWhile isBlank) := by
  induction h with
  | nil => exact .nil
  | @cons c c' cs cs' hletter hrest ih =>
    rw [List.dropWhile_cons, List.dropWhile_cons, ← hletter.isBlank_eq]
    split
    · exact ih
    · exact .cons hletter hrest

theorem trim (h : SameSpelling cs cs') :
    SameSpelling (trim isBlank cs) (trim isBlank cs') :=
  List.forall₂_reverse_iff.2 (dropWhile (List.forall₂_reverse_iff.2 h.dropWhile))

/-- In lower case the texts are equal, unless neither consists of digits. -/
theorem lower_eq_or (h : SameSpelling cs cs') : lower cs = lower cs' ∨
    (∃ d ∈ lower cs, hexDigit? d = none) ∧ ∃ d ∈ lower cs', hexDigit? d = none := by
  induction h with
  | nil => exact .inl rfl
  | @cons c c' cs cs' hletter _ ih =>
    simp only [lower, List.flatMap_cons, List.mem_append] at ih ⊢
    rcases hletter with heq | ⟨hc, hc'⟩
    · rcases ih with hrest | ⟨⟨d, hd, hnone⟩, d', hd', hnone'⟩
      · exact .inl (by rw [heq, hrest])
      · exact .inr ⟨⟨d, .inr hd, hnone⟩, d', .inr hd', hnone'⟩
    · obtain ⟨d, hd, hnone⟩ := (isLowerCase_lowerChar c).no_digit hc.not_digit
      obtain ⟨d', hd', hnone'⟩ := (isLowerCase_lowerChar c').no_digit hc'.not_digit
      exact .inr ⟨⟨d, .inl hd, hnone⟩, d', .inl hd', hnone'⟩

end SameSpelling

/-- A text starts with `#` exactly if it does so in lower case. -/
theorem lower_eq_hash_cons_iff {ds : List Char} :
    lower cs = '#' :: ds ↔ ∃ rest, cs = '#' :: rest ∧ ds = lower rest := by
  constructor
  · intro h
    cases cs with
    | nil => cases h
    | cons c rest =>
      obtain ⟨x, xs, hx⟩ := List.exists_cons_of_ne_nil (isLowerCase_lowerChar c).ne_nil
      rw [lower, List.flatMap_cons, hx, List.cons_append, List.cons.injEq] at h
      obtain rfl : c = '#' := (isLowerCase_lowerChar c).eq_hash (by simp [hx, h.1])
      obtain ⟨-, rfl⟩ : x = '#' ∧ xs = [] := by simpa [lowerChar] using hx.symm
      exact ⟨rest, rfl, h.2.symm⟩
  · rintro ⟨rest, rfl, rfl⟩
    rfl

end SymbolStyle.Text

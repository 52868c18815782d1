import Mathlib.Data.List.Basic
import SymbolStyle.Text.Quoted

/-! # What quoted texts are made of

    A quoted text holds no character that would not show on a line of text, whatever
    was quoted. In ASCII notation and around bytes it consists of the visible
    characters of ASCII; in plain notation it may hold other printable ones.

    * `isVisible_of_mem_quoteAscii`, `isVisible_of_mem_quoteBytes`,
      `isPrintable_of_mem_quotePlain`: the characters of the three notations.
    * `hex_four`: the four digits with which a UTF-16 unit is escaped.
-/

namespace SymbolStyle.Text

/-- The characters of ASCII that show: those from the space to the tilde. -/
def IsVisible (c : Char) : Prop := 0x20 ≤ c.toNat ∧ c.toNat < 0x7f

instance : DecidablePred IsVisible := fun _ => inferInstanceAs (Decidable (_ ∧ _))

/-- What is to hold of all characters of a text is tested on these. All characters
    there are could be tested as well, but they are too many. -/
instance (priority := 2000) decidableForallMem (p : Char → Prop) [DecidablePred p] (cs : List Char) :
    Decidable (∀ c ∈ cs, p c) := List.decidableBAll p cs

theorem isPrintable_of_isVisible {c : Char} (h : IsVisible c) : isPrintable c := by
  rw [isPrintable, if_pos h.2]
  exact decide_eq_true h.1

/-! ## Hexadecimal digits -/

theorem hexDigit?_digitChar {n : Nat} (h : n < 16) : hexDigit? n.digitChar = some n := by
  revert n
  decide

theorem isVisible_digitChar {n : Nat} (h : n < 16) : IsVisible n.digitChar := by
  revert n
  decide

theorem hex_one {n : Nat} (h : n < 16) : hex 1 n = [n.digitChar] := by
  rw [hex, Nat.toDigits_of_lt_base h]
  rfl

/-- The last digit and those in front of it. -/
theorem hex_add_two (width n : Nat) :
    hex (width + 2) n = hex (width + 1) (n / 16) ++ [(n % 16).digitChar] := by
  unfold hex
  rw [Nat.toDigits_eq_if (by decide) (n := n)]
  split
  · next hsmall =>
    -- A zero is filled in for the digits in front.
    rw [Nat.div_eq_of_lt hsmall, Nat.mod_eq_of_lt hsmall, Nat.toDigits_of_lt_base (by decide)]
    simp [List.replicate_succ']
  · next hlarge =>
    have hcount : width + 2 - ((Nat.toDigits 16 (n / 16)).length + 1)
        = width + 1 - (Nat.toDigits 16 (n / 16)).length := by omega
    simp [hcount]

/-- Four digits write a UTF-16 unit. -/
theorem hex_four {n : Nat} (h : n < 0x10000) :
    hex 4 n = [(n / 0x1000).digitChar, (n / 0x100 % 0x10).digitChar,
      (n / 0x10 % 0x10).digitChar, (n % 0x10).digitChar] := by
  have hfirst : n / 16 / 16 / 16 < 16 := by omega
  have hsecond : n / 16 / 16 = n / 0x100 := by omega
  have hthird : n / 16 / 16 / 16 = n / 0x1000 := by omega
  rw [hex_add_two, hex_add_two, hex_add_two, hex_one hfirst, hthird, hsecond]
  rfl

theorem isVisible_of_mem_toDigits (n : Nat) : ∀ c ∈ Nat.toDigits 16 n, IsVisible c := by
  induction n using Nat.strongRecOn with
  | ind n ih =>
    rw [Nat.toDigits_eq_if (by decide)]
    split
    · next hsmall => exact List.forall_mem_singleton.2 (isVisible_digitChar hsmall)
    · next hlarge =>
      rw [List.forall_mem_append, List.forall_mem_singleton]
      exact ⟨ih (n / 16) (by omega), isVisible_digitChar (Nat.mod_lt n (by decide))⟩

/-- An escape with a code: a backslash, a mark and digits. -/
theorem isVisible_of_mem_code {mark : Char} (hmark : IsVisible mark) (width n : Nat) :
    ∀ d ∈ '\\' :: mark :: hex width n, IsVisible d := by
  unfold hex
  simp only [List.forall_mem_cons, List.forall_mem_append]
  refine ⟨by decide, hmark, fun d hd => ?_, isVisible_of_mem_toDigits n⟩
  rw [List.eq_of_mem_replicate hd]
  decide

/-! ## Quotations -/

/-- What holds of the quotes and of all escapes holds of the quotation. -/
theorem forall_mem_quotation {p : Char → Prop} {quote : Char} {escape : Char → List Char}
    (cs : List Char) (hquote : p quote) (hescape : ∀ c, ∀ d ∈ escape c, p d) :
    ∀ d ∈ quote :: cs.flatMap escape ++ [quote], p d := by
  rw [List.forall_mem_append, List.forall_mem_cons, List.forall_mem_singleton,
    List.forall_mem_flatMap]
  exact ⟨⟨hquote, fun c _ => hescape c⟩, hquote⟩

theorem isVisible_of_mem_escapeAscii (c : Char) : ∀ d ∈ escapeAscii c, IsVisible d := by
  unfold escapeAscii
  split
  case h_8 =>
    -- What is written as itself is visible, and all else is written in units.
    dsimp only
    split_ifs with hself hsmall
    · exact List.forall_mem_singleton.2 hself
    · exact isVisible_of_mem_code (by decide) 4 _
    · rw [List.forall_mem_append]
      exact ⟨isVisible_of_mem_code (by decide) 4 _, isVisible_of_mem_code (by decide) 4 _⟩
  all_goals decide

theorem isVisible_of_mem_quoteAscii (cs : List Char) : ∀ d ∈ quoteAscii cs, IsVisible d :=
  forall_mem_quotation cs (by decide) isVisible_of_mem_escapeAscii

theorem isVisible_chooseQuote (cs : List Char) : IsVisible (chooseQuote cs) := by
  unfold chooseQuote
  split <;> decide

theorem isVisible_of_mem_escapeCommon? {quote c : Char} (hquote : IsVisible quote)
    {escape : List Char} (h : escapeCommon? quote c = some escape) :
    ∀ d ∈ escape, IsVisible d := by
  unfold escapeCommon? at h
  split at h
  · next hself =>
    obtain rfl := Option.some.inj h
    have hc : IsVisible c := by
      rcases hself with rfl | rfl
      · exact hquote
      · decide
    rw [List.forall_mem_cons, List.forall_mem_singleton]
    exact ⟨by decide, hc⟩
  · split at h
    case h_4 => cases h
    all_goals
      obtain rfl := Option.some.inj h
      decide

/-- An escape of its own comes before what else is done with a character. -/
theorem forall_mem_escape {p : Char → Prop} {quote c : Char} {other : List Char}
    (hquote : IsVisible quote) (hvisible : ∀ d, IsVisible d → p d) (hother : ∀ d ∈ other, p d) :
    ∀ d ∈ (escapeCommon? quote c).getD other, p d := by
  cases hcommon : escapeCommon? quote c with
  | none => exact hother
  | some escape =>
    intro d hd
    exact hvisible d (isVisible_of_mem_escapeCommon? hquote hcommon d hd)

theorem isPrintable_of_mem_quotePlain (cs : List Char) : ∀ d ∈ quotePlain cs, isPrintable d := by
  have hquote := isVisible_chooseQuote cs
  refine forall_mem_quotation cs (isPrintable_of_isVisible hquote) fun c => ?_
  apply forall_mem_escape hquote fun _ => isPrintable_of_isVisible
  dsimp only
  have hcode : ∀ {mark : Char}, IsVisible mark → ∀ width,
      ∀ d ∈ '\\' :: mark :: hex width c.toNat, isPrintable d := fun hmark width d hd =>
    isPrintable_of_isVisible (isVisible_of_mem_code hmark width _ d hd)
  split_ifs with hself
  · exact List.forall_mem_singleton.2 hself
  · exact hcode (by decide) 2
  · exact hcode (by decide) 4
  · exact hcode (by decide) 8

theorem isVisible_of_mem_quoteBytes (bs : List UInt8) : ∀ d ∈ quoteBytes bs, IsVisible d := by
  have hquote := isVisible_chooseQuote (bs.map fun b => Char.ofNat b.toNat)
  refine List.forall_mem_cons.2 ⟨by decide, forall_mem_quotation _ hquote fun c => ?_⟩
  apply forall_mem_escape hquote fun _ => id
  split_ifs with hself
  · exact List.forall_mem_singleton.2 hself
  · exact isVisible_of_mem_code (by decide) 2 _

end SymbolStyle.Text

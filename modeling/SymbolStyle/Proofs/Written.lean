import SymbolStyle.Proofs.Number.Numeral
import SymbolStyle.Proofs.Text.Quoted
import SymbolStyle.Sequence
import SymbolStyle.Value.Written

/-! # What written values are made of

    The text of a value holds no character that would not show on a line of text:
    only visible ASCII in JSON, and only printable characters in plain notation.

    A printer for all spellings has one such result for all of them. It asks of a
    spelling only what its words, marks and quotations are made of
    (`Spelling.IsMadeOf`).

    * `Magnitude.isVisible_of_mem_compact`: the text of a double.
    * `Value.forall_mem_write`: the text of a value.
-/

namespace SymbolStyle

open Text

/-! ## Numbers -/

theorem isVisible_of_isDigit {c : Char} (h : c.isDigit) : IsVisible c := by
  rw [Char.isDigit_iff_toNat] at h
  exact ⟨le_trans (by decide) h.1, lt_of_le_of_lt h.2 (by decide)⟩

theorem Decimal.isVisible_of_mem_digits {n : Nat} : ∀ c ∈ digits n, IsVisible c :=
  fun _ hc => isVisible_of_isDigit (isDigit_of_mem_digits hc)

theorem Decimal.isVisible_of_mem_exponential (d : Decimal) : ∀ c ∈ d.exponential, IsVisible c := by
  obtain ⟨first, places, zeros, heq, hdigits, -⟩ := d.exponential_eq
  obtain ⟨hfirst, hplaces⟩ := List.forall_mem_cons.1 fun c hc => isVisible_of_isDigit (hdigits c hc)
  have hpoint : ∀ c ∈ if places = [] then [] else '.' :: places, IsVisible c := by
    split
    · simp
    · exact List.forall_mem_cons.2 ⟨by decide, hplaces⟩
  have hsign : IsVisible (if d.leadExponent < 0 then '-' else '+') := by
    split <;> decide
  rw [heq]
  simp only [List.forall_mem_cons, List.forall_mem_append]
  refine ⟨hfirst, hpoint, by decide, hsign, fun c hc => ?_, isVisible_of_mem_digits⟩
  exact isVisible_of_isDigit (isDigit_of_mem_zeros hc)

theorem Magnitude.isVisible_of_mem_compact (m : Magnitude) :
    ∀ c ∈ m.shortest.compact, IsVisible c := by
  unfold Decimal.compact
  split
  · obtain ⟨whole, places, heq, hplain⟩ :=
      Decimal.exists_isPlainNumeral_positional m.shortest_eq_or
    obtain ⟨hwhole, hplaces⟩ := List.forall_mem_append.1 hplain.isDigit
    rw [heq, List.forall_mem_append, List.forall_mem_cons]
    exact ⟨fun c hc => isVisible_of_isDigit (hwhole c hc), by decide,
      fun c hc => isVisible_of_isDigit (hplaces c hc)⟩
  · exact m.shortest.isVisible_of_mem_exponential

theorem Double.isVisible_of_mem_signed {text : List Char} (h : ∀ c ∈ text, IsVisible c)
    (negative : Bool) : ∀ c ∈ signed negative text, IsVisible c := by
  cases negative with
  | false => exact h
  | true => exact List.forall_mem_cons.2 ⟨by decide, h⟩

/-! ## Values -/

/-- The words and marks of a spelling are visible, and its quotations consist of
    characters of a kind that visible ones belong to. -/
structure Spelling.IsMadeOf (p : Char → Prop) (spelling : Spelling) : Prop where
  visible : ∀ c, IsVisible c → p c
  word : ∀ word ∈ [spelling.null, spelling.yes, spelling.no, spelling.special.nan,
    spelling.special.infinity], ∀ c ∈ word.toList, IsVisible c
  comma : ∀ c ∈ spelling.comma, IsVisible c
  colon : ∀ c ∈ spelling.colon, IsVisible c
  quote : ∀ text, ∀ c ∈ spelling.quote text, p c

theorem Spelling.json_isMadeOf : Spelling.json.IsMadeOf IsVisible where
  visible _ := id
  word := by decide
  comma := by decide
  colon := by decide
  quote := isVisible_of_mem_quoteAscii

theorem Spelling.plain_isMadeOf : Spelling.plain.IsMadeOf fun c => isPrintable c where
  visible _ := isPrintable_of_isVisible
  word := by decide
  comma := by decide
  colon := by decide
  quote := isPrintable_of_mem_quotePlain

namespace Value

theorem isVisible_of_mem_writeInt (n : Int) : ∀ c ∈ writeInt n, IsVisible c := by
  cases n with
  | ofNat n => exact Decimal.isVisible_of_mem_digits
  | negSucc n => exact List.forall_mem_cons.2 ⟨by decide, Decimal.isVisible_of_mem_digits⟩

variable {p : Char → Prop} {spelling : Spelling}

theorem forall_mem_intercalate {between : List Char} {texts : List (List Char)}
    (hbetween : ∀ c ∈ between, p c) (htexts : ∀ text ∈ texts, ∀ c ∈ text, p c) :
    ∀ c ∈ between.intercalate texts, p c := by
  intro c hc
  rcases mem_of_mem_intercalate hc with hc | ⟨text, htext, hc⟩
  · exact hbetween c hc
  · exact htexts text htext c hc

theorem forall_mem_bracket (h : spelling.IsMadeOf p) (form : SequenceForm)
    {texts : List (List Char)} (htexts : ∀ text ∈ texts, ∀ c ∈ text, p c) :
    ∀ c ∈ bracket spelling form texts, p c := by
  have hinner := forall_mem_intercalate (fun c hc => h.visible c (h.comma c hc)) htexts
  have hmark : ∀ {mark : Char}, IsVisible mark → p mark := h.visible _
  unfold bracket
  dsimp only
  split_ifs
  all_goals
    simp only [List.forall_mem_cons, List.forall_mem_append, List.not_mem_nil, false_implies,
      implies_true, and_true]
  · exact ⟨⟨hmark (by decide), hinner⟩, hmark (by decide), hmark (by decide)⟩
  · exact ⟨⟨hmark (by decide), hinner⟩, hmark (by decide)⟩
  · exact ⟨⟨hmark (by decide), hinner⟩, hmark (by decide)⟩

mutual

/-- What a written value is made of. -/
theorem forall_mem_write (h : spelling.IsMadeOf p) (v : Value) : ∀ c ∈ v.write spelling, p c := by
  have hword : ∀ {word : String}, (word ∈ [spelling.null, spelling.yes, spelling.no,
      spelling.special.nan, spelling.special.infinity]) → ∀ c ∈ word.toList, p c :=
    fun hmem c hc => h.visible c (h.word _ hmem c hc)
  cases v with
  | null => exact hword (by simp)
  | bool b => cases b <;> exact hword (by simp)
  | int n => exact fun c hc => h.visible c (isVisible_of_mem_writeInt n c hc)
  | float x =>
    cases x with
    | nan => exact hword (by simp)
    | infinite negative =>
      have htext := Double.isVisible_of_mem_signed (h.word spelling.special.infinity (by simp))
        negative
      exact fun c hc => h.visible c (htext c hc)
    | finite negative m =>
      have htext := Double.isVisible_of_mem_signed m.isVisible_of_mem_compact negative
      exact fun c hc => h.visible c (htext c hc)
  | string text => exact h.quote text.toList
  | bytes bs => exact fun c hc => h.visible c (isVisible_of_mem_quoteBytes bs c hc)
  | sequence form items =>
    rw [write]
    exact forall_mem_bracket h form (forall_mem_writeItems h items)
  | object entries =>
    rw [write, List.forall_mem_append, List.forall_mem_cons, List.forall_mem_singleton]
    have hcomma := fun c hc => h.visible c (h.comma c hc)
    exact ⟨⟨h.visible _ (by decide),
      forall_mem_intercalate hcomma (forall_mem_writeEntries h entries)⟩, h.visible _ (by decide)⟩

theorem forall_mem_writeItems (h : spelling.IsMadeOf p) (items : List Value) :
    ∀ text ∈ writeItems spelling items, ∀ c ∈ text, p c := by
  cases items with
  | nil => simp [writeItems]
  | cons v items =>
    rw [writeItems, List.forall_mem_cons]
    exact ⟨forall_mem_write h v, forall_mem_writeItems h items⟩

theorem forall_mem_writeEntries (h : spelling.IsMadeOf p) (entries : List (String × Value)) :
    ∀ text ∈ writeEntries spelling entries, ∀ c ∈ text, p c := by
  cases entries with
  | nil => simp [writeEntries]
  | cons entry entries =>
    obtain ⟨name, v⟩ := entry
    rw [writeEntries, List.forall_mem_cons]
    simp only [List.forall_mem_append]
    exact ⟨⟨⟨h.quote name.toList, fun c hc => h.visible c (h.colon c hc)⟩, forall_mem_write h v⟩,
      forall_mem_writeEntries h entries⟩

end

end Value

end SymbolStyle

import SymbolStyle.Proofs.Color.Range
import SymbolStyle.Proofs.Text.Spelling

/-! # Hexadecimal colors

    What a text with a leading `#` is read as.

    * `IsHexNotation`: the four forms of the notation and the channels that they
      write.
    * `Color.exists_ofDigits?_iff`: digits are read as a color exactly if they are
      in one of the forms.
    * `Respells`: other spellings of a text. `hashText_reads`: what a text is read
      as, and that its other spellings are read alike.
-/

namespace SymbolStyle

open Text

/-! ## The notation -/

/-- Two hexadecimal digits, the high one first, write the number. -/
def TwoDigits (high low : Char) (n : Nat) : Prop :=
  ∃ h l, hexDigit? high = some h ∧ hexDigit? low = some l ∧ n = 16 * h + l

/-- The digits write the channels, alpha last. In the short forms each digit
    stands for two. -/
inductive IsHexNotation : List Char → List Value → Prop where
  | six {r r' g g' b b' : Char} {red green blue : Nat} (hr : TwoDigits r r' red)
      (hg : TwoDigits g g' green) (hb : TwoDigits b b' blue) :
      IsHexNotation [r, r', g, g', b, b'] [.int red, .int green, .int blue, .float .one]
  | eight {r r' g g' b b' a a' : Char} {red green blue alpha : Nat} (hr : TwoDigits r r' red)
      (hg : TwoDigits g g' green) (hb : TwoDigits b b' blue) (ha : TwoDigits a a' alpha) :
      IsHexNotation [r, r', g, g', b, b', a, a']
        [.int red, .int green, .int blue, .float (.ofQuotient false alpha 255)]
  | three {r g b : Char} {channels : List Value}
      (h : IsHexNotation [r, r, g, g, b, b] channels) : IsHexNotation [r, g, b] channels
  | four {r g b a : Char} {channels : List Value}
      (h : IsHexNotation [r, r, g, g, b, b, a, a] channels) : IsHexNotation [r, g, b, a] channels

theorem TwoDigits.lt {high low : Char} {n : Nat} (h : TwoDigits high low n) : n < 256 := by
  obtain ⟨h, l, hhigh, hlow, rfl⟩ := h
  have := hexDigit?_lt hhigh
  have := hexDigit?_lt hlow
  omega

theorem TwoDigits.isSome {high low : Char} {n : Nat} (h : TwoDigits high low n) :
    (hexDigit? high).isSome ∧ (hexDigit? low).isSome := by
  obtain ⟨h, l, hhigh, hlow, -⟩ := h
  rw [hhigh, hlow]
  exact ⟨rfl, rfl⟩

theorem exists_twoDigits {high low : Char} (hhigh : (hexDigit? high).isSome)
    (hlow : (hexDigit? low).isSome) : ∃ n, TwoDigits high low n := by
  obtain ⟨h, hh⟩ := Option.isSome_iff_exists.1 hhigh
  obtain ⟨l, hl⟩ := Option.isSome_iff_exists.1 hlow
  exact ⟨_, h, l, hh, hl, rfl⟩

theorem exists_isHexNotation_six {r r' g g' b b' : Char}
    (hdigits : ∀ d ∈ [r, r', g, g', b, b'], (hexDigit? d).isSome) :
    ∃ channels, IsHexNotation [r, r', g, g', b, b'] channels := by
  simp only [List.forall_mem_cons] at hdigits
  obtain ⟨hr, hr', hg, hg', hb, hb', -⟩ := hdigits
  obtain ⟨red, hred⟩ := exists_twoDigits hr hr'
  obtain ⟨green, hgreen⟩ := exists_twoDigits hg hg'
  obtain ⟨blue, hblue⟩ := exists_twoDigits hb hb'
  exact ⟨_, .six hred hgreen hblue⟩

theorem exists_isHexNotation_eight {r r' g g' b b' a a' : Char}
    (hdigits : ∀ d ∈ [r, r', g, g', b, b', a, a'], (hexDigit? d).isSome) :
    ∃ channels, IsHexNotation [r, r', g, g', b, b', a, a'] channels := by
  simp only [List.forall_mem_cons] at hdigits
  obtain ⟨hr, hr', hg, hg', hb, hb', ha, ha', -⟩ := hdigits
  obtain ⟨red, hred⟩ := exists_twoDigits hr hr'
  obtain ⟨green, hgreen⟩ := exists_twoDigits hg hg'
  obtain ⟨blue, hblue⟩ := exists_twoDigits hb hb'
  obtain ⟨alpha, halpha⟩ := exists_twoDigits ha ha'
  exact ⟨_, .eight hred hgreen hblue halpha⟩

/-- Digits write channels exactly if they are as many as one of the forms has. -/
theorem exists_isHexNotation_iff {ds : List Char} :
    (∃ channels, IsHexNotation ds channels) ↔ (∀ d ∈ ds, (hexDigit? d).isSome) ∧
      (ds.length = 3 ∨ ds.length = 4 ∨ ds.length = 6 ∨ ds.length = 8) := by
  constructor
  · rintro ⟨channels, h⟩
    induction h with
    | six hr hg hb => simp [hr.isSome, hg.isSome, hb.isSome]
    | eight hr hg hb ha => simp [hr.isSome, hg.isSome, hb.isSome, ha.isSome]
    | three h ih => simpa using ih
    | four h ih => simpa using ih
  · rintro ⟨hdigits, hlength⟩
    match ds, hlength with
    | [r, g, b], _ =>
      have hdoubled : ∀ d ∈ [r, r, g, g, b, b], (hexDigit? d).isSome := by simpa using hdigits
      obtain ⟨channels, h⟩ := exists_isHexNotation_six hdoubled
      exact ⟨channels, .three h⟩
    | [r, g, b, a], _ =>
      have hdoubled : ∀ d ∈ [r, r, g, g, b, b, a, a], (hexDigit? d).isSome := by
        simpa using hdigits
      obtain ⟨channels, h⟩ := exists_isHexNotation_eight hdoubled
      exact ⟨channels, .four h⟩
    | [r, r', g, g', b, b'], _ => exact exists_isHexNotation_six hdigits
    | [r, r', g, g', b, b', a, a'], _ => exact exists_isHexNotation_eight hdigits

namespace Color

/-! ## Reading digits -/

theorem pair?_eq_some_iff {high low : Char} {n : Fin 256} :
    pair? high low = some n ↔ TwoDigits high low n.val := by
  constructor
  · intro h
    simp only [pair?, Option.bind_eq_bind, Option.bind_eq_some_iff, pure, Option.some.injEq] at h
    obtain ⟨x, hx, y, hy, rfl⟩ := h
    have hlt : 16 * x + y < 256 := TwoDigits.lt ⟨x, y, hx, hy, rfl⟩
    exact ⟨x, y, hx, hy, Nat.mod_eq_of_lt hlt⟩
  · rintro ⟨x, y, hx, hy, hn⟩
    have hfin : Fin.ofNat 256 (16 * x + y) = n := Fin.ext (by
      rw [Fin.val_ofNat, ← hn, Nat.mod_eq_of_lt n.isLt])
    rw [pair?, hx, hy]
    exact congrArg some hfin

theorem pairs?_eq_some_nil_iff {ds : List Char} : pairs? ds = some [] ↔ ds = [] := by
  match ds with
  | [] => simp [pairs?]
  | [_] => simp [pairs?]
  | high :: low :: rest => simp [pairs?, Option.bind_eq_some_iff]

theorem pairs?_eq_some_cons_iff {ds : List Char} {n : Fin 256} {bytes : List (Fin 256)} :
    pairs? ds = some (n :: bytes) ↔ ∃ high low rest, ds = high :: low :: rest ∧
      TwoDigits high low n.val ∧ pairs? rest = some bytes := by
  match ds with
  | [] => simp [pairs?]
  | [_] => simp [pairs?]
  | high :: low :: rest => simp [pairs?, Option.bind_eq_some_iff, pair?_eq_some_iff]

theorem pairs?_cons_of_twoDigits {high low : Char} {n : Nat} (h : TwoDigits high low n)
    {rest : List Char} {bytes : List (Fin 256)} (hrest : pairs? rest = some bytes) :
    pairs? (high :: low :: rest) = some (⟨n, h.lt⟩ :: bytes) :=
  pairs?_eq_some_cons_iff.2 ⟨_, _, _, rfl, h, hrest⟩

/-- The color of the bytes that a long form writes. -/
def ofBytes? : List (Fin 256) → Option Color
  | [r, g, b] => some ⟨.byte r, .byte g, .byte b, .one⟩
  | [r, g, b, a] => some ⟨.byte r, .byte g, .byte b, byteShare a⟩
  | _ => none

theorem ofDigits?_of_long {ds : List Char} (hlong : 4 < ds.length) :
    ofDigits? ds = (pairs? ds).bind ofBytes? := by
  rw [ofDigits?, if_neg (Nat.not_le_of_lt hlong)]
  rfl

theorem isHexNotation_of_long {ds : List Char} {color : Color} (hlong : 4 < ds.length)
    (h : ofDigits? ds = some color) : IsHexNotation ds color.toValues := by
  rw [ofDigits?_of_long hlong, Option.bind_eq_some_iff] at h
  obtain ⟨bytes, hbytes, hcolor⟩ := h
  unfold ofBytes? at hcolor
  split at hcolor
  · obtain ⟨r, r', ds, rfl, hr, hbytes⟩ := pairs?_eq_some_cons_iff.1 hbytes
    obtain ⟨g, g', ds, rfl, hg, hbytes⟩ := pairs?_eq_some_cons_iff.1 hbytes
    obtain ⟨b, b', ds, rfl, hb, hbytes⟩ := pairs?_eq_some_cons_iff.1 hbytes
    obtain rfl := pairs?_eq_some_nil_iff.1 hbytes
    obtain rfl := Option.some.inj hcolor
    exact .six hr hg hb
  · obtain ⟨r, r', ds, rfl, hr, hbytes⟩ := pairs?_eq_some_cons_iff.1 hbytes
    obtain ⟨g, g', ds, rfl, hg, hbytes⟩ := pairs?_eq_some_cons_iff.1 hbytes
    obtain ⟨b, b', ds, rfl, hb, hbytes⟩ := pairs?_eq_some_cons_iff.1 hbytes
    obtain ⟨a, a', ds, rfl, ha, hbytes⟩ := pairs?_eq_some_cons_iff.1 hbytes
    obtain rfl := pairs?_eq_some_nil_iff.1 hbytes
    obtain rfl := Option.some.inj hcolor
    rw [toValues, (byteShare_spec _).1]
    exact .eight hr hg hb ha
  · cases hcolor

/-- Digits are read as a color exactly if they are in one of the forms. -/
theorem exists_ofDigits?_iff {ds : List Char} {channels : List Value} :
    (∃ color, ofDigits? ds = some color ∧ color.toValues = channels) ↔
      IsHexNotation ds channels := by
  constructor
  · rintro ⟨color, hread, rfl⟩
    match ds with
    | [] => simp [ofDigits?, pairs?] at hread
    | [_] => simp [ofDigits?, pairs?, Option.bind_eq_some_iff] at hread
    | [_, _] => simp [ofDigits?, pairs?, Option.bind_eq_some_iff] at hread
    | [r, g, b] => exact .three (isHexNotation_of_long (by simp) hread)
    | [r, g, b, a] => exact .four (isHexNotation_of_long (by simp) hread)
    | _ :: _ :: _ :: _ :: _ :: _ => exact isHexNotation_of_long (by simp) hread
  · intro h
    induction h with
    | six hr hg hb =>
      have hpairs := pairs?_cons_of_twoDigits hr <| pairs?_cons_of_twoDigits hg <|
        pairs?_cons_of_twoDigits hb <| pairs?_eq_some_nil_iff.2 rfl
      refine ⟨⟨.byte ⟨_, hr.lt⟩, .byte ⟨_, hg.lt⟩, .byte ⟨_, hb.lt⟩, .one⟩, ?_, rfl⟩
      rw [ofDigits?_of_long (by simp), hpairs]
      rfl
    | eight hr hg hb ha =>
      have hpairs := pairs?_cons_of_twoDigits hr <| pairs?_cons_of_twoDigits hg <|
        pairs?_cons_of_twoDigits hb <| pairs?_cons_of_twoDigits ha <|
          pairs?_eq_some_nil_iff.2 rfl
      refine ⟨⟨.byte ⟨_, hr.lt⟩, .byte ⟨_, hg.lt⟩, .byte ⟨_, hb.lt⟩, byteShare ⟨_, ha.lt⟩⟩, ?_, ?_⟩
      · rw [ofDigits?_of_long (by simp), hpairs]
        rfl
      · rw [toValues, (byteShare_spec _).1]
        rfl
    | three h ih => exact ih
    | four h ih => exact ih

/-! ## Reading texts -/

/-- A text with a leading `#` is read by its digits. -/
theorem ofPlain?_hash (ds : List Char) : ofPlain? ('#' :: ds) = ofDigits? ds := by
  have harguments : arguments? ('#' :: ds) = none := rfl
  simp only [ofPlain?, harguments]

theorem read?_eq_ofDigits? {text : String} {ds : List Char}
    (h : lower (trim isBlank text.toList) = '#' :: ds) : read? text = ofDigits? ds := by
  rw [read?, h, ofPlain?_hash]

end Color

theorem Value.channels_string_eq_ok_iff {text : String} {values : List Value} :
    (Value.string text).channels = .ok values ↔
      ∃ color, Color.read? text = some color ∧ color.toValues = values := by
  rw [channels]
  cases Color.read? text with
  | none => simp
  | some color => simp

/-! ## Spellings -/

/-- The other text writes what the text with the given digits writes. -/
inductive Respells (text : String) (ds : List Char) (other : String) : Prop where
  /-- Each digit of a short form is written twice. -/
  | doubled (hshort : ds.length = 3 ∨ ds.length = 4)
      (h : lower (trim isBlank other.toList) = '#' :: ds.flatMap fun d => [d, d])
  /-- Alpha is written although it is one. -/
  | shortAlpha (hshort : ds.length = 3) (h : lower (trim isBlank other.toList) = '#' :: ds ++ ['f'])
  | longAlpha (hlong : ds.length = 6)
      (h : lower (trim isBlank other.toList) = '#' :: ds ++ ['f', 'f'])
  /-- There are more blanks around it. -/
  | blanks {before after : String} (hbefore : ∀ c ∈ before.toList, isBlank c)
      (hafter : ∀ c ∈ after.toList, isBlank c) (h : other = before ++ text ++ after)
  /-- Letters are written in another case. -/
  | letters (h : SameSpelling text.toList other.toList)

namespace Color

theorem ofDigits?_append_ff (r r' g g' b b' : Char) :
    ofDigits? [r, r', g, g', b, b', 'f', 'f'] = ofDigits? [r, r', g, g', b, b'] := by
  have hbyte : pair? 'f' 'f' = some 255 := by decide
  have hopaque : byteShare 255 = .one := by decide +kernel
  rw [ofDigits?_of_long (by simp), ofDigits?_of_long (by simp)]
  simp only [pairs?, hbyte]
  cases pair? r r' <;> cases pair? g g' <;> cases pair? b b' <;> simp [ofBytes?, hopaque]

theorem ofDigits?_eq_none {ds : List Char} (h : ∃ d ∈ ds, hexDigit? d = none) :
    ofDigits? ds = none := by
  obtain ⟨d, hmem, hnone⟩ := h
  rw [Option.eq_none_iff_forall_ne_some]
  intro color hcolor
  obtain ⟨hdigits, -⟩ := exists_isHexNotation_iff.1 ⟨_, exists_ofDigits?_iff.1 ⟨color, hcolor, rfl⟩⟩
  have := hdigits d hmem
  rw [hnone] at this
  cases this

theorem read?_of_respells {text other : String} {ds : List Char}
    (htext : lower (trim isBlank text.toList) = '#' :: ds) (h : Respells text ds other) :
    read? other = read? text := by
  rw [read?_eq_ofDigits? htext]
  cases h with
  | doubled hshort h =>
    rw [read?_eq_ofDigits? h]
    match ds, hshort with
    | [r, g, b], _ => rfl
    | [r, g, b, a], _ => rfl
  | shortAlpha hshort h =>
    rw [read?_eq_ofDigits? h]
    match ds, hshort with
    | [r, g, b], _ => exact ofDigits?_append_ff r r g g b b
  | longAlpha hlong h =>
    rw [read?_eq_ofDigits? h]
    match ds, hlong with
    | [r, r', g, g', b, b'], _ => exact ofDigits?_append_ff r r' g g' b b'
  | blanks hbefore hafter h =>
    apply read?_eq_ofDigits?
    rw [h, String.toList_append, String.toList_append, trim_append hbefore hafter, htext]
  | letters h =>
    have htrim := h.trim
    obtain ⟨rest, hrest, rfl⟩ := lower_eq_hash_cons_iff.1 htext
    rw [hrest] at htrim
    obtain ⟨c, rest', hhash, hspelling, hother⟩ := List.forall₂_cons_left_iff.1 htrim
    obtain rfl := hhash.eq_hash
    rw [read?_eq_ofDigits? (lower_eq_hash_cons_iff.2 ⟨rest', hother, rfl⟩)]
    rcases SameSpelling.lower_eq_or hspelling with heq | ⟨hnone, hnone'⟩
    · rw [heq]
    · rw [ofDigits?_eq_none hnone, ofDigits?_eq_none hnone']

end Color

/-- A text with a leading `#` is a color exactly if digits in one of the forms
    follow, these write its channels, and other spellings of it are read alike. -/
theorem hashText_reads {text : String} {ds : List Char}
    (htext : lower (trim isBlank text.toList) = '#' :: ds) :
    (Value.isColorText text ↔ (∀ d ∈ ds, (hexDigit? d).isSome) ∧
      (ds.length = 3 ∨ ds.length = 4 ∨ ds.length = 6 ∨ ds.length = 8)) ∧
    (∀ channels, (Value.string text).channels = .ok channels ↔ IsHexNotation ds channels) ∧
    ∀ other, Respells text ds other → Color.read? other = Color.read? text := by
  have hchannels : ∀ channels,
      (Value.string text).channels = .ok channels ↔ IsHexNotation ds channels := by
    intro channels
    rw [Value.channels_string_eq_ok_iff, Color.read?_eq_ofDigits? htext,
      Color.exists_ofDigits?_iff]
  refine ⟨?_, hchannels, fun other h => Color.read?_of_respells htext h⟩
  rw [← exists_isHexNotation_iff, Value.isColorText, Color.read?_eq_ofDigits? htext,
    Option.isSome_iff_exists]
  constructor
  · rintro ⟨color, hcolor⟩
    exact ⟨_, Color.exists_ofDigits?_iff.1 ⟨color, hcolor, rfl⟩⟩
  · rintro ⟨channels, h⟩
    obtain ⟨color, hcolor, -⟩ := Color.exists_ofDigits?_iff.2 h
    exact ⟨color, hcolor⟩

/-- A color in capitals, with a blank in front of it. -/
theorem hashText_reads_orange :
    lower (trim isBlank " #F80".toList) = ['#', 'f', '8', '0'] ∧
      (Value.string " #F80").channels = .ok [.int 255, .int 136, .int 0, .float .one] ∧
      Color.read? "#ff8800" = Color.read? " #F80" := by
  have htext : lower (trim isBlank " #F80".toList) = ['#', 'f', '8', '0'] := by decide
  obtain ⟨-, hchannels, hspellings⟩ := hashText_reads htext
  refine ⟨htext, (hchannels _).2 (.three ?_), hspellings _ (.doubled (.inl rfl) (by decide))⟩
  exact .six ⟨15, 15, rfl, rfl, rfl⟩ ⟨8, 8, rfl, rfl, rfl⟩ ⟨0, 0, rfl, rfl, rfl⟩

end SymbolStyle

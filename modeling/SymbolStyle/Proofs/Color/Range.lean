import SymbolStyle.Proofs.Glsl.Literal
import SymbolStyle.Proofs.Number.Bound

/-! # The range of colors

    Whatever a text writes as a color, its channels are within their range, and
    so are the components of the vector that it becomes.

    Each notation has its own reason. Bytes are within the range by their type,
    shares of bytes and of levels because rounding does not leave it, and numbers
    because they are clamped, NaN and the infinities among them.

    * `Color.InRange`: the range, and a lemma for each notation.
    * `Color.inRange_read?`: all of them together.
    * `Glsl.colorText_normalizes`: what this says about the constant of a text.
-/

namespace SymbolStyle

open Text Value

/-! ## Channels in range -/

/-- The level is at most 255. -/
def Channel.InRange : Channel → Prop
  | .byte _ => True
  | .level m => m.value ≤ 255

/-- The levels are at most 255, and alpha is at most one. -/
structure Color.InRange (c : Color) : Prop where
  red : c.red.InRange
  green : c.green.InRange
  blue : c.blue.InRange
  alpha : c.alpha.value ≤ 1

theorem Channel.value_maxLevel : Channel.maxLevel.value = 255 := by
  have hone := BinaryFormat.double.cast_one_pos.ne'
  rw [Magnitude.value, units_maxLevel, Nat.cast_mul, mul_div_cancel_right₀ _ hone, Nat.cast_ofNat]

namespace Color

/-- The size of a number up to one is that number. -/
theorem size_of_le_one {x : Double} (h : ∃ m, x = .finite false m ∧ m.value ≤ 1) :
    .finite false (size x) = x ∧ (size x).value ≤ 1 := by
  obtain ⟨m, rfl, hle⟩ := h
  exact ⟨rfl, hle⟩

/-- The share of a byte is the double nearest to its quotient by 255. -/
theorem byteShare_spec (n : Fin 256) :
    .finite false (byteShare n) = Double.ofQuotient false n.val 255 ∧ (byteShare n).value ≤ 1 :=
  size_of_le_one (Double.exists_ofQuotient_le_one (by decide) (by omega))

theorem value_singleShare_le_one (n : Fin 256) : (singleShare n).value ≤ 1 :=
  (size_of_le_one (Double.exists_singleOfQuotient_le_one (by decide) (by omega))).2

variable {color : Color} {cs ds : List Char}

theorem inRange_ofDigits? (h : ofDigits? ds = some color) : color.InRange := by
  obtain ⟨bytes, -, hcolor⟩ := Option.bind_eq_some_iff.1 h
  split at hcolor
  · obtain rfl := Option.some.inj hcolor
    exact ⟨trivial, trivial, trivial, Magnitude.value_one.le⟩
  · obtain rfl := Option.some.inj hcolor
    exact ⟨trivial, trivial, trivial, (byteShare_spec _).2⟩
  · cases hcolor

theorem inRange_ofGroups? {width : Nat} (h : ofGroups? width ds = some color) : color.InRange := by
  simp only [ofGroups?, Option.bind_eq_bind, Option.bind_eq_some_iff, pure, Option.some.injEq] at h
  obtain ⟨r, -, g, -, b, -, rfl⟩ := h
  exact ⟨trivial, trivial, trivial, Magnitude.value_one.le⟩

theorem inRange_ofAlphaFirst? (h : ofAlphaFirst? ds = some color) : color.InRange := by
  obtain ⟨bytes, -, hcolor⟩ := Option.bind_eq_some_iff.1 h
  split at hcolor
  · obtain rfl := Option.some.inj hcolor
    exact ⟨trivial, trivial, trivial, value_singleShare_le_one _⟩
  · cases hcolor

theorem inRange_ofMarkedDigits? (h : ofMarkedDigits? ds = some color) : color.InRange := by
  unfold ofMarkedDigits? at h
  split at h
  · exact inRange_ofDigits? h
  · exact inRange_ofDigits? h
  · exact inRange_ofAlphaFirst? h
  · exact inRange_ofGroups? h
  · exact inRange_ofGroups? h
  · cases h

theorem inRange_ofArguments? (h : ofArguments? cs = some color) : color.InRange := by
  have hlevel : ∀ x, (Channel.level (Double.clamp Channel.maxLevel x)).InRange := fun x =>
    (Double.value_clamp_le _ x).trans_eq Channel.value_maxLevel
  obtain ⟨numbers, -, hcolor⟩ := Option.bind_eq_some_iff.1 h
  split at hcolor
  · obtain rfl := Option.some.inj hcolor
    exact ⟨hlevel _, hlevel _, hlevel _, Magnitude.value_one.le⟩
  · obtain rfl := Option.some.inj hcolor
    exact ⟨hlevel _, hlevel _, hlevel _,
      (Double.value_clamp_le _ _).trans_eq Magnitude.value_one⟩
  · cases hcolor

theorem inRange_ofName? (h : ofName? cs = some color) : color.InRange := by
  unfold ofName? at h
  split at h
  · cases h
  · dsimp only at h
    split at h
    · obtain rfl := Option.some.inj h
      exact ⟨trivial, trivial, trivial, Magnitude.value_zero.le.trans zero_le_one⟩
    · obtain ⟨levels, -, rfl⟩ := Option.map_eq_some_iff.1 h
      exact ⟨trivial, trivial, trivial, Magnitude.value_one.le⟩

/-- Whatever a text writes as a color is in range. -/
theorem inRange_read? {text : String} (h : read? text = some color) : color.InRange := by
  rw [read?] at h
  unfold ofPlain? at h
  split at h
  · exact inRange_ofArguments? h
  · exact inRange_ofDigits? h
  · unfold ofMarked? at h
    split at h
    · exact inRange_ofMarkedDigits? h
    · exact inRange_ofName? h

end Color

/-! ## Components in range -/

/-- The value is a number from zero to the bound, and it is not negative zero. -/
inductive Value.IsUpTo (bound : Nat) : Value → Prop where
  | int {n : Nat} (h : n ≤ bound) : IsUpTo bound (.int n)
  | float {m : Magnitude} (h : m.value ≤ bound) : IsUpTo bound (.float (.finite false m))

theorem Channel.InRange.isUpTo {channel : Channel} (h : channel.InRange) :
    channel.toValue.IsUpTo 255 := by
  cases channel with
  | byte n => exact .int (by omega)
  | level m => exact .float h

namespace Glsl

/-- The literal has no minus, and its text denotes a number from zero to one. -/
structure Literal.IsShare (l : Literal) : Prop where
  no_minus : '-' ∉ l.text
  value : ∃ q, numeralValue? l.text = some q ∧ 0 ≤ q ∧ q ≤ 1

theorem Literal.isShare_of_le_one {m : Magnitude} (h : m.value ≤ 1) :
    (Literal.mk false m).IsShare where
  no_minus := by
    obtain ⟨whole, places, hplain, htext⟩ := (Literal.mk false m).exists_isPlainNumeral
    rw [htext]
    change '-' ∉ whole ++ '.' :: places
    intro hmem
    have hdigit : '-' ∈ whole ++ places := by simpa using hmem
    exact absurd (hplain.isDigit _ hdigit) (by decide)
  value := ⟨m.shortest.value, numeralValue?_text _, m.shortest.value_nonneg,
    Magnitude.value_shortest_le_one h⟩

/-- A level in range is scaled to a share. -/
theorem exists_scaleLevel_of_isUpTo {v : Value} (h : v.IsUpTo 255) :
    ∃ m, scaleLevel v = .ok (.float (.finite false m)) ∧ m.value ≤ 1 := by
  cases h with
  | @int n hn =>
    have hsign : decide ((n : Int) < 0) = false := decide_eq_false (by omega)
    obtain ⟨m, hm, hle⟩ :
        ∃ m, Double.ofQuotient ((n : Int) < 0) (n : Int).natAbs 255 = .finite false m ∧
          m.value ≤ 1 := by
      rw [hsign]
      exact Double.exists_ofQuotient_le_one (by decide) hn
    refine ⟨m, ?_, hle⟩
    rw [scaleLevel_int (by rw [hm]; rfl), hm]
  | @float m hm =>
    obtain ⟨share, hshare, hle⟩ :
        ∃ share, (Double.finite false m).divNat 255 = .finite false share ∧ share.value ≤ 1 :=
      Double.exists_ofQuotient_le_one (Nat.mul_pos (by decide) BinaryFormat.double.one_pos)
        (Magnitude.value_le_natCast_iff.1 hm)
    exact ⟨share, by rw [scaleLevel, hshare], hle⟩

/-- A color in range becomes a vector of four shares. -/
theorem exists_colorOf_of_inRange {text : String} {color : Color}
    (hread : Color.read? text = some color) (hrange : color.InRange) :
    ∃ r g b a : Literal, colorOf (.string text) = .ok (colorConstant r g b a) ∧
      r.IsShare ∧ g.IsShare ∧ b.IsShare ∧ a.IsShare := by
  have hchannels : (Value.string text).channels = .ok color.toValues := by
    rw [Value.channels, hread]
  obtain ⟨r, hr, hr'⟩ := exists_scaleLevel_of_isUpTo hrange.red.isUpTo
  obtain ⟨g, hg, hg'⟩ := exists_scaleLevel_of_isUpTo hrange.green.isUpTo
  obtain ⟨b, hb, hb'⟩ := exists_scaleLevel_of_isUpTo hrange.blue.isUpTo
  refine ⟨⟨false, r⟩, ⟨false, g⟩, ⟨false, b⟩, ⟨false, color.alpha⟩, ?_,
    Literal.isShare_of_le_one hr', Literal.isShare_of_le_one hg', Literal.isShare_of_le_one hb',
    Literal.isShare_of_le_one hrange.alpha⟩
  rw [colorOf_of_levels hchannels (by simp) hr hg hb]
  exact vectorOf_four rfl rfl rfl rfl

theorem render_colorConstant (stem : String) (r g b a : Literal) :
    (colorConstant r g b a).render stem
      = "vec4(".toList ++ [',', ' '].intercalate [r.text, g.text, b.text, a.text] ++ [')'] := rfl

/-- A text is a color exactly if it has channels. There are then four of them, in
    range, and the text becomes a vector of shares. Any other text is reported. -/
theorem colorText_normalizes (text : String) :
    (isColorText text ↔ ∃ channels, (Value.string text).channels = .ok channels) ∧
    (isColorText text →
      (∃ r g b a : Value, (Value.string text).channels = .ok [r, g, b, a] ∧ r.IsUpTo 255 ∧
        g.IsUpTo 255 ∧ b.IsUpTo 255 ∧ a.IsUpTo 1) ∧
      ∃ (tree : Expr) (r g b a : Literal), colorOf (.string text) = .ok tree ∧
        (∀ stem, tree.render stem
          = "vec4(".toList ++ [',', ' '].intercalate [r.text, g.text, b.text, a.text] ++ [')']) ∧
        r.IsShare ∧ g.IsShare ∧ b.IsShare ∧ a.IsShare) ∧
    (isColorText text = false →
      (Value.string text).channels = .error (.colorText text) ∧
      colorOf (.string text) = .error (.expression (.colorText text)) ∧
      (ExpressionError.colorText text).expression = .string text ∧
      (ExpressionError.colorText text).message?.isSome) := by
  refine ⟨?_, fun hcolor => ?_, fun hcolor => ?_⟩
  · rw [isColorText, channels]
    cases Color.read? text with
    | none => simp
    | some color => simp
  · obtain ⟨color, hread⟩ := Option.isSome_iff_exists.1 hcolor
    have hrange := Color.inRange_read? hread
    have halpha : color.alpha.value ≤ (1 : Nat) := by
      rw [Nat.cast_one]
      exact hrange.alpha
    refine ⟨⟨_, _, _, _, by rw [channels, hread]; rfl, hrange.red.isUpTo, hrange.green.isUpTo,
      hrange.blue.isUpTo, .float halpha⟩, ?_⟩
    obtain ⟨r, g, b, a, htree, hshares⟩ := exists_colorOf_of_inRange hread hrange
    exact ⟨_, r, g, b, a, htree, fun stem => render_colorConstant stem r g b a, hshares⟩
  · have hread : Color.read? text = none := by simpa [isColorText] using hcolor
    refine ⟨by rw [channels, hread], colorOf_of_not_isColorText hcolor, rfl, ?_⟩
    exact ExpressionError.isSome_message?_iff.2 rfl

example : (Value.string "rgb(nan, -inf, -0)").channels
    = .ok [.float (.finite false Channel.maxLevel), .float .zero, .float .zero, .float .one] := by
  rfl

end Glsl

end SymbolStyle

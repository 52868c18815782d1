import SymbolStyle.Color.Name
import SymbolStyle.Number.Numeral
import SymbolStyle.Text.Hexadecimal
import SymbolStyle.Text.LowerCase
import SymbolStyle.Value

/-! # Color notations

    A color written as a text, in one of three notations. Blanks around the
    text and the case of its letters do not matter.

    * `#` and hexadecimal digits: one or two for each of red, green and blue,
      and as many for alpha if it is given.
    * `rgb(…)` or `rgba(…)` with three or four numbers. Red, green and blue
      are brought into the range from 0 to 255 and alpha into the range from
      0 to 1.
    * A name. Spaces and tabs inside it do not count, and it ends at the
      first character that is not one of the 255 after U+0000.

    A byte order mark may stand in front of a name. Digits behind a mark are
    in a notation of their own: of eight digits the first two are alpha, in
    single precision, and nine or twelve digits give red, green and blue more
    digits than count.

    `Color.read?` tells colors from other texts.
-/

namespace SymbolStyle

/-- The level of red, green or blue. -/
inductive Channel where
  /-- A byte, from digits or a name. -/
  | byte (n : Fin 256)
  /-- A number from 0 to 255 that was written as a number. -/
  | level (m : Magnitude)

/-- A color with its opacity. -/
structure Color where
  red : Channel
  green : Channel
  blue : Channel
  /-- From 0, which is transparent, to 1, which is opaque. -/
  alpha : Magnitude

namespace Channel

/-- The level as a value: whole if it is a byte. -/
def toValue : Channel → Value
  | .byte n => .int n.val
  | .level m => .float (.finite false m)

/-- The largest level, 255. -/
def maxLevel : Magnitude := ⟨1030 * Nat.pow 2 52 + 127 * Nat.pow 2 45, by decide⟩

theorem units_maxLevel : maxLevel.units = 255 * BinaryFormat.double.one := by decide +kernel

end Channel

namespace Color

open Text

/-- The channels of a color as values, alpha last. -/
def toValues (c : Color) : List Value :=
  [c.red.toValue, c.green.toValue, c.blue.toValue, .float (.finite false c.alpha)]

/-- The size of a finite number. -/
def size : Double → Magnitude
  | .finite _ m => m
  | _ => .zero

/-- The magnitude nearest to a byte's share of 255. -/
def byteShare (n : Fin 256) : Magnitude := size (Double.ofQuotient false n.val 255)

/-- The single-precision magnitude nearest to a byte's share of 255. -/
def singleShare (n : Fin 256) : Magnitude := size (Double.singleOfQuotient false n.val 255)

/-! ### Hexadecimal notation -/

/-- The byte of two hexadecimal digits. -/
def pair? (high low : Char) : Option (Fin 256) := do
  return Fin.ofNat 256 (16 * (← hexDigit? high) + (← hexDigit? low))

/-- The bytes of digits that come in pairs. -/
def pairs? : List Char → Option (List (Fin 256))
  | [] => some []
  | high :: low :: rest => do return (← pair? high low) :: (← pairs? rest)
  | [_] => none

/-- The color of the digits behind a `#`. In the short forms each digit stands
    for two. -/
def ofDigits? (ds : List Char) : Option Color := do
  let ds := if ds.length ≤ 4 then ds.flatMap fun d => [d, d] else ds
  match ← pairs? ds with
  | [r, g, b] => some ⟨.byte r, .byte g, .byte b, .one⟩
  | [r, g, b, a] => some ⟨.byte r, .byte g, .byte b, byteShare a⟩
  | _ => none

/-- The byte of the two leading digits of a group. The other ones only have to
    be digits. -/
def leadingByte? : List Char → Option (Fin 256)
  | high :: low :: rest => if rest.all fun d => (hexDigit? d).isSome then pair? high low else none
  | _ => none

/-- The color of three groups of digits of the same width. -/
def ofGroups? (width : Nat) (ds : List Char) : Option Color := do
  let r ← leadingByte? (ds.take width)
  let g ← leadingByte? ((ds.drop width).take width)
  let b ← leadingByte? (ds.drop (2 * width))
  return ⟨.byte r, .byte g, .byte b, .one⟩

/-- The color of digits with alpha in front. -/
def ofAlphaFirst? (ds : List Char) : Option Color := do
  match ← pairs? ds with
  | [a, r, g, b] => some ⟨.byte r, .byte g, .byte b, singleShare a⟩
  | _ => none

/-- The color of the digits behind a mark and a `#`. -/
def ofMarkedDigits? (ds : List Char) : Option Color :=
  match ds.length with
  | 3 | 6 => ofDigits? ds
  | 8 => ofAlphaFirst? ds
  | 9 => ofGroups? 3 ds
  | 12 => ofGroups? 4 ds
  | _ => none

/-! ### Functional notation -/

/-- What stands between `rgb(` or `rgba(` and the closing bracket that ends
    the text. -/
def arguments? (cs : List Char) : Option (List Char) := do
  let rest ← "rgb".toList.isPrefixOf? cs
  let rest := if rest.head? = some 'a' then rest.tail else rest
  let rest ← "(".toList.isPrefixOf? rest
  let inner := rest.dropLast
  if rest.getLast? = some ')' ∧ inner ≠ [] ∧ ')' ∉ inner then some inner else none

/-- The color of numbers between commas, opaque unless alpha is given. -/
def ofArguments? (cs : List Char) : Option Color := do
  let numbers ← (cs.splitOn ',').mapM fun part => Double.read? (trim isBlank part)
  let level := fun x => Channel.level (Double.clamp Channel.maxLevel x)
  match numbers with
  | [r, g, b] => some ⟨level r, level g, level b, .one⟩
  | [r, g, b, a] => some ⟨level r, level g, level b, Double.clamp .one a⟩
  | _ => none

/-! ### Names -/

/-- The most UTF-16 units in a text that names a color. -/
def nameLimit : Nat := 255

/-- The number of UTF-16 units of a text. -/
def units16 (cs : List Char) : Nat :=
  cs.foldl (fun n c => n + if c.toNat < 0x10000 then 1 else 2) 0

/-- The name in a text: up to its end mark, without spaces and tabs. -/
def nameIn (cs : List Char) : String :=
  String.ofList <|
    (cs.takeWhile fun c => c ≠ '\x00' && c.toNat ≤ 0xff).filter fun c => c ≠ ' ' && c ≠ '\t'

/-- The color that a text names. The name for no color is transparent
    black. -/
def ofName? (cs : List Char) : Option Color :=
  if nameLimit < units16 cs then none
  else
    let name := nameIn cs
    if name = "transparent" then some ⟨.byte 0, .byte 0, .byte 0, .zero⟩
    else (named? name).map fun (r, g, b) =>
      ⟨.byte (Fin.ofNat 256 r), .byte (Fin.ofNat 256 g), .byte (Fin.ofNat 256 b), .one⟩

/-! ### Any notation -/

/-- A character with its two bytes swapped. Where that gives half a surrogate
    pair, which is in no notation, NUL stands for it. -/
def swapBytes (c : Char) : Char := Char.ofNat (c.toNat % 0x100 * 0x100 + c.toNat / 0x100)

/-- A text as it is read when a byte order mark may stand in front of it. A
    mark whose own bytes are swapped says that all bytes are, which only
    goes for characters of two bytes. -/
def behindMark : List Char → List Char
  | '\ufeff' :: rest => rest
  | '\ufffe' :: rest =>
    if rest.all (·.toNat < 0x10000) then rest.map swapBytes else '\ufffe' :: rest
  | cs => cs

/-- The color of a text in front of which a byte order mark may stand. -/
def ofMarked? (cs : List Char) : Option Color :=
  match behindMark cs with
  | '#' :: ds => ofMarkedDigits? ds
  | cs => ofName? cs

/-- The color of a text that is trimmed and in lower case. A text in
    functional notation that is not a color is not a name either. -/
def ofPlain? (cs : List Char) : Option Color :=
  match arguments? cs, cs with
  | some inner, _ => ofArguments? inner
  | none, '#' :: ds => ofDigits? ds
  | none, cs => ofMarked? cs

/-- The color that a text writes, if it writes one. -/
def read? (text : String) : Option Color :=
  ofPlain? (lower (trim isBlank text.toList))

end Color

end SymbolStyle

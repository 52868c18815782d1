import SymbolStyle.Text.Hexadecimal
import SymbolStyle.Text.Printable

/-! # Quoted texts

    A text between quotes, on one line, in two notations:

    * `quoteAscii` uses double quotes and the characters of ASCII from the
      space to the tilde only; all others are written in UTF-16 units of four
      hexadecimal digits.
    * `quotePlain` shows every printable character as itself and chooses the
      kind of quote so that few quotes need an escape; `quoteBytes` does the
      same for bytes.
-/

namespace SymbolStyle.Text

/-! ### ASCII notation -/

/-- A character inside an ASCII quotation. Above U+FFFF it takes two units, a
    high and a low surrogate. -/
def escapeAscii (c : Char) : List Char :=
  match c with
  | '"' => ['\\', '"']
  | '\\' => ['\\', '\\']
  | '\n' => ['\\', 'n']
  | '\r' => ['\\', 'r']
  | '\t' => ['\\', 't']
  | '\x08' => ['\\', 'b']
  | '\x0c' => ['\\', 'f']
  | c =>
    let n := c.toNat
    if 0x20 ≤ n ∧ n < 0x7f then [c]
    else if n < 0x10000 then '\\' :: 'u' :: hex 4 n
    else '\\' :: 'u' :: hex 4 (0xd800 + (n - 0x10000) / 0x400)
      ++ '\\' :: 'u' :: hex 4 (0xdc00 + (n - 0x10000) % 0x400)

/-- A text between double quotes, in ASCII. -/
def quoteAscii (cs : List Char) : List Char :=
  '"' :: cs.flatMap escapeAscii ++ ['"']

/-! ### Plain notation -/

/-- Single quotes, unless the text has a single quote and no double quote. -/
def chooseQuote (cs : List Char) : Char :=
  if '\'' ∈ cs ∧ '"' ∉ cs then '"' else '\''

/-- An escape that both texts and bytes use, if the character needs one. -/
def escapeCommon? (quote c : Char) : Option (List Char) :=
  if c = quote ∨ c = '\\' then some ['\\', c]
  else match c with
    | '\n' => some ['\\', 'n']
    | '\r' => some ['\\', 'r']
    | '\t' => some ['\\', 't']
    | _ => none

/-- A character inside a plain quotation. -/
def escapePlain (quote c : Char) : List Char :=
  (escapeCommon? quote c).getD <|
    let n := c.toNat
    if isPrintable c then [c]
    else if n < 0x100 then '\\' :: 'x' :: hex 2 n
    else if n < 0x10000 then '\\' :: 'u' :: hex 4 n
    else '\\' :: 'U' :: hex 8 n

/-- A text between quotes, with printable characters as themselves. -/
def quotePlain (cs : List Char) : List Char :=
  let quote := chooseQuote cs
  quote :: cs.flatMap (escapePlain quote) ++ [quote]

/-- Bytes between quotes behind a `b`, with printable ASCII as itself. -/
def quoteBytes (bs : List UInt8) : List Char :=
  let cs := bs.map fun b => Char.ofNat b.toNat
  let quote := chooseQuote cs
  let escape := fun c : Char => (escapeCommon? quote c).getD <|
    if 0x20 ≤ c.toNat ∧ c.toNat < 0x7f then [c] else '\\' :: 'x' :: hex 2 c.toNat
  'b' :: quote :: cs.flatMap escape ++ [quote]

end SymbolStyle.Text

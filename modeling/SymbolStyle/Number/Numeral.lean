import SymbolStyle.Number.Decimal
import SymbolStyle.Text.Blank
import SymbolStyle.Text.DecimalDigit

/-! # Reading numerals

    From the text of a number to the double nearest to it:

    * `Decimal.toDouble` rounds a decimal once.
    * `Double.read?` reads a numeral as people write it: blanks around it, a
      sign, digits of any script, single underscores between digits, a
      fraction, a power of ten, or one of the words for NaN and infinity.
-/

namespace SymbolStyle

open Text

namespace Decimal

/-- The decimal of a numeral's whole digits, its fraction digits and its power
    of ten. -/
def ofParts (whole fraction : List Char) (power : Int) : Decimal :=
  ⟨Nat.ofDigitChars 10 (whole ++ fraction) 0, power - fraction.length⟩

/-- The double nearest to a decimal. Every positive double lies between
    `10 ^ -400` and `10 ^ 400`, so decimals beyond these bounds need no
    arithmetic with their powers of ten. -/
def toDouble (negative : Bool) (d : Decimal) : Double :=
  let c := d.coefficient
  if c = 0 then .finite negative .zero
  else if 400 < d.exponent then .infinite negative
  else if d.exponent + c.log2 + 1 < -400 then .finite negative .zero
  else .ofQuotient negative (c * Nat.pow 10 d.exponent.toNat) (Nat.pow 10 (-d.exponent).toNat)

/-- A sign in front of a text: whether it is a minus, and the rest. -/
def takeSign : List Char → Bool × List Char
  | '-' :: rest => (true, rest)
  | '+' :: rest => (false, rest)
  | cs => (false, cs)

/-- The power of ten that ends a numeral: nothing, or an `e` and a signed
    whole number. -/
def readPower? : List Char → Option Int
  | [] => some 0
  | mark :: rest =>
    let (negative, ds) := takeSign rest
    if (mark = 'e' ∨ mark = 'E') ∧ ds ≠ [] ∧ ds.all isAsciiDigit then
      let n : Int := Nat.ofDigitChars 10 ds 0
      some (if negative then -n else n)
    else none

/-- An unsigned numeral. The digits before the point or those after it may be
    missing, but not both. -/
def read? (cs : List Char) : Option Decimal :=
  let (whole, rest) := cs.span isAsciiDigit
  let (fraction, rest) := match rest with
    | '.' :: rest => rest.span isAsciiDigit
    | rest => ([], rest)
  if whole = [] ∧ fraction = [] then none
  else (readPower? rest).map (ofParts whole fraction)

end Decimal

namespace Double

/-- A digit of any script as an ASCII digit and any blank beyond ASCII as a
    space. -/
def plainChar (c : Char) : Char :=
  if c.toNat < 0x80 then c
  else if isBlank c then ' '
  else match digitValue? c with
    | some n => Char.ofNat ('0'.toNat + n)
    | none => c

/-- Takes out the underscores, each of which has to stand between two digits.
    The flag says whether the character before the text is a digit. -/
def dropSeparators : Bool → List Char → Option (List Char)
  | _, [] => some []
  | afterDigit, '_' :: c :: rest =>
    if afterDigit && isAsciiDigit c then (dropSeparators true rest).map (c :: ·) else none
  | _, c :: rest =>
    if c = '_' then none else (dropSeparators (isAsciiDigit c) rest).map (c :: ·)

/-- The number that a text writes out, if it writes one. -/
def read? (text : List Char) : Option Double := do
  let plain ← dropSeparators false (trim isAsciiBlank (text.map plainChar))
  let (negative, rest) := Decimal.takeSign plain
  let word := String.ofList (rest.map Char.toLower)
  if word = "nan" then some .nan
  else if word = "inf" ∨ word = "infinity" then some (.infinite negative)
  else (Decimal.read? rest).map (·.toDouble negative)

end Double

end SymbolStyle

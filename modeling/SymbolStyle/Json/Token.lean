import SymbolStyle.Value
import SymbolStyle.Number.Numeral
import SymbolStyle.Text.Hexadecimal

/-! # JSON tokens

    From the characters of a JSON document to its tokens. Each scanner takes
    one token off the front of a text and returns the rest; `tokens` applies
    them until the text is used up.

    * A number with neither fraction nor power of ten is whole; any other
      one is a double. Words stand for NaN and the infinities.
    * A number takes a point only if a digit follows it, and an `e` only if
      digits follow it. What is left over is no token and spoils the text.
    * A whole number of more than 4300 digits is a token of its own, so that
      the reader can say what is wrong with it.
-/

namespace SymbolStyle.Json

open Text

/-- A token of a JSON document. -/
inductive Token where
  | openArray
  | closeArray
  | openObject
  | closeObject
  | comma
  | colon
  /-- A value without parts. -/
  | scalar (v : Value)
  /-- A whole number of more digits than are read. -/
  | longInt
  /-- A place at which no token starts; nothing after it is looked at. -/
  | unreadable

/-- The most digits that a whole number may have. -/
def digitLimit : Nat := 4300

/-- The blanks between tokens. -/
def isSpace (c : Char) : Bool := c = ' ' || c = '\t' || c = '\n' || c = '\r'

/-! ### Texts -/

/-- The number that four hexadecimal digits write. -/
def hexUnit? (a b c d : Char) : Option Nat := do
  return 0x1000 * (← hexDigit? a) + 0x100 * (← hexDigit? b) + 0x10 * (← hexDigit? c)
    + (← hexDigit? d)

/-- What a single character behind a backslash stands for. -/
def escaped? : Char → Option Nat
  | '"' => some '"'.toNat
  | '\\' => some '\\'.toNat
  | '/' => some '/'.toNat
  | 'b' => some 8
  | 'f' => some 12
  | 'n' => some 10
  | 'r' => some 13
  | 't' => some 9
  | _ => none

/-- Reads a text behind its opening quote, up to the closing one. The result
    is a list of code points, in which an escaped character above U+FFFF still
    is a pair of surrogates. Control characters have to be escaped. -/
def scanUnits : List Char → Option (List Nat × List Char)
  | [] => none
  | '"' :: rest => some ([], rest)
  | '\\' :: 'u' :: a :: b :: c :: d :: rest => do
    let unit ← hexUnit? a b c d
    let (units, rest) ← scanUnits rest
    return (unit :: units, rest)
  | '\\' :: c :: rest => do
    let unit ← escaped? c
    let (units, rest) ← scanUnits rest
    return (unit :: units, rest)
  | c :: rest => do
    if c = '\\' ∨ c.toNat < 0x20 then failure
    let (units, rest) ← scanUnits rest
    return (c.toNat :: units, rest)

/-- Whether a unit is the first half of a pair. -/
def isHighSurrogate (n : Nat) : Bool := 0xd800 ≤ n && n < 0xdc00

/-- Whether a unit is the second half of a pair. -/
def isLowSurrogate (n : Nat) : Bool := 0xdc00 ≤ n && n < 0xe000

/-- The characters of a list of code points, pairs of surrogates joined. A
    lone surrogate is no character; the replacement character stands for it. -/
def joinUnits : List Nat → List Char
  | [] => []
  | [n] => [if isHighSurrogate n || isLowSurrogate n then '\ufffd' else Char.ofNat n]
  | high :: low :: rest =>
    if isHighSurrogate high && isLowSurrogate low then
      Char.ofNat (0x10000 + (high - 0xd800) * 0x400 + (low - 0xdc00)) :: joinUnits rest
    else
      (if isHighSurrogate high || isLowSurrogate high then '\ufffd' else Char.ofNat high)
        :: joinUnits (low :: rest)

/-! ### Numbers -/

/-- Takes the digits of a whole part: a lone zero, or digits of which the
    first is not zero. -/
def scanWhole? : List Char → Option (List Char × List Char)
  | '0' :: rest => some (['0'], rest)
  | cs =>
    let (ds, rest) := cs.span isAsciiDigit
    if ds = [] then none else some (ds, rest)

/-- Takes a point and the digits behind it, if a digit is behind it. -/
def scanFraction (cs : List Char) : List Char × List Char :=
  match cs with
  | '.' :: rest =>
    let (ds, rest) := rest.span isAsciiDigit
    if ds = [] then ([], cs) else (ds, rest)
  | _ => ([], cs)

/-- Takes a power of ten, if it is complete. -/
def scanPower (cs : List Char) : Option Int × List Char :=
  match cs with
  | mark :: rest =>
    let (negative, rest) := Decimal.takeSign rest
    let (ds, rest) := rest.span isAsciiDigit
    if (mark = 'e' ∨ mark = 'E') ∧ ds ≠ [] then
      let n : Int := Nat.ofDigitChars 10 ds 0
      (some (if negative then -n else n), rest)
    else (none, cs)
  | [] => (none, cs)

/-- Takes an unsigned number. -/
def scanNumber? (negative : Bool) (cs : List Char) : Option (Token × List Char) := do
  let (whole, rest) ← scanWhole? cs
  let (fraction, rest) := scanFraction rest
  let (power, rest) := scanPower rest
  let token :=
    if fraction = [] ∧ power = none then
      if digitLimit < whole.length then .longInt
      else
        let n : Int := Nat.ofDigitChars 10 whole 0
        .scalar (.int (if negative then -n else n))
    else
      .scalar (.float ((Decimal.ofParts whole fraction (power.getD 0)).toDouble negative))
  return (token, rest)

/-! ### All tokens -/

/-- The words and the values for which they stand. -/
def words : List (String × Value) :=
  [("null", .null), ("true", .bool true), ("false", .bool false), ("NaN", .float .nan),
    ("Infinity", .float (.infinite false)), ("-Infinity", .float (.infinite true))]

/-- Takes a word off the front of a text. -/
def scanWord? (cs : List Char) : Option (Token × List Char) :=
  words.findSome? fun (word, v) => (word.toList.isPrefixOf? cs).map (.scalar v, ·)

/-- The mark that a character is by itself. -/
def mark? : Char → Option Token
  | '[' => some .openArray
  | ']' => some .closeArray
  | '{' => some .openObject
  | '}' => some .closeObject
  | ',' => some .comma
  | ':' => some .colon
  | _ => none

/-- Takes one token off the front of a text that does not start with a
    blank. -/
def scanToken? : List Char → Option (Token × List Char)
  | [] => none
  | '"' :: rest =>
    (scanUnits rest).map fun (units, rest) =>
      (.scalar (.string (String.ofList (joinUnits units))), rest)
  | c :: rest =>
    match mark? c with
    | some token => some (token, rest)
    | none =>
      (scanWord? (c :: rest)).or <|
        if c = '-' then scanNumber? true rest else scanNumber? false (c :: rest)

/-- The tokens of a text. Every token takes at least one character; the test
    of it is what makes the recursion end. -/
def tokens (cs : List Char) : List Token :=
  match _h : cs.dropWhile isSpace with
  | [] => []
  | c :: rest =>
    match scanToken? (c :: rest) with
    | none => [.unreadable]
    | some (token, after) =>
      if after.length < (c :: rest).length then token :: tokens after else [.unreadable]
termination_by cs.length
decreasing_by
  have : (c :: rest).length ≤ cs.length := by
    rw [← _h]; exact (List.dropWhile_sublist isSpace).length_le
  omega

end SymbolStyle.Json

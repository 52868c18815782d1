import SymbolStyle.Value
import SymbolStyle.Number.Decimal
import SymbolStyle.Text.Quoted

/-! # Written values

    Values as one line of text. One printer, `Value.write`, takes the words
    and marks from a `Spelling`, of which there are two:

    * `Spelling.json`, for values that a JSON document can hold. Tuples are
      written as lists.
    * `Spelling.plain`, for all values. Tuples have round brackets and bytes
      are quoted.

    `Value.describe?` is how an expression appears in a message.
-/

namespace SymbolStyle

/-- The words and marks with which values are written. -/
structure Spelling where
  /-- The absent value. -/
  null : String
  /-- The truth value true. -/
  yes : String
  /-- The truth value false. -/
  no : String
  /-- NaN and infinity. -/
  special : SpecialWords
  /-- How a text is quoted. -/
  quote : List Char → List Char
  /-- Between items. -/
  comma : List Char
  /-- Between the name and the value of an entry. -/
  colon : List Char
  /-- Whether tuples are told apart from lists. -/
  tellsTuples : Bool

namespace Spelling

/-- JSON without blanks, in ASCII, with words for NaN and the infinities. -/
def json : Spelling where
  null := "null"
  yes := "true"
  no := "false"
  special := ⟨"NaN", "Infinity"⟩
  quote := Text.quoteAscii
  comma := [',']
  colon := [':']
  tellsTuples := false

/-- Plain notation, in which every value has a text. -/
def plain : Spelling where
  null := "None"
  yes := "True"
  no := "False"
  special := ⟨"nan", "inf"⟩
  quote := Text.quotePlain
  comma := [',', ' ']
  colon := [':', ' ']
  tellsTuples := true

end Spelling

namespace Value

/-- A whole number in decimal. -/
def writeInt : Int → List Char
  | .ofNat n => Decimal.digits n
  | .negSucc n => '-' :: Decimal.digits (n + 1)

/-- Brackets around the texts of the items of a sequence. In plain notation a
    tuple of one item keeps a comma, which tells it from an item in round
    brackets. -/
def bracket (spelling : Spelling) (form : SequenceForm) (parts : List (List Char)) :
    List Char :=
  let inner := spelling.comma.intercalate parts
  if form = .tuple ∧ spelling.tellsTuples then
    '(' :: inner ++ (if parts.length = 1 then [',', ')'] else [')'])
  else '[' :: inner ++ [']']

mutual

/-- The text of a value in a spelling. -/
def write (spelling : Spelling) : Value → List Char
  | .null => spelling.null.toList
  | .bool b => (if b then spelling.yes else spelling.no).toList
  | .int n => writeInt n
  | .float x => x.compact spelling.special
  | .string s => spelling.quote s.toList
  | .bytes bs => Text.quoteBytes bs
  | .sequence form items => bracket spelling form (writeItems spelling items)
  | .object entries =>
    '{' :: spelling.comma.intercalate (writeEntries spelling entries) ++ ['}']

/-- The texts of several values. -/
def writeItems (spelling : Spelling) : List Value → List (List Char)
  | [] => []
  | v :: vs => write spelling v :: writeItems spelling vs

/-- The texts of entries, each a quoted name and a value. -/
def writeEntries (spelling : Spelling) : List (String × Value) → List (List Char)
  | [] => []
  | (name, v) :: rest =>
    (spelling.quote name.toList ++ spelling.colon ++ write spelling v)
      :: writeEntries spelling rest

end

/-! ### What cannot be written -/

/-- The least whole number with more than 4300 digits. No such number is ever
    written out. -/
def longInt : Nat := Nat.pow 10 4300

mutual

/-- Whether a whole number anywhere in the value is too long to be written. -/
def hasLongInt : Value → Bool
  | .int n => longInt ≤ n.natAbs
  | .sequence _ items => anyLongInt items
  | .object entries => entriesLongInt entries
  | _ => false

/-- Whether one of several values has a number too long to be written. -/
def anyLongInt : List Value → Bool
  | [] => false
  | v :: vs => hasLongInt v || anyLongInt vs

/-- Whether one of several entries has a number too long to be written. -/
def entriesLongInt : List (String × Value) → Bool
  | [] => false
  | (_, v) :: rest => hasLongInt v || entriesLongInt rest

end

mutual

/-- Whether bytes occur anywhere in the value. -/
def hasBytes : Value → Bool
  | .bytes _ => true
  | .sequence _ items => anyBytes items
  | .object entries => entriesBytes entries
  | _ => false

/-- Whether bytes occur in one of several values. -/
def anyBytes : List Value → Bool
  | [] => false
  | v :: vs => hasBytes v || anyBytes vs

/-- Whether bytes occur in one of several entries. -/
def entriesBytes : List (String × Value) → Bool
  | [] => false
  | (_, v) :: rest => hasBytes v || entriesBytes rest

end

/-- The plain notation of a value that can be written. -/
def plain? (v : Value) : Option String :=
  if v.hasLongInt then none else some (String.ofList (v.write .plain))

/-- How a value appears in a message: as JSON, or in plain notation if it
    holds bytes, which JSON does not have. -/
def describe? (v : Value) : Option String :=
  if v.hasLongInt then none
  else some (String.ofList (v.write (if v.hasBytes then .plain else .json)))

/-- A value as running text: a text as it is, any other value in plain
    notation. -/
def display? : Value → Option String
  | .string s => some s
  | v => v.plain?

end Value

end SymbolStyle

import SymbolStyle.Json.Reader
import SymbolStyle.Style.Fields
import SymbolStyle.Style.Notice

/-! # Style documents

    A style is stored as a JSON document in a file. Reading the file says
    nothing about the expressions in it; they are checked when the style is
    compiled.
-/

namespace SymbolStyle

/-- What is found at a path. -/
inductive FileState where
  | missing
  | directory
  /-- A file and its bytes. -/
  | file (bytes : ByteArray)

/-- Why a style document is not read. -/
inductive LoadError where
  | missing
  | directory
  /-- The bytes are not text in UTF-8. -/
  | notText
  /-- The text is not JSON. -/
  | notJson
  /-- A whole number has too many digits. -/
  | longInt
  /-- The document is not an object. -/
  | notAnObject
  /-- The document has no object for its symbol. -/
  | noSymbol
  deriving DecidableEq

namespace LoadError

/-- The message for an error. Two of them concern the text rather than the
    style and have none. -/
def message? (path : String) : LoadError → Option String
  | missing | directory => some s!"Unable to read style file '{path}'"
  | notJson => some s!"Style file '{path}' is not valid JSON"
  | notAnObject => some s!"Style file '{path}' must contain a JSON object"
  | noSymbol => some s!"Style file '{path}' has no 'symbol' object"
  | notText | longInt => none

end LoadError

namespace Style

/-- Reads the text of a style document. -/
def ofText (text : String) : Except LoadError Value := do
  let style ← match Json.read text.toList with
    | .ok style => .ok style
    | .error .malformed => .error .notJson
    | .error .longInt => .error .longInt
  if style.entries?.isNone then .error .notAnObject
  else if (Fields.symbol? style).isNone then .error .noSymbol
  else .ok style

/-- Reads the style document at a path. -/
def load : FileState → Except LoadError Value
  | .missing => .error .missing
  | .directory => .error .directory
  | .file bytes =>
    match String.fromUTF8? bytes with
    | some text => ofText text
    | none => .error .notText

/-- What there is to tell about a style that was read. -/
def loadNotice (path : String) (style : Value) : Notice :=
  .loaded path <| ((Fields.symbol? style).bind (·.get? "symbolType")).getD .null

end Style

end SymbolStyle

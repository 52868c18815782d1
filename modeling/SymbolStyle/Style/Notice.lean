import SymbolStyle.Value.Written

/-! # Notices

    What is worth telling about the work on a style without being an error:
    warnings, and details that only a curious user wants to see.
-/

namespace SymbolStyle

/-- How much a notice matters. -/
inductive Level where
  | debug
  | warning
  deriving DecidableEq

/-- The part of the work that a notice is about. -/
inductive Topic where
  /-- Reading a style document. -/
  | loading
  /-- Compiling a style. -/
  | compiling
  /-- Writing shader sources. -/
  | rendering
  deriving DecidableEq

/-- A notice. -/
inductive Notice where
  /-- The variables of a style are no object and are not looked at. -/
  | variablesIgnored (vars : Value)
  /-- An image has no source. -/
  | imageWithoutSource
  /-- The image of a texture was not found. -/
  | textureUnreadable (source : String)
  /-- A style document was read. -/
  | loaded (path : String) (symbolType : Value)
  /-- A style was compiled. -/
  | compiled (symbolType : String) (attributeNames variableNames : List String)
  /-- A shader was written. -/
  | rendered (stage : String) (lines : Nat)

namespace Notice

/-- How much the notice matters. -/
def level : Notice → Level
  | variablesIgnored _ | imageWithoutSource | textureUnreadable _ => .warning
  | loaded .. | compiled .. | rendered .. => .debug

/-- What the notice is about. -/
def topic : Notice → Topic
  | loaded .. => .loading
  | variablesIgnored _ | imageWithoutSource | textureUnreadable _ | compiled .. => .compiling
  | rendered .. => .rendering

/-- Names as a list in plain notation. -/
def listNames (names : List String) : String :=
  String.ofList ((Value.sequence .list (names.map .string)).write .plain)

/-- The text of the notice, if what it quotes can be written. -/
def message? : Notice → Option String
  | variablesIgnored vars => do
    return "Ignoring style variables that are not a mapping: " ++ (← vars.plain?)
  | imageWithoutSource =>
    some "Image symbol declared without 'src'; drawing untextured quads"
  | textureUnreadable source => some s!"Unable to load symbol texture from '{source}'"
  | loaded path symbolType => do
    return s!"Loaded style '{path}' (symbol type " ++ (← symbolType.display?) ++ ")"
  | compiled symbolType attributeNames variableNames =>
    some <| s!"Compiled {symbolType} symbol style: attributes=" ++ listNames attributeNames
      ++ " variables=" ++ listNames variableNames
  | rendered stage lines => some s!"Rendered symbol {stage} shader ({lines} lines)"

end Notice

end SymbolStyle

/-! # Kinds of values

    What a value can be used as. The kinds are not disjoint: a text that also
    names a color has a kind of its own, and the place where it is used
    decides what it means.
-/

namespace SymbolStyle

/-- The kind of a value. -/
inductive Kind where
  /-- Nothing that an expression can be. -/
  | unknown
  /-- A number. -/
  | number
  /-- A text that is no color. -/
  | string
  /-- A color that is not written as a text. -/
  | color
  /-- A text that is also a color. -/
  | colorOrString
  deriving DecidableEq

namespace Kind

/-- Whether a value of kind `actual` can stand where `expected` is wanted. A
    text that is also a color can stand for either. Nothing can stand where
    the wanted kind is unknown. -/
def accepts (expected actual : Kind) : Bool :=
  match expected, actual with
  | .unknown, _ => false
  | .string, .colorOrString => true
  | .color, .colorOrString => true
  | expected, actual => expected = actual

/-- The word for a kind in a message. -/
def label : Kind → String
  | .unknown => "unknown"
  | .number => "numeric"
  | .string => "string"
  | .color => "color"
  | .colorOrString => "color or string"

end Kind

end SymbolStyle

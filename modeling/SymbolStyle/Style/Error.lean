import SymbolStyle.Glsl.Constant
import SymbolStyle.Style.Symbol

/-! # Errors in styles

    What can be wrong with a style as a whole. Some errors concern an
    expression in a field and point to it; the others concern the shape of
    the style.
-/

namespace SymbolStyle

/-- A field of a style that holds expressions. -/
inductive Field where
  | size
  | offset
  | textureCoord
  | opacity
  | color
  | filter
  deriving DecidableEq

/-- The name of a field in a style. -/
def Field.name : Field → String
  | .size => "size"
  | .offset => "offset"
  | .textureCoord => "textureCoord"
  | .opacity => "opacity"
  | .color => "color"
  | .filter => "filter"

/-- A place for one expression: a field, or a component of one. -/
structure Slot where
  field : Field
  /-- The number of the component, if the field has several. -/
  component : Option Nat
  deriving DecidableEq

namespace Slot

/-- The place as messages call it. -/
def label (slot : Slot) : String :=
  match slot.component with
  | none => slot.field.name
  | some i => s!"{slot.field.name}[{i}]"

/-- The kind that fits a place. -/
def expected (slot : Slot) : Kind := if slot.field = .color then .color else .number

end Slot

/-- An error in a style. -/
inductive StyleError where
  /-- The style is no object, or its symbol is none. -/
  | noSymbol
  /-- A field without the number of components that it needs. -/
  | components (field : Field) (count : Nat) (found : Value)
  /-- An expression that is wrong by itself. -/
  | expression (e : ExpressionError)
  /-- An expression that does not fit its place. -/
  | wrongKind (slot : Slot) (found : Value) (actual : Kind)
  /-- An expression of which no code is made. -/
  | fault (f : Fault)
  /-- A symbol with an unknown shape. -/
  | unsupportedSymbol (found : Value)
  /-- An image source that has no text. -/
  | unwritableSource (found : Value)

namespace StyleError

/-- Whether the error concerns an expression. -/
def concernsExpression : StyleError → Bool
  | expression _ | wrongKind .. | fault (.expression _) => true
  | _ => false

/-- The message for the error, if what it quotes can be written. -/
def message? : StyleError → Option String
  | noSymbol => some "A literal style needs a 'symbol' object"
  | components field count found => do
    return s!"Style field '{field.name}' needs {count} components, got " ++ (← found.describe?)
  | expression e | fault (.expression e) => e.message?
  | wrongKind slot found actual => do
    return s!"Style field '{slot.label}' expects a {slot.expected.label} value, got "
      ++ (← found.describe?) ++ s!" ({actual.label}) instead"
  | fault (.conversion _) => none
  | unsupportedSymbol found => do
    return "Unexpected symbol type: " ++ (← found.plain?) ++ ", expected one of "
      ++ ", ".intercalate (Symbol.all.map Symbol.name)
  | unwritableSource _ => none

end StyleError

end SymbolStyle

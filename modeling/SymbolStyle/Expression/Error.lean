import SymbolStyle.Operator
import SymbolStyle.Value.Written

/-! # Errors in expressions

    What can be wrong with an expression. An error says what was found and
    where: `expression` is the part of the style to which a user is pointed,
    and `message?` is the line that is shown. A message quotes the part, so
    it does not exist if the part holds a number too long to be written.
-/

namespace SymbolStyle

/-- An error in an expression. -/
inductive ExpressionError where
  /-- A value that is no expression. -/
  | untyped (expression : Value)
  /-- An application of an operator that does not exist. -/
  | unknownOperator (expression : Value)
  /-- An application with the wrong number of operands. -/
  | arityMismatch (op : Operator) (given : Nat) (expression : Value)
  /-- An operand of a kind that the operator does not accept. -/
  | operandKind (op : Operator) (position : Nat) (expected : Kind) (operand : Value)
      (actual : Kind)
  /-- A number that is no finite double, in the given expression. -/
  | nonFinite (number expression : Value)
  /-- A text in the place of a color that writes no color. -/
  | colorText (text : String)
  /-- A value in the place of a color that is neither a text nor a sequence of
      numbers. -/
  | colorValue (color : Value)
  /-- A color with a number of channels that no color has. -/
  | channelCount (color : Value)
  /-- A number of components that no vector has. -/
  | vectorSize (components : List Value)

namespace ExpressionError

/-- The part of the style that is wrong. -/
def expression : ExpressionError → Value
  | untyped v | unknownOperator v | arityMismatch _ _ v | operandKind _ _ _ v _
  | nonFinite _ v | colorValue v | channelCount v => v
  | colorText text => .string text
  | vectorSize components => .sequence .list components

/-- The message for the error. -/
def message? : ExpressionError → Option String
  | untyped v => do
    return "No type could be inferred from the following expression: " ++ (← v.describe?)
  | unknownOperator v => do
    return "Unrecognized operator in style expression: " ++ (← v.describe?)
  | arityMismatch op given v => do
    return s!"Operator '{op.tag}' expects {op.arity} argument(s), got {given} in "
      ++ (← v.describe?)
  | operandKind op position expected operand actual => do
    return s!"A {expected.label} value was expected as argument {position} of '{op.tag}', got "
      ++ (← operand.describe?) ++ s!" ({actual.label}) instead"
  | nonFinite number _ => do
    return "Number " ++ (← number.describe?) ++ " cannot be written as a GLSL float"
  | colorText text => do
    return "Failed to parse " ++ (← (Value.string text).describe?) ++ " as a color"
  | colorValue v => do
    return "Expected a color string or a numeric array, got " ++ (← v.describe?)
  | channelCount v => do
    return "A color needs 3 or 4 channels, got " ++ (← v.describe?)
  | vectorSize components => do
    return "Only vec2, vec3 or vec4 arrays can be formatted, got "
      ++ (← (Value.sequence .list components).describe?)

end ExpressionError

end SymbolStyle

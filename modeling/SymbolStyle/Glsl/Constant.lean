import SymbolStyle.Color.Notation
import SymbolStyle.Expression.Error
import SymbolStyle.Glsl

/-! # Constants

    From values to GLSL constants: numbers, vectors and colors.

    * A number has to round to a finite double. Truth values and texts that
      write a number are also taken for numbers here.
    * A color is written with its levels scaled from the range up to 255 to
      the range up to 1, and alpha as it is. The scaled level of a whole
      number is its exact quotient rounded once.
-/

namespace SymbolStyle

/-- Why a value is not turned into a double. -/
inductive ConversionError where
  /-- The number is beyond the range of doubles. -/
  | tooLarge
  /-- The text writes no number. -/
  | unreadable
  /-- The value is of a type that is no number. -/
  | wrongType
  deriving DecidableEq

/-- Why no code is made of a value. -/
inductive Fault where
  /-- The expression is wrong. -/
  | expression (e : ExpressionError)
  /-- A number in it has no double. -/
  | conversion (e : ConversionError)

namespace Value

/-- The double that a value stands for, if it is taken for a number. -/
def toDouble : Value → Except ConversionError Double
  | .int n => if (Double.ofInt n).isFinite then .ok (.ofInt n) else .error .tooLarge
  | .float x => .ok x
  | .bool b => .ok (if b then .one else .zero)
  | .string text => (Double.read? text.toList).elim (.error .unreadable) .ok
  | .bytes bs =>
    if bs.all (· < 0x80) then
      (Double.read? (bs.map fun b => Char.ofNat b.toNat)).elim (.error .unreadable) .ok
    else .error .unreadable
  | _ => .error .wrongType

/-- The parts of a value that has parts in a row: the items of a sequence, the
    characters of a text, the numbers of bytes, the names of entries. -/
def parts? : Value → Option (List Value)
  | .sequence _ items => some items
  | .string text => some (text.toList.map fun c => .string (String.singleton c))
  | .bytes bs => some (bs.map fun b => .int b.toNat)
  | .object entries => some (entries.map fun entry => .string entry.1)
  | _ => none

/-- The channels of a color: those of a text that writes a color, or the
    numbers of a sequence as they are. -/
def channels : Value → Except ExpressionError (List Value)
  | .string text =>
    match Color.read? text with
    | some color => .ok color.toValues
    | none => .error (.colorText text)
  | .sequence form items =>
    if items.all isNumber then .ok items else .error (.colorValue (.sequence form items))
  | v => .error (.colorValue v)

end Value

namespace Glsl

/-- The literal of a number. A number too large for a double is as little
    finite as infinity is. -/
def literalOf (v : Value) : Except Fault Literal :=
  match v.toDouble with
  | .ok (.finite negative m) => .ok ⟨negative, m⟩
  | .ok _ => .error (.expression (.nonFinite v v))
  | .error .tooLarge => .error (.expression (.nonFinite v v))
  | .error e => .error (.conversion e)

/-- The vector of two, three or four numbers. -/
def vectorOf (components : List Value) : Except Fault Expr :=
  match Function.vector? components.length with
  | none => .error (.expression (.vectorSize components))
  | some constructor => do
    let literals ← components.mapM literalOf
    return .call constructor (literals.map .literal)

/-- A level scaled to the range up to 1. -/
def scaleLevel : Value → Except Fault Value
  | .int n =>
    let share := Double.ofQuotient (n < 0) n.natAbs 255
    if share.isFinite then .ok (.float share) else .error (.conversion .tooLarge)
  | .float x => .ok (.float (x.divNat 255))
  | v => .ok v

/-- The vector of a color, opaque if it has no alpha. -/
def colorOf (color : Value) : Except Fault Expr := do
  let channels ← (color.channels).mapError .expression
  let channels ← match channels with
    | [r, g, b] => .ok [r, g, b, .int 1]
    | [r, g, b, a] => .ok [r, g, b, a]
    | _ => .error (.expression (.channelCount color))
  let levels ← (channels.take 3).mapM scaleLevel
  vectorOf (levels ++ channels.drop 3)

end Glsl

end SymbolStyle

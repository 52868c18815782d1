import SymbolStyle.Expression.Names
import SymbolStyle.Expression.Typing
import SymbolStyle.Glsl.Constant

/-! # Lowering expressions

    From an expression to the GLSL expression that computes it.

    * Each operator has a template in which the trees of its operands are
      put. Where a template repeats an operand, its tree is repeated; reading
      an operand twice has no effect.
    * An operand is lowered towards the kind that its place in the signature
      wants, so a text that is also a color becomes a color where a color is
      wanted.
    * Names are registered on the way, when the application that reads them
      is made into a tree.
-/

namespace SymbolStyle

open Glsl (Expr)

namespace Operator

/-- The tree of an application, from the trees of its operands. The name that
    `get` or `var` reads is an operand that was lowered to a text. -/
def template? : Operator → List Expr → Option Expr
  | .get, [.quoted name] => some (.attribute name)
  | .var, [.quoted name] => some (.variable name)
  | .time, [] => some .time
  | .multiply, [a, b] => some (.grouped .multiply a b)
  | .divide, [a, b] => some (.grouped .divide a b)
  | .add, [a, b] => some (.grouped .add a b)
  | .subtract, [a, b] => some (.grouped .subtract a b)
  | .clamp, [x, low, high] => some (.call .clamp [x, low, high])
  | .mod, [a, b] => some (.call .mod [a, b])
  | .pow, [a, b] => some (.call .pow [a, b])
  | .stretch, [x, low, high, newLow, newHigh] =>
    let along := .grouped .subtract (.call .clamp [x, low, high]) low
    let factor := .grouped .divide (.grouped .subtract newHigh newLow) (.grouped .subtract high low)
    some (.grouped .add (.binary .multiply along factor) newLow)
  | .interpolate, [ratio, start, stop] => some (.call .mix [start, stop, ratio])
  | .greater, [a, b] => some (.decision (.binary .greater a b) true false)
  | .greaterOrEqual, [a, b] => some (.decision (.binary .greaterOrEqual a b) true false)
  | .less, [a, b] => some (.decision (.binary .less a b) true false)
  | .lessOrEqual, [a, b] => some (.decision (.binary .lessOrEqual a b) true false)
  | .equal, [a, b] => some (.decision (.binary .equal a b) true false)
  | .not, [a] => some (.decision (.binary .greater a (.truth false)) false true)
  | .between, [x, low, high] =>
    some (.decision (.binary .and (.binary .greaterOrEqual x low) (.binary .lessOrEqual x high))
      true false)
  | _, _ => none

/-- What an application reads itself, apart from what its operands read. -/
def ownReadings : Operator → List Expr → List Reading
  | .get, [.quoted name] => [.attribute name]
  | .var, [.quoted name] => [.variable name]
  | _, _ => []

end Operator

namespace Value

/-- Lowers a value that is no application. A text stays a text unless
    something else is wanted; what is neither a text nor a number is a
    color. -/
def lowerPlain (v : Value) (wanted : Option Kind) : Except Fault Expr :=
  if v.isNumber then (Glsl.literalOf v).map .literal
  else match v with
    | .string text =>
      if wanted = none ∨ wanted = some .string then .ok (.quoted text) else Glsl.colorOf v
    | v => Glsl.colorOf v

mutual

/-- Lowers an expression, towards a kind if one is wanted, and registers the
    names that it reads. -/
def lower : Value → Option Kind → Names → Except Fault (Expr × Names)
  | .sequence form (.string tag :: operands), wanted, names =>
    match Operator.ofTag? tag with
    | none => return (← lowerPlain (.sequence form (.string tag :: operands)) wanted, names)
    | some op => do
      let (trees, names) ← lowerOperands op.postponesFirst op.signature operands names
      match op.template? trees with
      | some tree => .ok (tree, names.add (op.ownReadings trees))
      | none =>
        .error <| .expression <|
          .arityMismatch op operands.length (.sequence form (.string tag :: operands))
  | v, wanted, names => return (← lowerPlain v wanted, names)

/-- Lowers operands towards the kinds that are wanted of them: from left to
    right, or the first one after the others. -/
def lowerOperands (firstLast : Bool) :
    List Kind → List Value → Names → Except Fault (List Expr × Names)
  | expected :: signature, operand :: operands, names =>
    if firstLast then do
      let (trees, names) ← lowerOperands false signature operands names
      let (tree, names) ← lower operand (some expected) names
      return (tree :: trees, names)
    else do
      let (tree, names) ← lower operand (some expected) names
      let (trees, names) ← lowerOperands false signature operands names
      return (tree :: trees, names)
  | _, _, names => .ok ([], names)

end

end Value

end SymbolStyle

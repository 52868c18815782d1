import SymbolStyle.Color.Notation
import SymbolStyle.Expression.Error

/-! # Typing of expressions

    Which values are expressions, and of what kind.

    * `Value.kind` looks at a value from outside: the operands of an
      application are not looked at, and a value that is no expression is of
      unknown kind.
    * `Value.validate` goes through the whole value and reports the first
      thing that is wrong, operands from left to right.
-/

namespace SymbolStyle

namespace Value

/-- Whether a text writes a color. -/
def isColorText (text : String) : Bool := (Color.read? text).isSome

/-- Whether items are the channels of a color: three or four numbers. -/
def areChannels (items : List Value) : Bool :=
  (items.length = 3 || items.length = 4) && items.all isNumber

/-- The kind of the application that a sequence starts. -/
def headKind : List Value → Kind
  | .string tag :: _ => ((Operator.ofTag? tag).map Operator.returns).getD .unknown
  | _ => .unknown

/-- The kind of a value. -/
def kind : Value → Kind
  | .int _ => .number
  | .float _ => .number
  | .string text => if isColorText text then .colorOrString else .string
  | .sequence _ items => if areChannels items then .color else headKind items
  | _ => .unknown

/-- Whether a number is a finite double, or rounds to one. -/
def isFiniteNumber (v : Value) : Bool := v.number?.any Double.isFinite

/-- The first of several values that is a number but not a finite one. -/
def findNonFinite? (items : List Value) : Option Value :=
  items.find? fun v => v.isNumber && !v.isFiniteNumber

/-- Checks a value that is no application: its numbers are finite and its kind
    is known. -/
def validatePlain (v : Value) (numbers : List Value) : Except ExpressionError Unit :=
  match findNonFinite? numbers with
  | some number => .error (.nonFinite number v)
  | none => if v.kind = .unknown then .error (.untyped v) else .ok ()

mutual

/-- Checks that a value is an expression. -/
def validate : Value → Except ExpressionError Unit
  | .sequence form (.string tag :: operands) =>
    match Operator.ofTag? tag with
    | none => .error (.unknownOperator (.sequence form (.string tag :: operands)))
    | some op =>
      if operands.length ≠ op.arity then
        .error (.arityMismatch op operands.length (.sequence form (.string tag :: operands)))
      else validateOperands op 1 op.signature operands
  | .sequence form items => validatePlain (.sequence form items) items
  | v => validatePlain v [v]

/-- Checks operands from a position on against the kinds that are wanted
    there. -/
def validateOperands (op : Operator) (position : Nat) :
    List Kind → List Value → Except ExpressionError Unit
  | expected :: signature, operand :: operands => do
    validate operand
    if expected.accepts operand.kind then
      validateOperands op (position + 1) signature operands
    else .error (.operandKind op position expected operand operand.kind)
  | _, _ => .ok ()

end

/-- Whether a value can be used as a number. -/
def isNumeric (v : Value) : Bool := v.kind = .number

/-- Whether a value can be used as a text. -/
def isText (v : Value) : Bool := Kind.string.accepts v.kind

/-- Whether a value can be used as a color. -/
def isColor (v : Value) : Bool := Kind.color.accepts v.kind

end Value

end SymbolStyle

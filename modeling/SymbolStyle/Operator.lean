import SymbolStyle.Kind

/-! # Operators

    The operators of the expression language. An application is a sequence
    that starts with the operator's tag; the operands follow. Each operator
    has a signature, the kinds of its operands in order, and a kind of
    result.
-/

namespace SymbolStyle

/-- An operator. -/
inductive Operator where
  /-- Reads a property of the feature that is drawn. -/
  | get
  /-- Reads a variable of the style. -/
  | var
  /-- Reads the clock. -/
  | time
  | multiply
  | divide
  | add
  | subtract
  /-- Limits a number to a range. -/
  | clamp
  /-- Maps a range linearly to another one. -/
  | stretch
  | mod
  | pow
  /-- Mixes two colors. -/
  | interpolate
  | greater
  | greaterOrEqual
  | less
  | lessOrEqual
  | equal
  | not
  /-- Tells whether a number lies in a range, bounds included. -/
  | between
  deriving DecidableEq

namespace Operator

/-- All operators. -/
def all : List Operator :=
  [.get, .var, .time, .multiply, .divide, .add, .subtract, .clamp, .stretch, .mod, .pow,
    .interpolate, .greater, .greaterOrEqual, .less, .lessOrEqual, .equal, .not, .between]

/-- The text that stands for the operator in an application. -/
def tag : Operator → String
  | .get => "get"
  | .var => "var"
  | .time => "time"
  | .multiply => "*"
  | .divide => "/"
  | .add => "+"
  | .subtract => "-"
  | .clamp => "clamp"
  | .stretch => "stretch"
  | .mod => "mod"
  | .pow => "pow"
  | .interpolate => "interpolate"
  | .greater => ">"
  | .greaterOrEqual => ">="
  | .less => "<"
  | .lessOrEqual => "<="
  | .equal => "=="
  | .not => "!"
  | .between => "between"

/-- The operator of a tag. -/
def ofTag? (tag : String) : Option Operator := all.find? (·.tag = tag)

/-- The kinds of the operands. -/
def signature : Operator → List Kind
  | .get | .var => [.string]
  | .time => []
  | .not => [.number]
  | .clamp | .between => [.number, .number, .number]
  | .stretch => [.number, .number, .number, .number, .number]
  | .interpolate => [.number, .color, .color]
  | _ => [.number, .number]

/-- The number of operands. -/
def arity (op : Operator) : Nat := op.signature.length

/-- The kind of the result. Truth values are the numbers 0 and 1. -/
def returns : Operator → Kind
  | .interpolate => .color
  | _ => .number

/-- Whether the operator is one of the four arithmetic ones. -/
def isArithmetic : Operator → Bool
  | .multiply | .divide | .add | .subtract => true
  | _ => false

/-- Whether the operator compares two numbers. -/
def isComparison : Operator → Bool
  | .greater | .greaterOrEqual | .less | .lessOrEqual | .equal => true
  | _ => false

theorem ofTag?_tag (op : Operator) : ofTag? op.tag = some op := by
  cases op <;> decide

theorem tag_of_ofTag? {tag : String} {op : Operator} (h : ofTag? tag = some op) :
    op.tag = tag := by
  simpa using List.find?_some h

theorem returns_ne_unknown (op : Operator) : op.returns ≠ .unknown := by
  cases op <;> decide

end Operator

end SymbolStyle

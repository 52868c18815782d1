import SymbolStyle.Number.Decimal

/-! # GLSL expressions

    The expressions of the shading language that compiled styles consist of,
    as trees, and their text.

    * A tree holds every pair of round brackets of its text as a `group`, so
      the text is fixed by the tree.
    * Names of attributes and variables are kept as the style writes them.
      Variables are read under a fixed stem; the stem of attributes is chosen
      when a tree is written, because vertex and fragment shaders read them
      under different ones.
-/

namespace SymbolStyle.Glsl

/-- A binary operator. -/
inductive BinaryOperator where
  | multiply
  | divide
  | add
  | subtract
  | greater
  | greaterOrEqual
  | less
  | lessOrEqual
  | equal
  | and
  deriving DecidableEq

/-- The text of a binary operator. -/
def BinaryOperator.text : BinaryOperator → String
  | .multiply => "*"
  | .divide => "/"
  | .add => "+"
  | .subtract => "-"
  | .greater => ">"
  | .greaterOrEqual => ">="
  | .less => "<"
  | .lessOrEqual => "<="
  | .equal => "=="
  | .and => "&&"

/-- A function or constructor of the language. -/
inductive Function where
  | clamp
  | mod
  | pow
  | mix
  | vec2
  | vec3
  | vec4
  deriving DecidableEq

/-- The name of a function. -/
def Function.name : Function → String
  | .clamp => "clamp"
  | .mod => "mod"
  | .pow => "pow"
  | .mix => "mix"
  | .vec2 => "vec2"
  | .vec3 => "vec3"
  | .vec4 => "vec4"

/-- The constructor of vectors with a number of components. -/
def Function.vector? : Nat → Option Function
  | 2 => some .vec2
  | 3 => some .vec3
  | 4 => some .vec4
  | _ => none

/-- A number that can be written as a literal: a finite one. -/
structure Literal where
  /-- Whether the literal starts with a minus, as that of negative zero does. -/
  negative : Bool
  /-- The number without its sign. -/
  magnitude : Magnitude
  deriving DecidableEq

/-- The text of a literal: always with a decimal point, never with a power of
    ten. -/
def Literal.text (l : Literal) : List Char :=
  Double.signed l.negative l.magnitude.shortest.positional

/-- An expression of the shading language. -/
inductive Expr where
  /-- A number. -/
  | literal (number : Literal)
  /-- A text between quotes. The language has no texts; where a style computes
      one, its code shows it. -/
  | quoted (text : String)
  /-- A property of the feature that is drawn. -/
  | attribute (name : String)
  /-- A variable of the style. -/
  | variable (name : String)
  /-- The clock. -/
  | time
  /-- An operator between two expressions. -/
  | binary (op : BinaryOperator) (left right : Expr)
  /-- A choice between two expressions. -/
  | choice (condition yes no : Expr)
  /-- A function applied to arguments. -/
  | call (function : Function) (arguments : List Expr)
  /-- An expression in round brackets. -/
  | group (inner : Expr)

/-- The stem under which variables are read. -/
def variableStem : String := "u_"

/-- The name under which the clock is read. -/
def timeName : String := "u_time"

namespace Expr

mutual

/-- The text of an expression, with `stem` in front of the names of
    attributes. -/
def render (stem : String) : Expr → List Char
  | .literal number => number.text
  | .quoted text => '"' :: text.toList ++ ['"']
  | .attribute name => stem.toList ++ name.toList
  | .variable name => variableStem.toList ++ name.toList
  | .time => timeName.toList
  | .binary op left right =>
    render stem left ++ ' ' :: op.text.toList ++ ' ' :: render stem right
  | .choice condition yes no =>
    render stem condition ++ " ? ".toList ++ render stem yes ++ " : ".toList ++ render stem no
  | .call function arguments =>
    function.name.toList ++ '(' :: [',', ' '].intercalate (renderAll stem arguments) ++ [')']
  | .group inner => '(' :: render stem inner ++ [')']

/-- The texts of several expressions. -/
def renderAll (stem : String) : List Expr → List (List Char)
  | [] => []
  | e :: es => render stem e :: renderAll stem es

end

/-- The text of an expression as a string. -/
def text (e : Expr) (stem : String) : String := String.ofList (e.render stem)

/-- An operator between two expressions, in round brackets. -/
def grouped (op : BinaryOperator) (left right : Expr) : Expr := .group (.binary op left right)

/-- The number that stands for a truth value. -/
def truth (b : Bool) : Expr := .literal ⟨false, if b then .one else .zero⟩

/-- The choice between two truth values, in round brackets. -/
def decision (condition : Expr) (yes no : Bool) : Expr :=
  .group (.choice condition (truth yes) (truth no))

end Expr

end SymbolStyle.Glsl

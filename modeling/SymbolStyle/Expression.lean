import SymbolStyle.Expression.Lowering

/-! # Compiling expressions

    An expression is checked as a whole before any code is made of it, and
    names are registered only if code was made.

    * `Value.compile` compiles one expression.
    * `Request.answerAll` compiles several in turn over the same names. One
      that fails registers nothing and does not stop the others.
-/

namespace SymbolStyle

namespace Value

/-- The GLSL expression that computes a valid expression, towards a kind if
    one is wanted, and the names after it was made. -/
def toGlsl (v : Value) (wanted : Option Kind) (names : Names) :
    Except Fault (Glsl.Expr × Names) := do
  v.validate.mapError .expression
  v.lower wanted names

/-- Compiles an expression to code and registers the names that it reads. The
    names of attributes appear in the code behind a stem. -/
def compile (v : Value) (stem : String) (wanted : Option Kind) (names : Names) :
    Except Fault (String × Names) := do
  let (tree, found) ← v.toGlsl wanted names
  return (tree.text stem, names.extend found)

end Value

/-- What is to be compiled. -/
structure Request where
  value : Value
  /-- What stands in front of the names of attributes in the code. -/
  stem : String
  /-- The kind that is wanted, if one is. -/
  wanted : Option Kind

/-- What became of a request. -/
structure Answer where
  /-- The code, or why there is none. -/
  code : Except Fault String
  /-- The names that are registered now. -/
  names : Names

namespace Request

/-- Compiles what is requested. -/
def answer (r : Request) (names : Names) : Answer :=
  match r.value.compile r.stem r.wanted names with
  | .ok (code, after) => ⟨.ok code, after⟩
  | .error fault => ⟨.error fault, names⟩

/-- Answers requests in turn, each with the names that the ones before it have
    left. -/
def answerAll (names : Names) : List Request → List Answer
  | [] => []
  | r :: rest => r.answer names :: answerAll (r.answer names).names rest

end Request

end SymbolStyle

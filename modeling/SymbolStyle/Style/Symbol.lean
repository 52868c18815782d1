import SymbolStyle.Value

/-! # Symbols

    The shapes that a point can be drawn as. A shape is cut out of the quad of
    the symbol by an opacity mask, an expression over the position in the
    quad; an image fills the quad.
-/

namespace SymbolStyle

/-- The shape of a symbol. -/
inductive Symbol where
  | square
  | circle
  | triangle
  | image
  deriving DecidableEq

namespace Symbol

/-- All shapes, in the order in which messages list them. -/
def all : List Symbol := [.square, .circle, .triangle, .image]

/-- The name of a shape in a style. -/
def name : Symbol → String
  | .square => "square"
  | .circle => "circle"
  | .triangle => "triangle"
  | .image => "image"

/-- The shape that a style names. -/
def ofValue? : Value → Option Symbol
  | .string text => all.find? (·.name = text)
  | _ => none

/-- The opacity mask of a shape. The edge is smoothed over a few pixels,
    whatever the size of the symbol, so the mask depends on the code of the
    size. -/
def mask (symbol : Symbol) (size : String) : String :=
  match symbol with
  | .square | .image => "1.0"
  | .circle =>
    "(1.0-smoothstep(1.-4./" ++ size ++ ",1.,dot(v_quadCoord-.5,v_quadCoord-.5)*4.))"
  | .triangle =>
    let point := "(v_quadCoord*2.-1.)"
    let angle := "(atan(" ++ point ++ ".x," ++ point ++ ".y))"
    -- A third of the full circle.
    let period := "2.094395102"
    "(1.0-smoothstep(.5-3./" ++ size ++ ",.5,cos(floor(.5+" ++ angle ++ "/" ++ period ++ ")*"
      ++ period ++ "-" ++ angle ++ ")*length(" ++ point ++ ")))"

theorem ofValue?_name (symbol : Symbol) : ofValue? (.string symbol.name) = some symbol := by
  cases symbol <;> decide

end Symbol

end SymbolStyle

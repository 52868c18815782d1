import SymbolStyle.Style.Error

/-! # Fields of a style

    The expressions of a style in their places. A field that is left out has a
    default; for all fields but size and opacity a vacant value counts as
    left out. Only the shape of the fields is looked at here.
-/

namespace SymbolStyle

/-- The expressions and settings of a style. -/
structure Fields where
  /-- Width and height. -/
  size : Value × Value
  offset : Value × Value
  /-- The bounds of the texture: left, bottom, right, top. -/
  textureCoord : Value × Value × Value × Value
  opacity : Value
  color : Value
  /-- The condition under which the symbol is drawn, if there is one. -/
  filter : Option Value
  /-- What the style gives as the shape. -/
  symbolType : Value
  rotatesWithView : Bool
  /-- Where an image is found, if it is given. -/
  source : Option Value

namespace Fields

/-- The pair of components of a field. -/
def pairOf (field : Field) (v : Value) : Except StyleError (Value × Value) :=
  match v.items? with
  | some [a, b] => .ok (a, b)
  | _ => .error (.components field 2 v)

/-- The four components of a field. -/
def fourOf (field : Field) (v : Value) :
    Except StyleError (Value × Value × Value × Value) :=
  match v.items? with
  | some [a, b, c, d] => .ok (a, b, c, d)
  | _ => .error (.components field 4 v)

/-- Width and height of a size. A sequence that starts with a number has a
    component for each; any other value is an expression for both. -/
def sizeOf (v : Value) : Except StyleError (Value × Value) :=
  match v.items? with
  | some (first :: _) => if first.isNumber then pairOf .size v else .ok (v, v)
  | _ => .ok (v, v)

/-- A tuple of whole numbers. -/
def wholeTuple (numbers : List Int) : Value := .sequence .tuple (numbers.map .int)

/-- The entry of a name, unless it is vacant. -/
def given? (object : Value) (name : String) : Option Value :=
  (object.get? name).bind Value.given?

/-- The symbol of a style, which has to be an object. -/
def symbol? (style : Value) : Option Value :=
  (style.get? "symbol").filter fun symbol => symbol.entries?.isSome

/-- The fields of a style with the given symbol. -/
def ofSymbol (style symbol : Value) : Except StyleError Fields := do
  let size ← sizeOf ((symbol.get? "size").getD .null)
  let textureCoord ←
    fourOf .textureCoord ((given? symbol "textureCoord").getD (wholeTuple [0, 0, 1, 1]))
  let offset ← pairOf .offset ((given? symbol "offset").getD (wholeTuple [0, 0]))
  return {
    size
    offset
    textureCoord
    opacity := (symbol.get? "opacity").getD (.int 1)
    color := (given? symbol "color").getD (.string "white")
    filter := given? style "filter"
    symbolType := (symbol.get? "symbolType").getD .null
    rotatesWithView := (given? symbol "rotateWithView").isSome
    source := given? symbol "src" }

end Fields

end SymbolStyle

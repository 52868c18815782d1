/-! # Shader programs for symbols

    What the vertex and the fragment shader of a point symbol are made of:
    declarations, and the expressions that fill the slots of fixed
    boilerplate. Nothing is checked here; the texts come from compiled
    expressions or from a caller who knows what they mean.
-/

namespace SymbolStyle

/-- A value that the vertex shader computes per vertex and the fragment shader
    receives interpolated. -/
structure Varying where
  name : String
  type : String
  /-- What the vertex shader assigns to it. -/
  expression : String
  deriving DecidableEq

/-- The parts of the two shaders of a symbol. Declarations include their
    type. -/
structure Program where
  /-- Inputs that both shaders have in common. -/
  uniforms : List String
  /-- Inputs of the vertex shader, per vertex. -/
  attributes : List String
  varyings : List Varying
  /-- Width and height of the symbol. -/
  size : String
  /-- Displacement of the symbol from its point. -/
  offset : String
  /-- Color of a fragment. -/
  color : String
  /-- The part of the texture that the symbol shows. -/
  textureBounds : String
  /-- The condition under which a fragment is not drawn. -/
  discard : String
  /-- Whether the symbol follows the rotation of the view. -/
  rotatesWithView : Bool
  deriving DecidableEq

namespace Program

/-- A white square of unit size, of which every fragment is drawn. -/
def blank : Program where
  uniforms := []
  attributes := []
  varyings := []
  size := "vec2(1.0)"
  offset := "vec2(0.0)"
  color := "vec4(1.0)"
  textureBounds := "vec4(0.0, 0.0, 1.0, 1.0)"
  discard := "false"
  rotatesWithView := false

/-- One step in the making of a program: a further declaration, or a new
    filling of a slot. -/
inductive Change where
  | uniform (declaration : String)
  | attribute (declaration : String)
  | varying (v : Varying)
  | size (expression : String)
  | offset (expression : String)
  | color (expression : String)
  | textureBounds (expression : String)
  | discard (condition : String)
  | rotatesWithView (b : Bool)

/-- The program after a change. -/
def apply (p : Program) : Change → Program
  | .uniform declaration => { p with uniforms := p.uniforms ++ [declaration] }
  | .attribute declaration => { p with attributes := p.attributes ++ [declaration] }
  | .varying v => { p with varyings := p.varyings ++ [v] }
  | .size expression => { p with size := expression }
  | .offset expression => { p with offset := expression }
  | .color expression => { p with color := expression }
  | .textureBounds expression => { p with textureBounds := expression }
  | .discard condition => { p with discard := condition }
  | .rotatesWithView b => { p with rotatesWithView := b }

/-- The program after several changes to a blank one. -/
def ofChanges (changes : List Change) : Program := changes.foldl apply blank

theorem ofChanges_concat (changes : List Change) (change : Change) :
    ofChanges (changes ++ [change]) = (ofChanges changes).apply change := by
  simp [ofChanges, List.foldl_append]

end Program

end SymbolStyle

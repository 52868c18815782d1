import SymbolStyle.Shader.Program

/-! # Shader sources

    The texts of the two shaders of a program, line by line.

    * The boilerplate declares inputs of its own: three matrices and the clock
      as uniforms, the position and the index of a vertex in its quad, from 0
      to 3, as attributes, and the positions on the texture and in the quad
      as varyings.
    * A list of declarations without members leaves an empty line.
    * Colors leave the fragment shader premultiplied by alpha.
-/

namespace SymbolStyle.Program

/-- The lines of a block, of which at least one exists. -/
def block (lines : List String) : List String := if lines = [] then [""] else lines

/-- The precision of numbers in the shaders. -/
def precisionLine : String := "precision mediump float;"

/-- The declarations of uniforms. -/
def uniformLines (p : Program) : List String :=
  block (p.uniforms.map fun declaration => "uniform " ++ declaration ++ ";")

/-- The declarations of attributes. -/
def attributeLines (p : Program) : List String :=
  block (p.attributes.map fun declaration => "attribute " ++ declaration ++ ";")

/-- The declarations of varyings. -/
def varyingLines (p : Program) : List String :=
  block (p.varyings.map fun v => "varying " ++ v.type ++ " " ++ v.name ++ ";")

/-- The assignments to varyings. -/
def assignmentLines (p : Program) : List String :=
  block (p.varyings.map fun v => "  " ++ v.name ++ " = " ++ v.expression ++ ";")

/-- The matrix that carries offsets to the screen. -/
def offsetMatrix (p : Program) : String :=
  if p.rotatesWithView then "u_offsetScaleMatrix * u_offsetRotateMatrix"
  else "u_offsetScaleMatrix"

/-- The lines of the vertex shader. -/
def vertexLines (p : Program) : List String :=
  [precisionLine,
    "uniform mat4 u_projectionMatrix;",
    "uniform mat4 u_offsetScaleMatrix;",
    "uniform mat4 u_offsetRotateMatrix;",
    "uniform float u_time;"]
  ++ p.uniformLines
  ++ ["attribute vec2 a_position;",
    "attribute float a_index;"]
  ++ p.attributeLines
  ++ ["varying vec2 v_texCoord;",
    "varying vec2 v_quadCoord;"]
  ++ p.varyingLines
  ++ ["void main(void) \x7b",
    "  mat4 offsetMatrix = " ++ p.offsetMatrix ++ ";",
    "  vec2 size = " ++ p.size ++ ";",
    "  vec2 offset = " ++ p.offset ++ ";",
    "  float offsetX = a_index == 0.0 || a_index == 3.0 ? "
      ++ "offset.x - size.x / 2.0 : offset.x + size.x / 2.0;",
    "  float offsetY = a_index == 0.0 || a_index == 1.0 ? "
      ++ "offset.y - size.y / 2.0 : offset.y + size.y / 2.0;",
    "  vec4 offsets = offsetMatrix * vec4(offsetX, offsetY, 0.0, 0.0);",
    "  gl_Position = u_projectionMatrix * vec4(a_position, 0.0, 1.0) + offsets;",
    "  vec4 texCoord = " ++ p.textureBounds ++ ";",
    "  float u = a_index == 0.0 || a_index == 3.0 ? texCoord.s : texCoord.q;",
    "  float v = a_index == 2.0 || a_index == 3.0 ? texCoord.t : texCoord.p;",
    "  v_texCoord = vec2(u, v);",
    "  u = a_index == 0.0 || a_index == 3.0 ? 0.0 : 1.0;",
    "  v = a_index == 2.0 || a_index == 3.0 ? 0.0 : 1.0;",
    "  v_quadCoord = vec2(u, v);"]
  ++ p.assignmentLines
  ++ ["\x7d"]

/-- The lines of the fragment shader. -/
def fragmentLines (p : Program) : List String :=
  [precisionLine,
    "uniform float u_time;"]
  ++ p.uniformLines
  ++ ["varying vec2 v_texCoord;",
    "varying vec2 v_quadCoord;"]
  ++ p.varyingLines
  ++ ["void main(void) \x7b",
    "  if (" ++ p.discard ++ ") \x7b discard; \x7d",
    "  gl_FragColor = " ++ p.color ++ ";",
    "  gl_FragColor.rgb *= gl_FragColor.a;",
    "\x7d"]

/-- The text of the vertex shader. -/
def vertexSource (p : Program) : String := "\n".intercalate p.vertexLines

/-- The text of the fragment shader. -/
def fragmentSource (p : Program) : String := "\n".intercalate p.fragmentLines

end SymbolStyle.Program

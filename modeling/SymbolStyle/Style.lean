import SymbolStyle.Expression
import SymbolStyle.Shader.Source
import SymbolStyle.Style.Fields
import SymbolStyle.Style.Notice

/-! # Compiling styles

    From a style to a shader program and to the inputs that feed it.

    * Every expression is checked and made into code in its place, in a fixed
      order of places, so the first wrong one decides the error.
    * The vertex shader reads attributes directly. The fragment shader reads
      them through varyings of the same name under another stem, so whatever
      it reads is an attribute of the vertex shader too.
    * Every variable is a uniform. Its value is looked up in the style when it
      is read, not when the style is compiled.
-/

namespace SymbolStyle

open Glsl (Expr)

/-- What a uniform is bound to. -/
inductive Binding where
  /-- The current value of a variable of the style. -/
  | variable (name : String)
  /-- The image at a place. -/
  | texture (source : String)
  deriving DecidableEq

/-- The trees of the expressions of a style. -/
structure Trees where
  size : Expr × Expr
  offset : Expr × Expr
  textureCoord : Expr × Expr × Expr × Expr
  opacity : Expr
  color : Expr
  filter : Option Expr

/-- A compiled style. -/
structure CompiledStyle where
  program : Program
  /-- The properties of features that are read, in the order of the
      attributes of the program. -/
  attributes : List String
  /-- The names of the uniforms and what they are bound to. -/
  uniforms : Entries Binding

/-- What compiling a style leads to. -/
structure Outcome where
  /-- What there is to tell, in order. -/
  notices : List Notice
  result : Except StyleError CompiledStyle

namespace Style

/-- The stem of attributes in the vertex shader. -/
def attributeStem : String := "a_"

/-- The stem of attributes in the fragment shader. -/
def varyingStem : String := "v_"

/-- The name of the texture of an image. -/
def textureName : String := "u_texture"

/-! ### Expressions in their places -/

/-- Checks that an expression is valid and fits its place, and makes code of
    it. -/
def compileSlot (slot : Slot) (v : Value) : Except StyleError Expr := do
  v.validate.mapError .expression
  if slot.expected.accepts v.kind then
    let wanted := if slot.field = .color then some .color else none
    ((v.lower wanted .empty).map Prod.fst).mapError .fault
  else .error (.wrongKind slot v v.kind)

/-- Makes code of all expressions of a style. -/
def compileFields (fields : Fields) : Except StyleError Trees := do
  let part := fun field i v => compileSlot ⟨field, some i⟩ v
  let width ← part .size 0 fields.size.1
  let height ← part .size 1 fields.size.2
  let x ← part .offset 0 fields.offset.1
  let y ← part .offset 1 fields.offset.2
  let s ← part .textureCoord 0 fields.textureCoord.1
  let t ← part .textureCoord 1 fields.textureCoord.2.1
  let p ← part .textureCoord 2 fields.textureCoord.2.2.1
  let q ← part .textureCoord 3 fields.textureCoord.2.2.2
  let opacity ← compileSlot ⟨.opacity, none⟩ fields.opacity
  let color ← compileSlot ⟨.color, none⟩ fields.color
  let filter ← match fields.filter with
    | none => .ok none
    | some v => (compileSlot ⟨.filter, none⟩ v).map some
  return ⟨(width, height), (x, y), (s, t, p, q), opacity, color, filter⟩

/-! ### Names that are read -/

/-- The expressions that the vertex shader computes. -/
def vertexExpressions (fields : Fields) : List Value :=
  [fields.size.1, fields.size.2, fields.offset.1, fields.offset.2, fields.textureCoord.1,
    fields.textureCoord.2.1, fields.textureCoord.2.2.1, fields.textureCoord.2.2.2]

/-- The expressions that the fragment shader computes. The mask needs the
    width. -/
def fragmentExpressions (fields : Fields) : List Value :=
  [fields.size.1, fields.color, fields.opacity] ++ fields.filter.toList

/-- All expressions, in the order in which variables are registered. -/
def allExpressions (fields : Fields) : List Value :=
  [fields.size.1, fields.color] ++ vertexExpressions fields ++ [fields.opacity]
    ++ fields.filter.toList

/-- The names of the attributes that expressions read, each once. -/
def attributesOf (expressions : List Value) : List String :=
  register [] (Reading.attributeNames (expressions.flatMap Value.readings))

/-- The attributes of a style: first those that the vertex shader reads, then
    those that only the fragment shader does. -/
def allAttributes (fields : Fields) : List String :=
  register (attributesOf (vertexExpressions fields)) (attributesOf (fragmentExpressions fields))

/-- The names of the variables that expressions read, each once. -/
def variablesOf (expressions : List Value) : List String :=
  register [] (Reading.variableNames (expressions.flatMap Value.readings))

/-! ### The program -/

/-- The color slot: the color, its alpha multiplied by the opacity and by the
    mask of the shape, and the whole by the texture if there is one. -/
def colorSlot (trees : Trees) (symbol : Symbol) (textured : Bool) : String :=
  let code := fun e : Expr => e.text varyingStem
  let color := code trees.color
  "vec4(" ++ color ++ ".rgb, " ++ color ++ ".a * " ++ code trees.opacity ++ " * "
    ++ symbol.mask (code trees.size.1) ++ ")"
    ++ (if textured then " * texture2D(" ++ textureName ++ ", v_texCoord)" else "")

/-- The program of a style. -/
def programOf (fields : Fields) (trees : Trees) (symbol : Symbol) (textured : Bool) :
    Program :=
  let code := fun e : Expr => e.text attributeStem
  let (s, t, p, q) := trees.textureCoord
  { uniforms :=
      (variablesOf (allExpressions fields)).map (fun name => "float " ++ Glsl.variableStem ++ name)
        ++ (if textured then ["sampler2D " ++ textureName] else [])
    attributes := (allAttributes fields).map fun name => "float " ++ attributeStem ++ name
    varyings := (attributesOf (fragmentExpressions fields)).map fun name =>
      ⟨varyingStem ++ name, "float", attributeStem ++ name⟩
    size := "vec2(" ++ code trees.size.1 ++ ", " ++ code trees.size.2 ++ ")"
    offset := "vec2(" ++ code trees.offset.1 ++ ", " ++ code trees.offset.2 ++ ")"
    textureBounds := "vec4(" ++ ", ".intercalate ([s, t, p, q].map code) ++ ")"
    color := colorSlot trees symbol textured
    discard := match trees.filter with
      | some e => e.text varyingStem ++ " <= 0.0"
      | none => Program.blank.discard
    rotatesWithView := fields.rotatesWithView }

/-- The uniforms of a style: its variables, and the texture if there is one,
    which takes the place of a variable of its name. -/
def uniformsOf (fields : Fields) (texture : Option String) : Entries Binding :=
  let vars := (variablesOf (allExpressions fields)).map fun name =>
    (Glsl.variableStem ++ name, Binding.variable name)
  match texture with
  | some source => Entries.put textureName (.texture source) vars
  | none => vars

/-- The place of the image that a symbol shows. -/
def textureOf (fields : Fields) (symbol : Symbol) : Except StyleError (Option String) :=
  match symbol, fields.source with
  | .image, some source =>
    match source.display? with
    | some text => .ok (some text)
    | none => .error (.unwritableSource source)
  | _, _ => .ok none

/-! ### Compiling -/

/-- Compiles a style with the given symbol. -/
def compileSymbol (style symbol : Value) :
    Except StyleError (CompiledStyle × List Notice) := do
  let fields ← Fields.ofSymbol style symbol
  let trees ← compileFields fields
  let shape ← match Symbol.ofValue? fields.symbolType with
    | some shape => .ok shape
    | none => .error (.unsupportedSymbol fields.symbolType)
  let texture ← textureOf fields shape
  let program := programOf fields trees shape texture.isSome
  let attributes := allAttributes fields
  let missing := if shape = .image ∧ texture = none then [Notice.imageWithoutSource] else []
  return (⟨program, attributes, uniformsOf fields texture⟩,
    missing ++ [.compiled shape.name attributes (variablesOf (allExpressions fields))])

/-- The notice about variables that are no object. -/
def variablesNotice (style : Value) : List Notice :=
  match style.get? "variables" with
  | some vars => if vars.entries?.isSome then [] else [.variablesIgnored vars]
  | none => []

/-- Compiles a style. -/
def compile (style : Value) : Outcome :=
  match Fields.symbol? style with
  | none => ⟨[], .error .noSymbol⟩
  | some symbol =>
    match compileSymbol style symbol with
    | .ok (compiled, notices) => ⟨variablesNotice style ++ notices, .ok compiled⟩
    | .error e => ⟨variablesNotice style, .error e⟩

end Style

end SymbolStyle

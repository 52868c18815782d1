import Mathlib.Data.List.Induction
import Mathlib.Data.List.Nodup
import SymbolStyle.Proofs.Style.Compilation

/-! # Assembling a program

    A second account of compiling, one step after another.

    First all expressions are checked. Then each of them is compiled where the
    program needs its code, over names that grow on the way: each shader has
    the attributes that its own expressions read, and the variables belong to
    both. The program starts as a blank one, is changed with every step, and
    its color is read back to be multiplied by the texture.

    * `Value.HasCode`: an expression has the same code whatever names are known.
    * `compileIn_eq`: one step gives that code and registers what is read.
    * `compileAll_eq`: all steps give the codes of the expressions, each alone,
      and leave the attributes and variables of the style.
    * `assemble_eq`: the account comes to what `Style.compile` does, errors
      included.
-/

namespace SymbolStyle

open Value
open Glsl (Expr)

/-! ## Codes of expressions -/

/-- The expression is compiled to the code, whatever names are known. -/
def Value.HasCode (v : Value) (stem : String) (wanted : Option Kind) (code : String) : Prop :=
  ∀ names, ∃ after, v.compile stem wanted names = .ok (code, after)

/-- An expression has one code. -/
theorem Value.HasCode.unique {v : Value} {stem : String} {wanted : Option Kind}
    {code code' : String} (h : v.HasCode stem wanted code) (h' : v.HasCode stem wanted code') :
    code = code' := by
  obtain ⟨after, hcompile⟩ := h .empty
  obtain ⟨after', hcompile'⟩ := h' .empty
  have heq := Except.ok.inj (hcompile.symm.trans hcompile')
  exact congrArg Prod.fst heq

namespace Style

/-- What fits its place is compiled there to the text of its tree, and what it
    reads is registered. -/
theorem Fits.compile_eq {slot : Slot} {v : Value} {tree : Expr} (h : Fits slot v tree)
    (stem : String) (names : Names) :
    v.compile stem (wantedIn slot) names = .ok (tree.text stem, names.add v.readings) := by
  have hvalid : v.validate = .ok () := v.validate_eq_ok_iff.2 h.typed
  rw [compile_of_lowers hvalid h.lowers, Names.extend_add]

theorem Fits.hasCode {slot : Slot} {v : Value} {tree : Expr} (h : Fits slot v tree)
    (stem : String) : v.HasCode stem (wantedIn slot) (tree.text stem) :=
  fun names => ⟨_, h.compile_eq stem names⟩

end Style

/-! ## Names of two shaders -/

/-- The two shaders of a program. -/
inductive Stage where
  | vertex
  | fragment
  deriving DecidableEq

/-- The stem of attributes in a shader. -/
def Stage.stem : Stage → String
  | .vertex => Style.attributeStem
  | .fragment => Style.varyingStem

/-- The names that are known while a program is assembled. -/
structure StageNames where
  /-- Attributes that the vertex shader reads. -/
  vertex : List String
  /-- Attributes that the fragment shader reads. -/
  fragment : List String
  /-- Variables that one of the shaders reads. -/
  variableNames : List String

namespace StageNames

/-- No names. -/
def empty : StageNames := ⟨[], [], []⟩

/-- The names that are known in a shader. -/
def inStage (names : StageNames) : Stage → Names
  | .vertex => ⟨names.vertex, names.variableNames⟩
  | .fragment => ⟨names.fragment, names.variableNames⟩

/-- The names after those of a shader have changed. -/
def update (names : StageNames) (after : Names) : Stage → StageNames
  | .vertex => ⟨after.attributeNames, names.fragment, after.variableNames⟩
  | .fragment => ⟨names.vertex, after.attributeNames, after.variableNames⟩

/-- Registers readings in a shader. -/
def add (names : StageNames) (stage : Stage) (readings : List Reading) : StageNames :=
  names.update ((names.inStage stage).add readings) stage

@[simp] theorem add_vertex (vertex fragment vars : List String) (readings : List Reading) :
    (StageNames.mk vertex fragment vars).add .vertex readings
      = ⟨register vertex (Reading.attributeNames readings), fragment,
          register vars (Reading.variableNames readings)⟩ := rfl

@[simp] theorem add_fragment (vertex fragment vars : List String) (readings : List Reading) :
    (StageNames.mk vertex fragment vars).add .fragment readings
      = ⟨vertex, register fragment (Reading.attributeNames readings),
          register vars (Reading.variableNames readings)⟩ := rfl

end StageNames

namespace Style

/-! ## Checks -/

/-- Checks that an expression is valid and fits its place. -/
def checkSlot (slot : Slot) (v : Value) : Except StyleError Unit := do
  v.validate.mapError .expression
  if slot.expected.accepts v.kind then .ok () else .error (.wrongKind slot v v.kind)

/-- The expressions of a style in their places, in the order of the checks. -/
def slots (fields : Fields) : List (Slot × Value) :=
  [(⟨.size, some 0⟩, fields.size.1), (⟨.size, some 1⟩, fields.size.2),
    (⟨.offset, some 0⟩, fields.offset.1), (⟨.offset, some 1⟩, fields.offset.2),
    (⟨.textureCoord, some 0⟩, fields.textureCoord.1),
    (⟨.textureCoord, some 1⟩, fields.textureCoord.2.1),
    (⟨.textureCoord, some 2⟩, fields.textureCoord.2.2.1),
    (⟨.textureCoord, some 3⟩, fields.textureCoord.2.2.2),
    (⟨.opacity, none⟩, fields.opacity), (⟨.color, none⟩, fields.color)]
  ++ fields.filter.toList.map fun v => (⟨.filter, none⟩, v)

/-- Checks all expressions of a style. -/
def checkAll (fields : Fields) : Except StyleError Unit :=
  (slots fields).forM fun place => checkSlot place.1 place.2

/-! ## Steps -/

/-- The codes of the expressions of a style. -/
structure Codes where
  /-- The width in the fragment shader, where the mask needs it. -/
  visible : String
  color : String
  size : String × String
  offset : String × String
  textureCoord : String × String × String × String
  opacity : String
  /-- The filter. -/
  condition : Option String

/-- Compiles an expression for a shader, over the names that are known there. -/
def compileIn (stage : Stage) (v : Value) (wanted : Option Kind) (names : StageNames) :
    Except StyleError (String × StageNames) :=
  match v.compile stage.stem wanted (names.inStage stage) with
  | .ok (code, after) => .ok (code, names.update after stage)
  | .error f => .error (.fault f)

/-- Compiles the filter, if there is one. -/
def compileCondition (filter : Option Value) (names : StageNames) :
    Except StyleError (Option String × StageNames) :=
  match filter with
  | none => .ok (none, names)
  | some v => do
    let (code, names) ← compileIn .fragment v none names
    return (some code, names)

/-- The shape that a style names. -/
def shapeOf (fields : Fields) : Except StyleError Symbol :=
  match Symbol.ofValue? fields.symbolType with
  | some shape => .ok shape
  | none => .error (.unsupportedSymbol fields.symbolType)

/-- Compiles all expressions of a style, the width for the mask first. -/
def compileAll (fields : Fields) : Except StyleError (Codes × Symbol × StageNames) := do
  let (visible, names) ← compileIn .fragment fields.size.1 none .empty
  let shape ← shapeOf fields
  let (color, names) ← compileIn .fragment fields.color (some .color) names
  let (width, names) ← compileIn .vertex fields.size.1 none names
  let (height, names) ← compileIn .vertex fields.size.2 none names
  let (x, names) ← compileIn .vertex fields.offset.1 none names
  let (y, names) ← compileIn .vertex fields.offset.2 none names
  let (left, names) ← compileIn .vertex fields.textureCoord.1 none names
  let (bottom, names) ← compileIn .vertex fields.textureCoord.2.1 none names
  let (right, names) ← compileIn .vertex fields.textureCoord.2.2.1 none names
  let (top, names) ← compileIn .vertex fields.textureCoord.2.2.2 none names
  let (opacity, names) ← compileIn .fragment fields.opacity none names
  let (condition, names) ← compileCondition fields.filter names
  return (⟨visible, color, (width, height), (x, y), (left, bottom, right, top), opacity,
    condition⟩, shape, names)

/-- The changes that fill the slots of a program. -/
def Codes.changes (codes : Codes) (shape : Symbol) (rotates : Bool) : List Program.Change :=
  let (left, bottom, right, top) := codes.textureCoord
  [.size ("vec2(" ++ codes.size.1 ++ ", " ++ codes.size.2 ++ ")"),
    .offset ("vec2(" ++ codes.offset.1 ++ ", " ++ codes.offset.2 ++ ")"),
    .textureBounds ("vec4(" ++ ", ".intercalate [left, bottom, right, top] ++ ")"),
    .rotatesWithView rotates,
    .color ("vec4(" ++ codes.color ++ ".rgb, " ++ codes.color ++ ".a * " ++ codes.opacity ++ " * "
      ++ shape.mask codes.visible ++ ")")]
  ++ codes.condition.toList.map fun code => .discard (code ++ " <= 0.0")

/-- Makes the fragments of a program take the color of the texture. -/
def addTexture (p : Program) : Program :=
  (p.apply (.uniform ("sampler2D " ++ textureName))).apply
    (.color (p.color ++ (" * texture2D(" ++ textureName ++ ", v_texCoord)")))

/-- The compiled style that is made of codes and names. -/
def build (fields : Fields) (codes : Codes) (shape : Symbol) (texture : Option String)
    (names : StageNames) : CompiledStyle :=
  let filled := Program.ofChanges (codes.changes shape fields.rotatesWithView)
  let fed := ((names.variableNames.map fun name => "float " ++ Glsl.variableStem ++ name).map
    Program.Change.uniform).foldl Program.apply filled
  let bindings : Entries Binding := names.variableNames.foldl (fun entries name =>
    Entries.put (Glsl.variableStem ++ name) (.variable name) entries) []
  let textured := if texture.isSome then addTexture fed else fed
  let bridged := ((names.fragment.map fun name =>
    Varying.mk (varyingStem ++ name) "float" (attributeStem ++ name)).map
    Program.Change.varying).foldl Program.apply textured
  let attributeNames := register names.vertex names.fragment
  { program := ((attributeNames.map fun name => "float " ++ attributeStem ++ name).map
      Program.Change.attribute).foldl Program.apply bridged
    attributes := attributeNames
    uniforms := match texture with
      | some source => Entries.put textureName (.texture source) bindings
      | none => bindings }

/-- Compiles a style with the given symbol step by step: all checks, then the
    codes, then the program. -/
def assembleSymbol (style symbol : Value) : Except StyleError CompiledStyle := do
  let fields ← Fields.ofSymbol style symbol
  checkAll fields
  let (codes, shape, names) ← compileAll fields
  let texture ← textureOf fields shape
  return build fields codes shape texture names

/-- Compiles a style step by step. -/
def assemble (style : Value) : Except StyleError CompiledStyle :=
  (Fields.symbol? style).elim (.error .noSymbol) (assembleSymbol style)

/-! ## One step -/

/-- An expression that fits its place is compiled to the code that it has alone,
    and it registers what it reads in its shader. -/
theorem compileIn_eq {slot : Slot} {v : Value} {tree : Expr} (h : Fits slot v tree)
    (stage : Stage) (names : StageNames) :
    compileIn stage v (wantedIn slot) names
      = .ok (tree.text stage.stem, names.add stage v.readings) := by
  unfold compileIn
  rw [h.compile_eq]
  rfl

theorem compileCondition_eq {filter : Option Value} {tree : Option Expr}
    (h : Option.Rel (Fits ⟨.filter, none⟩) filter tree) (names : StageNames) :
    compileCondition filter names
      = .ok (tree.map fun e => e.text varyingStem,
          names.add .fragment (filter.toList.flatMap Value.readings)) := by
  cases h with
  | none => rfl
  | @some v e hfits =>
    have hstep : compileIn .fragment v none names = _ := compileIn_eq hfits .fragment names
    have hreadings : (some v).toList.flatMap Value.readings = v.readings := by simp
    rw [hreadings]
    simp only [compileCondition, hstep, bind, Except.bind, pure, Except.pure]
    rfl

/-! ## All steps -/

/-- The codes of trees. -/
def Codes.ofTrees (trees : Trees) : Codes where
  visible := trees.size.1.text varyingStem
  color := trees.color.text varyingStem
  size := (trees.size.1.text attributeStem, trees.size.2.text attributeStem)
  offset := (trees.offset.1.text attributeStem, trees.offset.2.text attributeStem)
  textureCoord := (trees.textureCoord.1.text attributeStem,
    trees.textureCoord.2.1.text attributeStem, trees.textureCoord.2.2.1.text attributeStem,
    trees.textureCoord.2.2.2.text attributeStem)
  opacity := trees.opacity.text varyingStem
  condition := trees.filter.map fun e => e.text varyingStem

/-- The names that a style registers. -/
def namesOf (fields : Fields) : StageNames :=
  ⟨attributesOf (vertexExpressions fields), attributesOf (fragmentExpressions fields),
    variablesOf (allExpressions fields)⟩

/-- The steps register the attributes of each shader and the variables of both. -/
theorem namesOf_eq (fields : Fields) :
    namesOf fields
      = ((((((((((((StageNames.empty.add .fragment fields.size.1.readings).add
          .fragment fields.color.readings).add
          .vertex fields.size.1.readings).add
          .vertex fields.size.2.readings).add
          .vertex fields.offset.1.readings).add
          .vertex fields.offset.2.readings).add
          .vertex fields.textureCoord.1.readings).add
          .vertex fields.textureCoord.2.1.readings).add
          .vertex fields.textureCoord.2.2.1.readings).add
          .vertex fields.textureCoord.2.2.2.readings).add
          .fragment fields.opacity.readings).add
          .fragment (fields.filter.toList.flatMap Value.readings)) := by
  simp [StageNames.empty, namesOf, attributesOf, variablesOf, vertexExpressions,
    fragmentExpressions, allExpressions, Reading.attributeNames, Reading.variableNames,
    register_append]

/-- All expressions are compiled to the codes that they have alone. Only the
    shape can be wrong. -/
theorem compileAll_eq {fields : Fields} {trees : Trees} (h : Placed fields trees) :
    compileAll fields = (shapeOf fields).map fun shape =>
      (Codes.ofTrees trees, shape, namesOf fields) := by
  have hvisible : ∀ stage names, compileIn stage fields.size.1 none names = _ :=
    compileIn_eq h.width
  have hheight : ∀ stage names, compileIn stage fields.size.2 none names = _ :=
    compileIn_eq h.height
  have hx : ∀ stage names, compileIn stage fields.offset.1 none names = _ := compileIn_eq h.x
  have hy : ∀ stage names, compileIn stage fields.offset.2 none names = _ := compileIn_eq h.y
  have hleft : ∀ stage names, compileIn stage fields.textureCoord.1 none names = _ :=
    compileIn_eq h.left
  have hbottom : ∀ stage names, compileIn stage fields.textureCoord.2.1 none names = _ :=
    compileIn_eq h.bottom
  have hright : ∀ stage names, compileIn stage fields.textureCoord.2.2.1 none names = _ :=
    compileIn_eq h.right
  have htop : ∀ stage names, compileIn stage fields.textureCoord.2.2.2 none names = _ :=
    compileIn_eq h.top
  have hopacity : ∀ stage names, compileIn stage fields.opacity none names = _ :=
    compileIn_eq h.opacity
  have hcolor : ∀ stage names, compileIn stage fields.color (some .color) names = _ :=
    compileIn_eq h.color
  have hcondition := compileCondition_eq h.filter
  unfold compileAll
  rw [hvisible]
  cases hshape : shapeOf fields with
  | error e => rfl
  | ok shape =>
    simp only [hvisible, hheight, hx, hy, hleft, hbottom, hright, htop, hopacity, hcolor,
      hcondition, bind, Except.bind, pure, Except.pure, Except.map, namesOf_eq]
    rfl

/-! ## The program -/

end Style

namespace Program

/-- Declaring uniforms one after another appends their declarations. -/
theorem foldl_uniform (p : Program) (declarations : List String) :
    (declarations.map Change.uniform).foldl apply p
      = { p with uniforms := p.uniforms ++ declarations } := by
  induction declarations generalizing p with
  | nil => simp
  | cons declaration declarations ih =>
    rw [List.map_cons, List.foldl_cons, ih]
    simp [apply]

/-- Declaring attributes one after another appends their declarations. -/
theorem foldl_attribute (p : Program) (declarations : List String) :
    (declarations.map Change.attribute).foldl apply p
      = { p with attributes := p.attributes ++ declarations } := by
  induction declarations generalizing p with
  | nil => simp
  | cons declaration declarations ih =>
    rw [List.map_cons, List.foldl_cons, ih]
    simp [apply]

/-- Adding varyings one after another appends them. -/
theorem foldl_varying (p : Program) (added : List Varying) :
    (added.map Change.varying).foldl apply p = { p with varyings := p.varyings ++ added } := by
  induction added generalizing p with
  | nil => simp
  | cons v added ih =>
    rw [List.map_cons, List.foldl_cons, ih]
    simp [apply]

end Program

namespace Entries

variable {α : Type}

/-- Different names are put in one after another. -/
theorem foldl_put {names : List String} (key : String → String) (value : String → α)
    (h : (names.map key).Nodup) :
    names.foldl (fun entries name => put (key name) (value name) entries) []
      = names.map fun name => (key name, value name) := by
  -- The last name is new among those before it.
  induction names using List.reverseRecOn with
  | nil => rfl
  | append_singleton names name ih =>
    rw [List.map_append, List.nodup_append'] at h
    obtain ⟨hnodup, -, hdisjoint⟩ := h
    have hnew : key name ∉ (names.map fun name => (key name, value name)).map Prod.fst := by
      intro hmem
      have hkey : key name ∈ names.map key := by simpa using hmem
      exact hdisjoint hkey (by simp)
    rw [List.foldl_append, ih hnodup, List.foldl_cons, List.foldl_nil, put_of_not_mem _ hnew,
      List.map_append]
    rfl

end Entries

namespace Style

theorem nodup_uniformNames (expressions : List Value) :
    ((variablesOf expressions).map (Glsl.variableStem ++ ·)).Nodup := by
  have hvariables : (variablesOf expressions).Nodup :=
    (register_appendsOnce [] _).nodup List.nodup_nil
  apply hvariables.map
  intro name other heq
  exact (String.append_right_inj Glsl.variableStem).1 heq

/-- Changing a blank program step by step gives the program that is computed at
    once from the trees, and so it is with the uniforms. -/
theorem build_eq (fields : Fields) (trees : Trees) (shape : Symbol) (texture : Option String) :
    build fields (Codes.ofTrees trees) shape texture (namesOf fields)
      = ⟨programOf fields trees shape texture.isSome, allAttributes fields,
          uniformsOf fields texture⟩ := by
  have hbindings : (namesOf fields).variableNames.foldl (fun entries name =>
      Entries.put (Glsl.variableStem ++ name) (Binding.variable name) entries) []
        = (variablesOf (allExpressions fields)).map fun name =>
          (Glsl.variableStem ++ name, Binding.variable name) :=
    Entries.foldl_put _ _ (nodup_uniformNames (allExpressions fields))
  unfold build
  rw [hbindings]
  simp only [Program.foldl_uniform, Program.foldl_varying, Program.foldl_attribute]
  obtain ⟨size, offset, bounds, opacity, color, filter⟩ := trees
  -- Only the color depends on the texture, and only the discarding on the filter.
  cases texture with
  | none =>
    simp only [programOf, colorSlot, Option.isSome_none, Bool.false_eq_true, if_false,
      String.append_empty, List.append_nil]
    cases filter with
    | none => rfl
    | some condition => rfl
  | some source =>
    cases filter with
    | none => rfl
    | some condition => rfl

/-! ## Both accounts -/

/-- What an outcome says about success, without the result. -/
def forget {ε α : Type} (x : Except ε α) : Except ε Unit := x.map fun _ => ()

/-- A check before a stage that does not depend on its result. -/
theorem forget_bind {ε α β : Type} {x : Except ε α} {f : α → Except ε β} {u w : Except ε Unit}
    (hx : forget x = u) (hf : ∀ a, forget (f a) = w) : forget (x >>= f) = u >>= fun _ => w := by
  subst hx
  cases x with
  | error e => rfl
  | ok a => exact hf a

theorem checkSlot_eq_ok_iff {slot : Slot} {v : Value} :
    checkSlot slot v = .ok () ↔ v.validate = .ok () ∧ slot.expected.accepts v.kind := by
  unfold checkSlot
  cases v.validate with
  | error e => simp [Except.mapError, bind, Except.bind]
  | ok u =>
    by_cases haccepts : slot.expected.accepts v.kind
    · simp [haccepts, Except.mapError, bind, Except.bind]
    · simp [haccepts, Except.mapError, bind, Except.bind]

/-- Lowering in its place fails for the same reason as the check, and for no
    other. -/
theorem forget_compileSlot (slot : Slot) (v : Value) :
    forget (compileSlot slot v) = checkSlot slot v := by
  unfold compileSlot checkSlot
  cases hvalid : v.validate with
  | error e => rfl
  | ok u =>
    by_cases haccepts : slot.expected.accepts v.kind
    · have htyped := v.validate_eq_ok_iff.1 hvalid
      obtain ⟨tree, hlowers⟩ :=
        htyped.exists_lowers (not_isMisplacedText_wantedIn htyped haccepts)
      have hlower : v.lower (if slot.field = .color then some .color else none) .empty
          = .ok (tree, _) := hlowers.lower_eq .empty
      simp only [haccepts, if_true, hlower]
      rfl
    · simp only [haccepts]
      rfl

theorem forget_compileFields (fields : Fields) :
    forget (compileFields fields) = checkAll fields := by
  unfold compileFields checkAll slots
  -- All places but that of the filter are always filled.
  iterate 10 refine forget_bind (forget_compileSlot _ _) fun _ => ?_
  cases fields.filter with
  | none => rfl
  | some v =>
    refine forget_bind ?_ fun _ => rfl
    show _ = checkSlot ⟨.filter, none⟩ v
    rw [← forget_compileSlot]
    cases compileSlot ⟨.filter, none⟩ v with
    | error e => rfl
    | ok tree => rfl

theorem forget_eq_ok_iff {ε α : Type} {x : Except ε α} :
    forget x = .ok () ↔ ∃ a, x = .ok a := by
  cases x with
  | error e => simp [forget, Except.map]
  | ok a => simp [forget, Except.map]

theorem forget_eq_error_iff {ε α : Type} {x : Except ε α} {e : ε} :
    forget x = .error e ↔ x = .error e := by
  cases x with
  | error e => simp [forget, Except.map]
  | ok a => simp [forget, Except.map]

/-- The result of compiling a symbol is that of its stages. -/
theorem compileSymbol_result {style symbol : Value} {fields : Fields}
    (h : Fields.ofSymbol style symbol = .ok fields) :
    (compileSymbol style symbol).map Prod.fst = do
      let trees ← compileFields fields
      let shape ← shapeOf fields
      let texture ← textureOf fields shape
      return ⟨programOf fields trees shape texture.isSome, allAttributes fields,
        uniformsOf fields texture⟩ := by
  unfold compileSymbol
  rw [h]
  show (compileFields fields >>= _).map Prod.fst = _
  cases compileFields fields with
  | error e => rfl
  | ok trees =>
    unfold shapeOf
    show (match Symbol.ofValue? fields.symbolType with | some _ => _ | none => _ : Except _ _).map
      Prod.fst = _
    cases Symbol.ofValue? fields.symbolType with
    | none => rfl
    | some shape =>
      show (textureOf fields shape >>= _).map Prod.fst = _
      cases htexture : textureOf fields shape with
      | error e => simp [htexture, bind, Except.bind, Except.map]
      | ok texture => simp [htexture, bind, Except.bind, Except.map, pure, Except.pure]

/-- Compiling step by step, over names that all expressions share, comes to the
    same as lowering each expression alone and computing the program at once. -/
theorem assemble_eq (style : Value) : assemble style = (compile style).result := by
  rw [compile_result]
  unfold assemble
  cases Fields.symbol? style with
  | none => rfl
  | some symbol =>
    rw [Option.elim_some, Option.elim_some]
    cases hfields : Fields.ofSymbol style symbol with
    | error e =>
      unfold assembleSymbol compileSymbol
      rw [hfields]
      rfl
    | ok fields =>
      rw [compileSymbol_result hfields]
      unfold assembleSymbol
      rw [hfields]
      show (checkAll fields >>= fun _ => _) = _
      rw [← forget_compileFields fields]
      cases htrees : compileFields fields with
      | error e => rfl
      | ok trees =>
        show (compileAll fields >>= _) = (shapeOf fields >>= _)
        rw [compileAll_eq (placed_of_compileFields htrees)]
        cases shapeOf fields with
        | error e => rfl
        | ok shape =>
          show (textureOf fields shape >>= fun texture =>
            .ok (build fields (Codes.ofTrees trees) shape texture (namesOf fields))) = _
          simp only [build_eq]
          rfl

end Style

end SymbolStyle

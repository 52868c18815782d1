import Mathlib.Data.List.Nodup
import SymbolStyle.Proofs.Style.Inputs

/-! # Names that are declared twice

    When a source of a compiled style declares a name twice.

    Names that a style reads are registered once, so none of them is declared
    twice by itself. But they stand behind the same stems as the inputs of the
    boilerplate, and nothing keeps the two apart: a style that reads a variable
    `time` declares the clock again.

    * `Style.AvoidsUniforms`, `AvoidsAttributes`, `AvoidsVaryings`: a style reads
      none of the names of the boilerplate.
    * `compile_nodup_iff`: no name is declared twice exactly if the style avoids
      these names.
    * `clockSquare_redeclares`: a style that does not.
-/

namespace SymbolStyle

open Glsl (Declaration declarations declaredNames)

/-! ## Names behind stems -/

/-- Names behind different stems are different. -/
theorem disjoint_map_append {stem other : String}
    (h : ∀ name name' : String, stem ++ name ≠ other ++ name') (names others : List String) :
    (names.map (stem ++ ·)).Disjoint (others.map (other ++ ·)) := by
  intro name hname hother
  obtain ⟨n, -, rfl⟩ := List.mem_map.1 hname
  obtain ⟨n', -, heq⟩ := List.mem_map.1 hother
  exact h n n' heq.symm

/-- A stem keeps different names apart. -/
theorem nodup_map_append_iff {stem : String} {names : List String} :
    (names.map (stem ++ ·)).Nodup ↔ names.Nodup := by
  apply List.nodup_map_iff
  intro name other heq
  exact (String.append_right_inj stem).1 heq

theorem stems_ne {first second : Char} (hne : first ≠ second) (name name' : String) :
    String.ofList [first, '_'] ++ name ≠ String.ofList [second, '_'] ++ name' := by
  intro heq
  have hchars := congrArg String.toList heq
  rw [String.toList_append, String.toList_append, String.toList_ofList, String.toList_ofList]
    at hchars
  exact hne (List.cons.inj hchars).1

/-- Uniforms, attributes and varyings never share a name. -/
theorem nodup_stems_iff {uniforms attributes varyings : List String} :
    (uniforms.map ("u_" ++ ·) ++ attributes.map ("a_" ++ ·) ++ varyings.map ("v_" ++ ·)).Nodup
      ↔ uniforms.Nodup ∧ attributes.Nodup ∧ varyings.Nodup := by
  have hua := disjoint_map_append (stems_ne (by decide : 'u' ≠ 'a')) uniforms attributes
  have huv := disjoint_map_append (stems_ne (by decide : 'u' ≠ 'v')) uniforms varyings
  have hav := disjoint_map_append (stems_ne (by decide : 'a' ≠ 'v')) attributes varyings
  have hboth : (uniforms.map ("u_" ++ ·) ++ attributes.map ("a_" ++ ·)).Disjoint
      (varyings.map ("v_" ++ ·)) := List.disjoint_append_left.2 ⟨huv, hav⟩
  rw [List.nodup_append', List.nodup_append', nodup_map_append_iff, nodup_map_append_iff,
    nodup_map_append_iff]
  constructor
  · rintro ⟨⟨hu, ha, -⟩, hv, -⟩
    exact ⟨hu, ha, hv⟩
  · rintro ⟨hu, ha, hv⟩
    exact ⟨⟨hu, ha, hua⟩, hv, hboth⟩

/-- Fixed names before others that are registered once. -/
theorem nodup_fixed_append_iff {fixed names : List String} (hfixed : fixed.Nodup)
    (hnames : names.Nodup) : (fixed ++ names).Nodup ↔ ∀ name ∈ fixed, name ∉ names := by
  rw [List.nodup_append']
  constructor
  · rintro ⟨-, -, hdisjoint⟩ name hname hmem
    exact hdisjoint hname hmem
  · intro h
    exact ⟨hfixed, hnames, fun name hname hmem => h name hname hmem⟩

/-- An entry that is put in is there. -/
theorem Entries.mem_put {α : Type} (name : String) (v : α) (entries : Entries α) :
    (name, v) ∈ put name v entries := by
  induction entries with
  | nil => simp [put]
  | cons entry rest ih =>
    obtain ⟨k, old⟩ := entry
    by_cases hk : k = name
    · simp [put, hk]
    · simp [put, hk, ih]

/-! ## Names that a style avoids -/

namespace Style

/-- The style reads no variable whose uniform is one of the boilerplate, or that
    of the texture if there is one. -/
def AvoidsUniforms (style : Value) (compiled : CompiledStyle) (builtin : List String) : Prop :=
  (∀ name ∈ builtin, ¬ ReadsInput style (.variable name)) ∧
    (compiled.IsTextured → ¬ ReadsInput style (.variable "texture"))

/-- The style reads no property whose attribute is one of the boilerplate. -/
def AvoidsAttributes (style : Value) : Prop :=
  ∀ name ∈ ["position", "index"], ¬ ReadsInput style (.attribute name)

/-- The fragment shader reads no property whose varying is one of the
    boilerplate. -/
def AvoidsVaryings (style : Value) : Prop :=
  ∀ name ∈ ["texCoord", "quadCoord"], ¬ FragmentReads style (.attribute name)

/-- The matrices and the clock, without the stem of uniforms. -/
def builtinVariables : List String :=
  ["projectionMatrix", "offsetScaleMatrix", "offsetRotateMatrix", "time"]

end Style

namespace Compilation

variable {style : Value} {compiled : CompiledStyle} (c : Compilation style compiled)

/-- The uniforms of a style without their stem. -/
def uniformNames : List String :=
  Style.variablesOf (Style.allExpressions c.fields)
    ++ if c.texture.isSome then ["texture"] else []

include c

theorem map_name_uniforms :
    c.uniforms.map Declaration.name = c.uniformNames.map ("u_" ++ ·) := by
  rw [uniforms, uniformNames, List.map_append, List.map_append, List.map_map]
  congr 1
  split <;> rfl

theorem map_name_attributes : c.attributes.map Declaration.name
    = (Style.allAttributes c.fields).map ("a_" ++ ·) := by
  rw [«attributes», List.map_map]
  rfl

theorem map_name_varyings : c.varyings.map Declaration.name
    = (Style.attributesOf (Style.fragmentExpressions c.fields)).map ("v_" ++ ·) := by
  rw [varyings, List.map_map]
  rfl

theorem isTextured_iff : compiled.IsTextured ↔ c.texture.isSome := by
  unfold CompiledStyle.IsTextured
  rw [c.uniforms_eq]
  unfold Style.uniformsOf
  cases c.texture with
  | none => simp
  | some source =>
    constructor
    · intro _
      rfl
    · intro _
      exact ⟨source, Entries.mem_put _ _ _⟩

/-- The names in the vertex source, by their stems. -/
theorem vertexNames_eq : c.vertexNames
    = (Style.builtinVariables ++ c.uniformNames).map ("u_" ++ ·)
      ++ (["position", "index"] ++ Style.allAttributes c.fields).map ("a_" ++ ·)
      ++ (["texCoord", "quadCoord"]
        ++ Style.attributesOf (Style.fragmentExpressions c.fields)).map ("v_" ++ ·) := by
  have huniforms : Program.builtinUniforms.map Declaration.name
      = Style.builtinVariables.map ("u_" ++ ·) := by decide
  have hattributes : Program.builtinAttributes.map Declaration.name
      = ["position", "index"].map ("a_" ++ ·) := by decide
  have hvaryings : Program.builtinVaryings.map Declaration.name
      = ["texCoord", "quadCoord"].map ("v_" ++ ·) := by decide
  unfold vertexNames Program.vertexDeclarations
  simp only [List.map_append, List.append_assoc, c.map_name_uniforms, c.map_name_attributes,
    c.map_name_varyings, huniforms, hattributes, hvaryings]

/-- The names in the fragment source, by their stems. -/
theorem fragmentNames_eq : c.fragmentNames
    = (["time"] ++ c.uniformNames).map ("u_" ++ ·) ++ ([] : List String).map ("a_" ++ ·)
      ++ (["texCoord", "quadCoord"]
        ++ Style.attributesOf (Style.fragmentExpressions c.fields)).map ("v_" ++ ·) := by
  have hclock : Program.clock.name = "u_" ++ "time" := by decide
  have hvaryings : Program.builtinVaryings.map Declaration.name
      = ["texCoord", "quadCoord"].map ("v_" ++ ·) := by decide
  unfold fragmentNames Program.fragmentDeclarations
  rw [List.map_append, List.map_append, List.map_cons, c.map_name_uniforms, c.map_name_varyings,
    hclock, hvaryings, List.map_append, List.map_append, List.map_nil, List.append_nil,
    List.append_assoc]
  rfl

/-! ## Names that are declared once -/

theorem nodup_uniformNames_iff {builtin : List String} (hbuiltin : (builtin ++ ["texture"]).Nodup) :
    (builtin ++ c.uniformNames).Nodup ↔ Style.AvoidsUniforms style compiled builtin := by
  have hvariables : (Style.variablesOf (Style.allExpressions c.fields)).Nodup :=
    (register_appendsOnce [] _).nodup List.nodup_nil
  have hfixed := List.nodup_append'.1 hbuiltin
  have hbuiltins := nodup_fixed_append_iff hfixed.1 hvariables
  unfold Style.AvoidsUniforms
  rw [c.isTextured_iff, uniformNames, ← List.append_assoc]
  simp only [← c.mem_variablesOf_iff]
  cases c.texture with
  | none => simpa using hbuiltins
  | some source =>
    have htexture : "texture" ∉ builtin := by
      intro hmem
      exact hfixed.2.2 hmem (by simp)
    rw [← hbuiltins]
    show (builtin ++ _ ++ ["texture"]).Nodup ↔ _
    rw [List.nodup_append']
    simp [htexture]

theorem nodup_vertexNames_iff :
    c.vertexNames.Nodup ↔ Style.AvoidsUniforms style compiled Style.builtinVariables ∧
      Style.AvoidsAttributes style ∧ Style.AvoidsVaryings style := by
  have hattributes : (Style.allAttributes c.fields).Nodup :=
    (register_appendsOnce _ _).nodup ((register_appendsOnce [] _).nodup List.nodup_nil)
  have hvaryings : (Style.attributesOf (Style.fragmentExpressions c.fields)).Nodup :=
    (register_appendsOnce [] _).nodup List.nodup_nil
  rw [c.vertexNames_eq, nodup_stems_iff, c.nodup_uniformNames_iff (by decide),
    nodup_fixed_append_iff (by decide) hattributes, nodup_fixed_append_iff (by decide) hvaryings]
  unfold Style.AvoidsAttributes Style.AvoidsVaryings
  simp only [c.mem_allAttributes_iff, c.mem_fragmentAttributes_iff]

theorem nodup_fragmentNames_iff :
    c.fragmentNames.Nodup ↔
      Style.AvoidsUniforms style compiled ["time"] ∧ Style.AvoidsVaryings style := by
  have hvaryings : (Style.attributesOf (Style.fragmentExpressions c.fields)).Nodup :=
    (register_appendsOnce [] _).nodup List.nodup_nil
  rw [c.fragmentNames_eq, nodup_stems_iff, c.nodup_uniformNames_iff (by decide),
    nodup_fixed_append_iff (by decide) hvaryings]
  unfold Style.AvoidsVaryings
  simp only [c.mem_fragmentAttributes_iff, List.nodup_nil, true_and]

end Compilation

namespace Style

/-- A source of a compiled style declares no name twice exactly if the style
    reads no name that the source declares anyway. -/
theorem compile_nodup_iff {style : Value} {compiled : CompiledStyle}
    (h : (compile style).result = .ok compiled) (hnames : ReadsPlainNames style) :
    ((declaredNames compiled.program.vertexSource).Nodup ↔
      AvoidsUniforms style compiled builtinVariables ∧ AvoidsAttributes style ∧
        AvoidsVaryings style) ∧
    ((declaredNames compiled.program.fragmentSource).Nodup ↔
      AvoidsUniforms style compiled ["time"] ∧ AvoidsVaryings style) := by
  obtain ⟨c⟩ := exists_compilation h
  constructor
  · rw [declaredNames, c.declarations_vertexSource hnames]
    exact c.nodup_vertexNames_iff
  · rw [declaredNames, c.declarations_fragmentSource hnames]
    exact c.nodup_fragmentNames_iff

/-- The image reads no such name, so its sources declare each name once. -/
theorem scaledImage_nodup :
    ∃ compiled, (compile scaledImage).result = .ok compiled ∧ ReadsPlainNames scaledImage ∧
      (declaredNames compiled.program.vertexSource).Nodup ∧
      (declaredNames compiled.program.fragmentSource).Nodup := by
  have hok : (compile scaledImage).result.isOk := by decide +kernel
  obtain ⟨compiled, hcompile⟩ := exists_ok_of_isOk hok
  obtain ⟨c⟩ := exists_compilation hcompile
  have hreads : ∀ reading, ReadsInput scaledImage reading → reading = .attribute "population" :=
    fun reading h => (scaledImage_readsInput_iff c).1 h
  have hnames : ReadsPlainNames scaledImage := by
    intro reading hreading
    obtain rfl := hreads reading hreading
    decide
  have huniforms : ∀ builtin, AvoidsUniforms scaledImage compiled builtin := by
    intro builtin
    refine ⟨?_, ?_⟩
    · intro name _ hname
      cases hreads _ hname
    · intro _ hname
      cases hreads _ hname
  have hattributes : AvoidsAttributes scaledImage := by
    intro name hbuiltin hname
    obtain rfl := Reading.attribute.inj (hreads _ hname)
    exact absurd hbuiltin (by decide)
  have hvaryings : AvoidsVaryings scaledImage := by
    intro name hbuiltin hname
    obtain rfl := Reading.attribute.inj (hreads _ (c.readsInput_of_fragmentReads hname))
    exact absurd hbuiltin (by decide)
  obtain ⟨hvertex, hfragment⟩ := compile_nodup_iff hcompile hnames
  exact ⟨compiled, hcompile, hnames, hvertex.2 ⟨huniforms _, hattributes, hvaryings⟩,
    hfragment.2 ⟨huniforms _, hvaryings⟩⟩

/-- A square that is as large as the variable `time` says. -/
def clockSquare : Value :=
  .object [("symbol", .object [("symbolType", .string "square"),
    ("size", .sequence .list [.string "var", .string "time"])])]

/-- Both sources declare the clock and the variable under one name. -/
theorem clockSquare_redeclares :
    ∃ compiled, (compile clockSquare).result = .ok compiled ∧ ReadsPlainNames clockSquare ∧
      ¬ (declaredNames compiled.program.vertexSource).Nodup ∧
      ¬ (declaredNames compiled.program.fragmentSource).Nodup := by
  have hok : (compile clockSquare).result.isOk := by decide +kernel
  obtain ⟨compiled, hcompile⟩ := exists_ok_of_isOk hok
  obtain ⟨c⟩ := exists_compilation hcompile
  have hreadings : (fields? clockSquare).map (fun fields =>
      (allExpressions fields).flatMap Value.readings)
        = some (List.replicate 3 (.variable "time")) := by decide +kernel
  have hnames : ReadsPlainNames clockSquare := by
    intro reading hreading
    rw [c.readsInput_iff_mem hreadings] at hreading
    obtain rfl := List.eq_of_mem_replicate hreading
    decide
  have hclock : ReadsInput clockSquare (.variable "time") := by
    rw [c.readsInput_iff_mem hreadings]
    simp
  refine ⟨compiled, hcompile, hnames, ?_, ?_⟩
  · rw [declaredNames, c.declarations_vertexSource hnames]
    intro hnodup
    have havoids := (c.nodup_vertexNames_iff.1 hnodup).1
    exact havoids.1 "time" (by decide) hclock
  · rw [declaredNames, c.declarations_fragmentSource hnames]
    intro hnodup
    have havoids := (c.nodup_fragmentNames_iff.1 hnodup).1
    exact havoids.1 "time" (by decide) hclock

end Style

end SymbolStyle

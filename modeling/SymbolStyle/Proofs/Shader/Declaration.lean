import SymbolStyle.Proofs.Glsl.Source
import SymbolStyle.Shader.Source

/-! # Declarations of programs

    The sources of a program, read again.

    * `Declares`: the declarations from which a program was made. They come
      back when its sources are read, each in its place among those of the
      boilerplate.
    * `codeOver_vertexLines`, `codeOver_fragmentLines`: all inputs that the
      sources name are those of the boilerplate and of the parts of the
      program.
-/

namespace SymbolStyle

/-! ## Programs that were made from declarations -/

namespace Program

open Glsl (Declaration CodeOver declaration? declarations declaredNames mainLine preamble mainBody)

/-- The clock, which both shaders have. -/
def clock : Declaration := ⟨.uniform, "float", "u_time"⟩

/-- The matrices of the boilerplate, and the clock. -/
def builtinUniforms : List Declaration :=
  [⟨.uniform, "mat4", "u_projectionMatrix"⟩, ⟨.uniform, "mat4", "u_offsetScaleMatrix"⟩,
    ⟨.uniform, "mat4", "u_offsetRotateMatrix"⟩, clock]

/-- The position and the index of a vertex. -/
def builtinAttributes : List Declaration :=
  [⟨.attribute, "vec2", "a_position"⟩, ⟨.attribute, "float", "a_index"⟩]

/-- The positions on the texture and in the quad. -/
def builtinVaryings : List Declaration :=
  [⟨.varying, "vec2", "v_texCoord"⟩, ⟨.varying, "vec2", "v_quadCoord"⟩]

/-- The inputs of a program were made from declarations. -/
structure Declares (p : Program) (uniforms attributes varyings : List Declaration) : Prop where
  uniforms_eq : p.uniforms = uniforms.map Declaration.bare
  attributes_eq : p.attributes = attributes.map Declaration.bare
  varyings_eq : p.varyings.map (fun v => v.type ++ " " ++ v.name) = varyings.map Declaration.bare
  uniform : ∀ d ∈ uniforms, d.IsPlain ∧ d.qualifier = .uniform
  «attribute» : ∀ d ∈ attributes, d.IsPlain ∧ d.qualifier = .attribute
  varying : ∀ d ∈ varyings, d.IsPlain ∧ d.qualifier = .varying

/-- What the vertex shader declares. -/
def vertexDeclarations (uniforms attributes varyings : List Declaration) : List Declaration :=
  builtinUniforms ++ uniforms ++ builtinAttributes ++ attributes ++ builtinVaryings ++ varyings

/-- What the fragment shader declares. -/
def fragmentDeclarations (uniforms varyings : List Declaration) : List Declaration :=
  clock :: uniforms ++ builtinVaryings ++ varyings

variable {p : Program} {uniforms attributes varyings : List Declaration}

/-- Declarations with the same qualifier, without it and with it. -/
theorem map_bare_eq_map_text {ds : List Declaration} {qualifier : Glsl.Qualifier}
    (h : ∀ d ∈ ds, d.IsPlain ∧ d.qualifier = qualifier) :
    (ds.map Declaration.bare).map (fun bare => qualifier.word ++ " " ++ bare ++ ";")
      = ds.map Declaration.text := by
  rw [List.map_map]
  apply List.map_congr_left
  intro d hd
  rw [← (h d hd).2]
  rfl

namespace Declares

theorem uniformLines_eq (h : p.Declares uniforms attributes varyings) :
    p.uniformLines = block (uniforms.map Declaration.text) := by
  have hlines := map_bare_eq_map_text h.uniform
  rw [← h.uniforms_eq] at hlines
  rw [uniformLines, ← hlines]
  rfl

theorem attributeLines_eq (h : p.Declares uniforms attributes varyings) :
    p.attributeLines = block (attributes.map Declaration.text) := by
  have hlines := map_bare_eq_map_text h.attribute
  rw [← h.attributes_eq] at hlines
  rw [attributeLines, ← hlines]
  rfl

theorem varyingLines_eq (h : p.Declares uniforms attributes varyings) :
    p.varyingLines = block (varyings.map Declaration.text) := by
  have hlines := map_bare_eq_map_text h.varying
  rw [← h.varyings_eq, List.map_map] at hlines
  rw [varyingLines, ← hlines]
  rfl

end Declares

/-- The lines of a vertex shader above `main`. -/
def vertexAbove (p : Program) : List String :=
  precisionLine :: builtinUniforms.map Declaration.text ++ p.uniformLines
    ++ builtinAttributes.map Declaration.text ++ p.attributeLines
    ++ builtinVaryings.map Declaration.text ++ p.varyingLines

/-- The lines of a fragment shader above `main`. -/
def fragmentAbove (p : Program) : List String :=
  precisionLine :: [clock.text] ++ p.uniformLines ++ builtinVaryings.map Declaration.text
    ++ p.varyingLines

theorem vertexLines_eq (p : Program) :
    ∃ inside, p.vertexLines = p.vertexAbove ++ mainLine :: inside ∧
      ∀ line ∈ p.assignmentLines, line ∈ inside := by
  apply Exists.intro
  constructor
  · simp only [vertexLines, vertexAbove, builtinUniforms, clock, builtinAttributes,
      builtinVaryings, Declaration.text, Declaration.bare, Glsl.Qualifier.word, List.map_cons,
      List.map_nil, String.reduceAppend, List.append_assoc, List.cons_append, List.nil_append]
    rfl
  · intro line hline
    simp [hline]

theorem fragmentLines_eq (p : Program) :
    ∃ inside, p.fragmentLines = p.fragmentAbove ++ mainLine :: inside := by
  apply Exists.intro
  simp only [fragmentLines, fragmentAbove, clock, builtinVaryings, Declaration.text,
    Declaration.bare, Glsl.Qualifier.word, List.map_cons, List.map_nil, String.reduceAppend,
    List.append_assoc, List.cons_append, List.nil_append]
  rfl

/-! ### Sources of a program -/

theorem isPlain_of_mem_builtins :
    ∀ d ∈ builtinUniforms ++ builtinAttributes ++ builtinVaryings, d.IsPlain := by
  unfold builtinUniforms builtinAttributes builtinVaryings clock Declaration.IsPlain
  decide +kernel

theorem filterMap_map_text {ds : List Declaration} (h : ∀ d ∈ ds, d.IsPlain) :
    ((ds.map Declaration.text).map String.toList).filterMap declaration? = ds := by
  induction ds with
  | nil => rfl
  | cons d ds ih =>
    rw [List.map_cons, List.map_cons,
      List.filterMap_cons_some (Glsl.declaration?_text (h d (by simp))),
      ih fun d hd => h d (List.mem_cons_of_mem _ hd)]

theorem filterMap_block {ds : List Declaration} (h : ∀ d ∈ ds, d.IsPlain) :
    ((block (ds.map Declaration.text)).map String.toList).filterMap declaration? = ds := by
  unfold block
  split
  · next hnil =>
    obtain rfl := List.map_eq_nil_iff.1 hnil
    rfl
  · exact filterMap_map_text h

/-- The line that opens `main` is no declaration. -/
theorem text_ne_mainLine {d : Declaration} (h : d.IsPlain) : d.text ≠ mainLine := by
  intro heq
  have hread := Glsl.declaration?_text h
  rw [heq, Glsl.declaration?_mainLine] at hread
  cases hread

theorem ne_mainLine_of_mem_map_text {ds : List Declaration} (h : ∀ d ∈ ds, d.IsPlain) :
    ∀ line ∈ ds.map Declaration.text, line ≠ mainLine := by
  intro line hline
  obtain ⟨d, hd, rfl⟩ := List.mem_map.1 hline
  exact text_ne_mainLine (h d hd)

theorem ne_mainLine_of_mem_block {ds : List Declaration} (h : ∀ d ∈ ds, d.IsPlain) :
    ∀ line ∈ block (ds.map Declaration.text), line ≠ mainLine := by
  intro line hline
  unfold block at hline
  split at hline
  · obtain rfl := List.mem_singleton.1 hline
    decide
  · exact ne_mainLine_of_mem_map_text h line hline

theorem precisionLine_ne_mainLine : precisionLine ≠ mainLine := by decide

theorem Declares.ne_mainLine_of_mem_vertexAbove (h : p.Declares uniforms attributes varyings) :
    ∀ line ∈ p.vertexAbove, line ≠ mainLine := by
  have hfixed := ne_mainLine_of_mem_map_text isPlain_of_mem_builtins
  have huniforms := ne_mainLine_of_mem_block fun d hd => (h.uniform d hd).1
  have hattributes := ne_mainLine_of_mem_block fun d hd => (h.attribute d hd).1
  have hvaryings := ne_mainLine_of_mem_block fun d hd => (h.varying d hd).1
  intro line hline
  rw [vertexAbove, h.uniformLines_eq, h.attributeLines_eq, h.varyingLines_eq] at hline
  simp only [List.map_append, List.mem_append, List.mem_cons] at hfixed hline
  rcases hline with (((((rfl | hline) | hline) | hline) | hline) | hline) | hline
  · exact precisionLine_ne_mainLine
  · exact hfixed line (.inl (.inl hline))
  · exact huniforms line hline
  · exact hfixed line (.inl (.inr hline))
  · exact hattributes line hline
  · exact hfixed line (.inr hline)
  · exact hvaryings line hline

theorem Declares.ne_mainLine_of_mem_fragmentAbove (h : p.Declares uniforms attributes varyings) :
    ∀ line ∈ p.fragmentAbove, line ≠ mainLine := by
  have hclock : clock.text ≠ mainLine := by
    apply text_ne_mainLine
    exact isPlain_of_mem_builtins clock (by simp [builtinUniforms])
  have hfixed : ∀ line ∈ builtinVaryings.map Declaration.text, line ≠ mainLine :=
    ne_mainLine_of_mem_map_text fun d hd => isPlain_of_mem_builtins d (by simp [hd])
  have huniforms := ne_mainLine_of_mem_block fun d hd => (h.uniform d hd).1
  have hvaryings := ne_mainLine_of_mem_block fun d hd => (h.varying d hd).1
  intro line hline
  rw [fragmentAbove, h.uniformLines_eq, h.varyingLines_eq] at hline
  simp only [List.mem_append, List.mem_cons, List.not_mem_nil, or_false] at hline
  rcases hline with (((rfl | rfl) | hline) | hline) | hline
  · exact precisionLine_ne_mainLine
  · exact hclock
  · exact huniforms line hline
  · exact hfixed line hline
  · exact hvaryings line hline

/-- How the vertex source is read: its body holds lines of the program, and all
    assignments to varyings are there. -/
theorem Declares.exists_read_vertexSource (h : p.Declares uniforms attributes varyings)
    (hunbroken : ∀ line ∈ p.vertexLines, '\n' ∉ line.toList) :
    ∃ inside, Glsl.IsReadAs p.vertexSource p.vertexAbove inside ∧
      (∀ text ∈ inside, text ∈ p.vertexLines) ∧ ∀ text ∈ p.assignmentLines, text ∈ inside := by
  obtain ⟨inside, hlines, hassignments⟩ := p.vertexLines_eq
  refine ⟨inside, ?_, ?_, hassignments⟩
  · rw [vertexSource, hlines]
    exact Glsl.isReadAs_intercalate (hlines ▸ hunbroken) h.ne_mainLine_of_mem_vertexAbove
  · intro text htext
    simp [hlines, htext]

theorem Declares.exists_read_fragmentSource (h : p.Declares uniforms attributes varyings)
    (hunbroken : ∀ line ∈ p.fragmentLines, '\n' ∉ line.toList) :
    ∃ inside, Glsl.IsReadAs p.fragmentSource p.fragmentAbove inside ∧
      ∀ text ∈ inside, text ∈ p.fragmentLines := by
  obtain ⟨inside, hlines⟩ := p.fragmentLines_eq
  refine ⟨inside, ?_, ?_⟩
  · rw [fragmentSource, hlines]
    exact Glsl.isReadAs_intercalate (hlines ▸ hunbroken) h.ne_mainLine_of_mem_fragmentAbove
  · intro text htext
    simp [hlines, htext]

/-- The declarations of the boilerplate come back. -/
theorem filterMap_builtins {ds : List Declaration}
    (h : ∀ d ∈ ds, d ∈ builtinUniforms ++ builtinAttributes ++ builtinVaryings) :
    ((ds.map Declaration.text).map String.toList).filterMap declaration? = ds :=
  filterMap_map_text fun d hd => isPlain_of_mem_builtins d (h d hd)

theorem declaration?_precisionLine : declaration? precisionLine.toList = none := by decide

/-- The vertex source declares what the program was made from, among the inputs
    of the boilerplate. -/
theorem Declares.declarations_vertexSource (h : p.Declares uniforms attributes varyings)
    (hunbroken : ∀ line ∈ p.vertexLines, '\n' ∉ line.toList) :
    declarations p.vertexSource = vertexDeclarations uniforms attributes varyings := by
  obtain ⟨inside, hread, -⟩ := h.exists_read_vertexSource hunbroken
  have huniforms := filterMap_block fun d hd => (h.uniform d hd).1
  have hattributes := filterMap_block fun d hd => (h.attribute d hd).1
  have hvaryings := filterMap_block fun d hd => (h.varying d hd).1
  rw [declarations, hread.preamble_eq, vertexAbove, h.uniformLines_eq, h.attributeLines_eq,
    h.varyingLines_eq, vertexDeclarations]
  simp only [List.map_append, List.map_cons, List.filterMap_append, List.cons_append,
    List.filterMap_cons_none declaration?_precisionLine, huniforms, hattributes, hvaryings,
    @filterMap_builtins builtinUniforms (fun d hd => by simp [hd]),
    @filterMap_builtins builtinAttributes (fun d hd => by simp [hd]),
    @filterMap_builtins builtinVaryings (fun d hd => by simp [hd])]

/-- So does the fragment source, except for attributes. -/
theorem Declares.declarations_fragmentSource (h : p.Declares uniforms attributes varyings)
    (hunbroken : ∀ line ∈ p.fragmentLines, '\n' ∉ line.toList) :
    declarations p.fragmentSource = fragmentDeclarations uniforms varyings := by
  obtain ⟨inside, hread, -⟩ := h.exists_read_fragmentSource hunbroken
  have huniforms := filterMap_block fun d hd => (h.uniform d hd).1
  have hvaryings := filterMap_block fun d hd => (h.varying d hd).1
  have hclock : declaration? clock.text.toList = some clock := by
    apply Glsl.declaration?_text
    exact isPlain_of_mem_builtins clock (by simp [builtinUniforms])
  rw [declarations, hread.preamble_eq, fragmentAbove, h.uniformLines_eq, h.varyingLines_eq,
    fragmentDeclarations]
  simp only [List.map_append, List.map_cons, List.filterMap_append, List.cons_append,
    List.nil_append, List.filterMap_cons_none declaration?_precisionLine,
    List.filterMap_cons_some hclock, huniforms, hvaryings,
    @filterMap_builtins builtinVaryings (fun d hd => by simp [hd])]

/-- Among the declarations, varyings are those that are meant as such. -/
theorem Declares.mem_varyings_of_vertex (h : p.Declares uniforms attributes varyings)
    {d : Declaration} (hd : d ∈ vertexDeclarations uniforms attributes varyings)
    (hvarying : d.qualifier = .varying) : d ∈ builtinVaryings ++ varyings := by
  have hbuiltin : ∀ d ∈ builtinUniforms ++ builtinAttributes, d.qualifier ≠ .varying := by decide
  simp only [vertexDeclarations, List.mem_append] at hd hbuiltin ⊢
  rcases hd with ((((hd | hd) | hd) | hd) | hd) | hd
  · exact absurd hvarying (hbuiltin d (.inl hd))
  · rw [(h.uniform d hd).2] at hvarying
    cases hvarying
  · exact absurd hvarying (hbuiltin d (.inr hd))
  · rw [(h.attribute d hd).2] at hvarying
    cases hvarying
  · exact .inl hd
  · exact .inr hd

theorem Declares.mem_varyings_of_fragment (h : p.Declares uniforms attributes varyings)
    {d : Declaration} (hd : d ∈ fragmentDeclarations uniforms varyings)
    (hvarying : d.qualifier = .varying) : d ∈ builtinVaryings ++ varyings := by
  simp only [fragmentDeclarations, List.mem_append, List.mem_cons] at hd ⊢
  rcases hd with ((rfl | hd) | hd) | hd
  · cases hvarying
  · rw [(h.uniform d hd).2] at hvarying
    cases hvarying
  · exact .inl hd
  · exact .inr hd

/-! ### Code of a program -/

section Code

variable {holds : String → Prop}

/-- The lines of a block are code if they are made of code. -/
theorem codeOver_of_mem_block {α : Type} {xs : List α} {line : α → String}
    (h : ∀ x ∈ xs, CodeOver holds (line x).toList) :
    ∀ text ∈ block (xs.map line), CodeOver holds text.toList := by
  intro text htext
  unfold block at htext
  split at htext
  · obtain rfl := List.mem_singleton.1 htext
    exact ⟨by decide, fun name hname => by cases hname⟩
  · obtain ⟨x, hx, rfl⟩ := List.mem_map.1 htext
    exact h x hx

theorem codeOver_uniformLines (h : ∀ text ∈ p.uniforms, CodeOver holds text.toList) :
    ∀ line ∈ p.uniformLines, CodeOver holds line.toList := by
  apply codeOver_of_mem_block
  intro text htext
  exact .string_between (by decide) (by decide) (by decide) (by decide) (h text htext)

theorem codeOver_attributeLines (h : ∀ text ∈ p.attributes, CodeOver holds text.toList) :
    ∀ line ∈ p.attributeLines, CodeOver holds line.toList := by
  apply codeOver_of_mem_block
  intro text htext
  exact .string_between (by decide) (by decide) (by decide) (by decide) (h text htext)

theorem codeOver_varyingLines
    (h : ∀ v ∈ p.varyings, CodeOver holds (v.type ++ " " ++ v.name).toList) :
    ∀ line ∈ p.varyingLines, CodeOver holds line.toList := by
  apply codeOver_of_mem_block
  intro v hv
  have hline : CodeOver holds ("varying " ++ (v.type ++ " " ++ v.name) ++ ";").toList :=
    .string_between (by decide) (by decide) (by decide) (by decide) (h v hv)
  simpa [String.append_assoc] using hline

theorem codeOver_assignmentLines
    (h : ∀ v ∈ p.varyings, CodeOver holds (v.name ++ " = " ++ v.expression).toList) :
    ∀ line ∈ p.assignmentLines, CodeOver holds line.toList := by
  apply codeOver_of_mem_block
  intro v hv
  have hline : CodeOver holds ("  " ++ (v.name ++ " = " ++ v.expression) ++ ";").toList :=
    .string_between (by decide) (by decide) (by decide) (by decide) (h v hv)
  simpa [String.append_assoc] using hline

/-- The lines of a vertex shader are code over the inputs of the boilerplate and
    those of its parts. -/
theorem codeOver_vertexLines
    (hbuiltin : ∀ d ∈ builtinUniforms ++ builtinAttributes ++ builtinVaryings, holds d.name)
    (huniforms : ∀ text ∈ p.uniforms, CodeOver holds text.toList)
    (hattributes : ∀ text ∈ p.attributes, CodeOver holds text.toList)
    (hvaryings : ∀ v ∈ p.varyings, CodeOver holds (v.type ++ " " ++ v.name).toList)
    (hassignments : ∀ v ∈ p.varyings, CodeOver holds (v.name ++ " = " ++ v.expression).toList)
    (hsize : CodeOver holds p.size.toList) (hoffset : CodeOver holds p.offset.toList)
    (hbounds : CodeOver holds p.textureBounds.toList) :
    ∀ line ∈ p.vertexLines, CodeOver holds line.toList := by
  have hknown : ∀ name ∈ ["u_projectionMatrix", "u_offsetScaleMatrix", "u_offsetRotateMatrix",
      "u_time", "a_position", "a_index", "v_texCoord", "v_quadCoord"], holds name := by
    simpa [builtinUniforms, builtinAttributes, builtinVaryings, clock] using hbuiltin
  have huniformLines := codeOver_uniformLines huniforms
  have hattributeLines := codeOver_attributeLines hattributes
  have hvaryingLines := codeOver_varyingLines hvaryings
  have hassignmentLines := codeOver_assignmentLines hassignments
  have hmatrix : CodeOver holds p.offsetMatrix.toList := by
    unfold offsetMatrix
    split
    · exact .string_of_known hknown (by decide)
    · exact .string_of_known hknown (by decide)
  have hmatrixLine : CodeOver holds ("  mat4 offsetMatrix = " ++ p.offsetMatrix ++ ";").toList :=
    .string_between (by decide) (by decide) (by decide) (by decide) hmatrix
  have hsizeLine : CodeOver holds ("  vec2 size = " ++ p.size ++ ";").toList :=
    .string_between (by decide) (by decide) (by decide) (by decide) hsize
  have hoffsetLine : CodeOver holds ("  vec2 offset = " ++ p.offset ++ ";").toList :=
    .string_between (by decide) (by decide) (by decide) (by decide) hoffset
  have hboundsLine : CodeOver holds ("  vec4 texCoord = " ++ p.textureBounds ++ ";").toList :=
    .string_between (by decide) (by decide) (by decide) (by decide) hbounds
  unfold vertexLines
  simp only [List.forall_mem_append, List.forall_mem_cons, List.not_mem_nil, false_implies,
    implies_true, and_true, true_and, hmatrixLine, hsizeLine, hoffsetLine, hboundsLine,
    String.reduceAppend]
  -- What remains are the fixed lines and the blocks.
  repeat' apply And.intro
  all_goals first
    | exact .string_of_known hknown (by decide +kernel)
    | assumption

/-- So are the lines of a fragment shader. -/
theorem codeOver_fragmentLines (hbuiltin : ∀ d ∈ clock :: builtinVaryings, holds d.name)
    (huniforms : ∀ text ∈ p.uniforms, CodeOver holds text.toList)
    (hvaryings : ∀ v ∈ p.varyings, CodeOver holds (v.type ++ " " ++ v.name).toList)
    (hcolor : CodeOver holds p.color.toList) (hdiscard : CodeOver holds p.discard.toList) :
    ∀ line ∈ p.fragmentLines, CodeOver holds line.toList := by
  have hknown : ∀ name ∈ ["u_time", "v_texCoord", "v_quadCoord"], holds name := by
    simpa [builtinVaryings, clock] using hbuiltin
  have huniformLines := codeOver_uniformLines huniforms
  have hvaryingLines := codeOver_varyingLines hvaryings
  have hdiscardLine : CodeOver holds ("  if (" ++ p.discard ++ ") \x7b discard; \x7d").toList :=
    .string_between (by decide) (by decide) (by decide) (by decide) hdiscard
  have hcolorLine : CodeOver holds ("  gl_FragColor = " ++ p.color ++ ";").toList :=
    .string_between (by decide) (by decide) (by decide) (by decide) hcolor
  unfold fragmentLines
  simp only [List.forall_mem_append, List.forall_mem_cons, List.not_mem_nil, false_implies,
    implies_true, and_true, true_and, hdiscardLine, hcolorLine]
  repeat' apply And.intro
  all_goals first
    | exact .string_of_known hknown (by decide +kernel)
    | assumption

end Code

end Program

end SymbolStyle

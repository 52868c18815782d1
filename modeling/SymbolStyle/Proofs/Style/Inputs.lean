import SymbolStyle.Proofs.Inputs
import SymbolStyle.Proofs.Shader.Declaration
import SymbolStyle.Proofs.Style.Compilation

/-! # Inputs of compiled styles

    How the names in the sources of a compiled style agree with what the
    sources declare, if the style reads plain names.

    * `Compilation.declares`: the program is made from one declaration for each
      name that is read, and one for the texture if there is one.
    * `codeOver_vertexLines`, `codeOver_fragmentLines`: all code of the two
      sources is over declared names.
    * `compile_declaresInputs`: every input that `main` reads is declared above
      it, and attributes reach the fragment shader through varyings only.
-/

namespace SymbolStyle

open Glsl (Expr Declaration CodeOver inputs isInput identifiers declarations declaredNames lines
  preamble mainBody mainLine)

/-! ## Code in its place -/

/-- The text of a tree is code over what it reads, if names are plain. -/
theorem Glsl.Expr.ReadsOnly.codeOver {property : Reading → Prop} {holds : String → Prop}
    {stem : String} {e : Expr} (h : e.ReadsOnly property) (hstem : stem = "a_" ∨ stem = "v_")
    (hplain : ∀ reading, property reading → isPlainName reading.name)
    (hinputs : ∀ name, NamesInput stem property name → holds name) :
    CodeOver holds (e.text stem).toList := by
  rw [Expr.text, String.toList_ofList]
  constructor
  · -- A line break is no character of code.
    have hstemChars : stem.toList.all Glsl.isCodeChar := by
      rcases hstem with rfl | rfl <;> decide
    have hchars : ∀ c ∈ e.render stem, Glsl.isCodeChar c := by
      refine h.forall_mem_render ?_ (List.all_eq_true.1 hstemChars) ?_
      · intro c hc
        exact hc
      · intro reading hreading c hc
        exact Glsl.isCodeChar_of_isNameChar (List.all_eq_true.1 (hplain reading hreading) c hc)
    intro hbreak
    exact absurd (hchars '\n' hbreak) (by decide)
  · intro name hname
    exact hinputs name (h.of_mem_inputs_render hstem hplain name hname)

namespace Style

/-- What fits its place and was lowered there reads only what it reads. -/
theorem Fits.readsOnly {slot : Slot} {v : Value} {tree : Expr} (h : Fits slot v tree) :
    tree.ReadsOnly (Reads v) := by
  apply h.lowers.readsOnly
  have haccepts := h.accepts
  by_cases hcolor : slot.field = .color
  · exact .inr (.inr (by rw [wantedIn, if_pos hcolor]))
  · rw [Slot.expected, if_neg hcolor] at haccepts
    exact .inl (Kind.number_accepts_iff.1 haccepts)

/-- All names that the style reads are plain. -/
def ReadsPlainNames (style : Value) : Prop :=
  ∀ reading, ReadsInput style reading → isPlainName reading.name

end Style

/-- The style shows an image, which is bound to the uniform of the texture. -/
def CompiledStyle.IsTextured (compiled : CompiledStyle) : Prop :=
  ∃ source, (Style.textureName, Binding.texture source) ∈ compiled.uniforms

/-! ## Code of slots -/

section Slots

variable {holds : String → Prop} {x y z w : String}

theorem codeOver_vec2 (hx : CodeOver holds x.toList) (hy : CodeOver holds y.toList) :
    CodeOver holds ("vec2(" ++ x ++ ", " ++ y ++ ")").toList := by
  have hopened : CodeOver holds ("vec2(" ++ x).toList :=
    .string_prepend (.of_inputs_eq_nil (by decide)) (by decide) hx
  have hpair : CodeOver holds ("vec2(" ++ x ++ ", " ++ y).toList :=
    hopened.string_join (by decide) (by decide) (by decide) (by decide) hy
  exact hpair.string_append (.of_inputs_eq_nil (by decide)) (by decide)

theorem codeOver_vec4 (hx : CodeOver holds x.toList) (hy : CodeOver holds y.toList)
    (hz : CodeOver holds z.toList) (hw : CodeOver holds w.toList) :
    CodeOver holds ("vec4(" ++ ", ".intercalate [x, y, z, w] ++ ")").toList := by
  have htwo : CodeOver holds (z ++ ", " ++ w).toList :=
    hz.string_join (by decide) (by decide) (by decide) (by decide) hw
  have hthree : CodeOver holds (y ++ ", " ++ (z ++ ", " ++ w)).toList :=
    hy.string_join (by decide) (by decide) (by decide) (by decide) htwo
  have hfour : CodeOver holds (x ++ ", " ++ (y ++ ", " ++ (z ++ ", " ++ w))).toList :=
    hx.string_join (by decide) (by decide) (by decide) (by decide) hthree
  have hlist : ", ".intercalate [x, y, z, w] = x ++ ", " ++ (y ++ ", " ++ (z ++ ", " ++ w)) := by
    simp
  rw [hlist]
  exact .string_between (by decide) (by decide) (by decide) (by decide) hfour

/-- The mask of a shape reads the position in the quad and what the size does. -/
theorem codeOver_mask (symbol : Symbol) (hquad : holds "v_quadCoord")
    (hx : CodeOver holds x.toList) : CodeOver holds (symbol.mask x).toList := by
  have hknown : ∀ name ∈ ["v_quadCoord"], holds name := by simpa using hquad
  cases symbol with
  | square => exact .string_of_known hknown (by decide)
  | image => exact .string_of_known hknown (by decide)
  | circle =>
    exact .string_enclosed (.of_inputs_eq_nil (by decide)) (by decide)
      (.of_known hknown (by decide +kernel)) (by decide) hx
  | triangle =>
    -- The angle is repeated, and within it the point.
    have hpoint : CodeOver holds "(v_quadCoord*2.-1.)".toList :=
      .string_of_known hknown (by decide)
    have hperiod : CodeOver holds "2.094395102".toList := .string_of_known hknown (by decide)
    have habscissa : CodeOver holds ("(atan(" ++ "(v_quadCoord*2.-1.)").toList :=
      .string_prepend (.of_inputs_eq_nil (by decide)) (by decide) hpoint
    have hordinate : CodeOver holds (_ ++ ".x," ++ _).toList :=
      habscissa.string_join (by decide) (by decide) (by decide) (by decide) hpoint
    have hangle : CodeOver holds (_ ++ ".y))").toList :=
      hordinate.string_append (.of_inputs_eq_nil (by decide)) (by decide)
    have hopened : CodeOver holds ("(1.0-smoothstep(.5-3./" ++ x).toList :=
      .string_prepend (.of_inputs_eq_nil (by decide)) (by decide) hx
    have hfloor : CodeOver holds (_ ++ ",.5,cos(floor(.5+" ++ _).toList :=
      hopened.string_join (by decide) (by decide) (by decide) (by decide) hangle
    have hquotient : CodeOver holds (_ ++ "/" ++ _).toList :=
      hfloor.string_join (by decide) (by decide) (by decide) (by decide) hperiod
    have hproduct : CodeOver holds (_ ++ ")*" ++ _).toList :=
      hquotient.string_join (by decide) (by decide) (by decide) (by decide) hperiod
    have hdifference : CodeOver holds (_ ++ "-" ++ _).toList :=
      hproduct.string_join (by decide) (by decide) (by decide) (by decide) hangle
    have hdistance : CodeOver holds (_ ++ ")*length(" ++ _).toList :=
      hdifference.string_join (by decide) (by decide) (by decide) (by decide) hpoint
    have hmask : CodeOver holds (_ ++ ")))").toList :=
      hdistance.string_append (.of_inputs_eq_nil (by decide)) (by decide)
    exact hmask

/-- The color of a fragment, with the texture if there is one. -/
theorem codeOver_colorSlot {trees : Trees} {symbol : Symbol} {textured : Bool}
    (hcolor : CodeOver holds (trees.color.text Style.varyingStem).toList)
    (hopacity : CodeOver holds (trees.opacity.text Style.varyingStem).toList)
    (hmask : CodeOver holds (symbol.mask (trees.size.1.text Style.varyingStem)).toList)
    (htextured : textured → holds "u_texture" ∧ holds "v_texCoord") :
    CodeOver holds (Style.colorSlot trees symbol textured).toList := by
  have hopened : CodeOver holds ("vec4(" ++ trees.color.text Style.varyingStem).toList :=
    .string_prepend (.of_inputs_eq_nil (by decide)) (by decide) hcolor
  have halpha : CodeOver holds (_ ++ ".rgb, " ++ _).toList :=
    hopened.string_join (by decide) (by decide) (by decide) (by decide) hcolor
  have hproduct : CodeOver holds (_ ++ ".a * " ++ _).toList :=
    halpha.string_join (by decide) (by decide) (by decide) (by decide) hopacity
  have hmasked : CodeOver holds (_ ++ " * " ++ _).toList :=
    hproduct.string_join (by decide) (by decide) (by decide) (by decide) hmask
  have hclosed : CodeOver holds (_ ++ ")").toList :=
    hmasked.string_append (.of_inputs_eq_nil (by decide)) (by decide)
  cases textured with
  | false =>
    have hempty : CodeOver holds [] := .of_inputs_eq_nil (by decide)
    exact hclosed.string_append hempty (by decide)
  | true =>
    obtain ⟨htexture, hposition⟩ := htextured rfl
    have hknown : ∀ name ∈ ["u_texture", "v_texCoord"], holds name := by
      simp [htexture, hposition]
    have htexel : CodeOver holds (_ ++ " * texture2D(u_texture, v_texCoord)").toList :=
      hclosed.string_append (.of_known hknown (by decide)) (by decide)
    exact htexel

/-- A plain name behind a stem. -/
theorem codeOver_name {stem name : String} (hstem : stem = "a_" ∨ stem = "v_" ∨ stem = "u_")
    (hname : isPlainName name) (h : holds (stem ++ name)) :
    CodeOver holds (stem ++ name).toList := by
  rw [String.toList_append]
  constructor
  · intro hbreak
    rcases List.mem_append.1 hbreak with hbreak | hbreak
    · rcases hstem with rfl | rfl | rfl <;> exact absurd hbreak (by decide)
    · exact absurd (List.all_eq_true.1 hname _ hbreak) (by decide)
  · intro input hinput
    rw [Glsl.inputs_stem_append hstem hname] at hinput
    obtain rfl := List.mem_singleton.1 hinput
    exact h

/-- The declaration of a single number, without its qualifier. -/
theorem codeOver_bare {stem name : String} (qualifier : Glsl.Qualifier)
    (hstem : stem = "a_" ∨ stem = "v_" ∨ stem = "u_") (hname : isPlainName name)
    (h : holds (stem ++ name)) :
    CodeOver holds (Declaration.mk qualifier "float" (stem ++ name)).bare.toList := by
  have hbare : CodeOver holds ("float " ++ (stem ++ name)).toList :=
    .string_prepend (.of_inputs_eq_nil (by decide)) (by decide) (codeOver_name hstem hname h)
  simpa [Declaration.bare, ← String.append_assoc] using hbare

end Slots

/-! ## Declarations of a compiled style -/

/-- The uniform of a variable. -/
def uniformOf (name : String) : Declaration := ⟨.uniform, "float", "u_" ++ name⟩

/-- The attribute of a property. -/
def attributeOf (name : String) : Declaration := ⟨.attribute, "float", "a_" ++ name⟩

/-- The varying that carries an attribute. -/
def varyingOf (name : String) : Declaration := ⟨.varying, "float", "v_" ++ name⟩

/-- The uniform of the texture. -/
def samplerUniform : Declaration := ⟨.uniform, "sampler2D", "u_texture"⟩

theorem isPlain_stem_append {stem name : String} (qualifier : Glsl.Qualifier)
    (hstem : stem = "a_" ∨ stem = "v_" ∨ stem = "u_") (hname : isPlainName name) :
    (Declaration.mk qualifier "float" (stem ++ name)).IsPlain := by
  constructor
  · show identifiers "float".toList = ["float"]
    decide
  · show identifiers (stem ++ name).toList = [stem ++ name]
    rw [String.toList_append]
    exact Glsl.identifiers_stem_append hstem hname

theorem isPlain_samplerUniform : samplerUniform.IsPlain := by
  constructor <;> decide

namespace Compilation

variable {style : Value} {compiled : CompiledStyle} (c : Compilation style compiled)

/-- The uniforms that are declared for a style. -/
def uniforms : List Declaration :=
  (Style.variablesOf (Style.allExpressions c.fields)).map uniformOf
    ++ if c.texture.isSome then [samplerUniform] else []

/-- The attributes that are declared for a style. -/
def «attributes» : List Declaration := (Style.allAttributes c.fields).map attributeOf

/-- The varyings that are declared for a style. -/
def varyings : List Declaration :=
  (Style.attributesOf (Style.fragmentExpressions c.fields)).map varyingOf

include c

/-- What a style reads can be computed. -/
theorem readsInput_iff_mem {readings : List Reading}
    (h : (Style.fields? style).map (fun fields =>
      (Style.allExpressions fields).flatMap Value.readings) = some readings) {reading : Reading} :
    Style.ReadsInput style reading ↔ reading ∈ readings := by
  rw [c.fields?_eq] at h
  obtain rfl := Option.some.inj h
  rw [c.readsInput_iff, List.mem_flatMap]
  constructor
  · rintro ⟨v, hv, hreads⟩
    obtain ⟨k, htyped⟩ := c.exists_wellTyped hv
    exact ⟨v, hv, htyped.mem_readings_iff.2 hreads⟩
  · rintro ⟨v, hv, hreads⟩
    obtain ⟨k, htyped⟩ := c.exists_wellTyped hv
    exact ⟨v, hv, htyped.mem_readings_iff.1 hreads⟩

theorem readsInput_of_fragmentReads {reading : Reading}
    (h : Style.FragmentReads style reading) : Style.ReadsInput style reading := by
  rw [c.fragmentReads_iff] at h
  rw [c.readsInput_iff]
  obtain ⟨v, hv, hreads⟩ := h
  exact ⟨v, c.mem_allExpressions_of_fragment hv, hreads⟩

/-- The program of a style is made from its declarations. -/
theorem declares (hnames : Style.ReadsPlainNames style) :
    compiled.program.Declares c.uniforms c.attributes c.varyings := by
  have hvariable : ∀ name ∈ Style.variablesOf (Style.allExpressions c.fields),
      isPlainName name := fun name hname => hnames _ (c.mem_variablesOf_iff.1 hname)
  have hattribute : ∀ name ∈ Style.allAttributes c.fields, isPlainName name :=
    fun name hname => hnames _ (c.mem_allAttributes_iff.1 hname)
  have hvarying : ∀ name ∈ Style.attributesOf (Style.fragmentExpressions c.fields),
      isPlainName name := fun name hname =>
    hnames _ (c.readsInput_of_fragmentReads (c.mem_fragmentAttributes_iff.1 hname))
  constructor
  · rw [c.program_eq, uniforms, List.map_append]
    show _ ++ (if c.texture.isSome then ["sampler2D " ++ Style.textureName] else []) = _
    congr 1
    · rw [List.map_map]
      apply List.map_congr_left
      intro name hname
      simp [uniformOf, Declaration.bare, Glsl.variableStem, ← String.append_assoc]
    · split <;> rfl
  · rw [c.program_eq, «attributes», List.map_map]
    apply List.map_congr_left
    intro name hname
    simp [attributeOf, Declaration.bare, Style.attributeStem, ← String.append_assoc]
  · rw [c.program_eq, varyings, List.map_map]
    show (List.map _ (List.map _ _)) = _
    rw [List.map_map]
    rfl
  · intro d hd
    rw [uniforms, List.mem_append] at hd
    rcases hd with hd | hd
    · obtain ⟨name, hname, rfl⟩ := List.mem_map.1 hd
      exact ⟨isPlain_stem_append _ (.inr (.inr rfl)) (hvariable name hname), rfl⟩
    · split at hd
      · obtain rfl := List.mem_singleton.1 hd
        exact ⟨isPlain_samplerUniform, rfl⟩
      · cases hd
  · intro d hd
    obtain ⟨name, hname, rfl⟩ := List.mem_map.1 hd
    exact ⟨isPlain_stem_append _ (.inl rfl) (hattribute name hname), rfl⟩
  · intro d hd
    obtain ⟨name, hname, rfl⟩ := List.mem_map.1 hd
    exact ⟨isPlain_stem_append _ (.inr (.inl rfl)) (hvarying name hname), rfl⟩

/-! ## Names in the sources -/

/-- The names that the vertex source declares. -/
def vertexNames : List String :=
  (Program.vertexDeclarations c.uniforms c.attributes c.varyings).map Declaration.name

/-- The names that the fragment source declares. -/
def fragmentNames : List String :=
  (Program.fragmentDeclarations c.uniforms c.varyings).map Declaration.name

theorem uniform_mem {name : String} (h : Style.ReadsInput style (.variable name)) :
    uniformOf name ∈ c.uniforms := by
  rw [uniforms, List.mem_append]
  exact .inl (List.mem_map.2 ⟨name, c.mem_variablesOf_iff.2 h, rfl⟩)

/-- What an expression reads in the vertex shader is declared there. -/
theorem mem_vertexNames {v : Value} (hv : v ∈ Style.allExpressions c.fields) {name : String}
    (h : NamesInput "a_" (Reads v) name) : name ∈ c.vertexNames := by
  unfold vertexNames Program.vertexDeclarations
  cases h with
  | @«attribute» name hreads =>
    have hinput := c.mem_allAttributes_iff.2 (c.readsInput_iff.2 ⟨v, hv, hreads⟩)
    have hmem : attributeOf name ∈ c.attributes := List.mem_map.2 ⟨name, hinput, rfl⟩
    exact List.mem_map.2 ⟨attributeOf name, by simp [hmem], rfl⟩
  | @«variable» name hreads =>
    have hmem := c.uniform_mem (c.readsInput_iff.2 ⟨v, hv, hreads⟩)
    exact List.mem_map.2 ⟨uniformOf name, by simp [hmem], rfl⟩
  | clock => simp [Program.builtinUniforms, Program.clock]

/-- What an expression reads in the fragment shader is declared there. -/
theorem mem_fragmentNames {v : Value} (hv : v ∈ Style.fragmentExpressions c.fields)
    {name : String} (h : NamesInput "v_" (Reads v) name) : name ∈ c.fragmentNames := by
  unfold fragmentNames Program.fragmentDeclarations
  cases h with
  | @«attribute» name hreads =>
    have hinput := c.mem_fragmentAttributes_iff.2 (c.fragmentReads_iff.2 ⟨v, hv, hreads⟩)
    have hmem : varyingOf name ∈ c.varyings := List.mem_map.2 ⟨name, hinput, rfl⟩
    exact List.mem_map.2 ⟨varyingOf name, by simp [hmem], rfl⟩
  | @«variable» name hreads =>
    have hall := c.mem_allExpressions_of_fragment hv
    have hmem := c.uniform_mem (c.readsInput_iff.2 ⟨v, hall, hreads⟩)
    exact List.mem_map.2 ⟨uniformOf name, by simp [hmem], rfl⟩
  | clock => simp [Program.clock]

/-- The code of an expression in the vertex shader. -/
theorem codeOver_vertex (hnames : Style.ReadsPlainNames style) {slot : Slot} {v : Value}
    {tree : Expr} (h : Style.Fits slot v tree) (hv : v ∈ Style.allExpressions c.fields) :
    CodeOver (· ∈ c.vertexNames) (tree.text Style.attributeStem).toList := by
  apply h.readsOnly.codeOver (.inl rfl)
  · intro reading hreading
    exact hnames reading (c.readsInput_iff.2 ⟨v, hv, hreading⟩)
  · intro name hname
    exact c.mem_vertexNames hv hname

/-- The code of an expression in the fragment shader. -/
theorem codeOver_fragment (hnames : Style.ReadsPlainNames style) {slot : Slot} {v : Value}
    {tree : Expr} (h : Style.Fits slot v tree) (hv : v ∈ Style.fragmentExpressions c.fields) :
    CodeOver (· ∈ c.fragmentNames) (tree.text Style.varyingStem).toList := by
  apply h.readsOnly.codeOver (.inr rfl)
  · intro reading hreading
    exact hnames reading
      (c.readsInput_iff.2 ⟨v, c.mem_allExpressions_of_fragment hv, hreading⟩)
  · intro name hname
    exact c.mem_fragmentNames hv hname

/-! ## Lines of the sources -/

/-- The varyings of the program, each with the attribute that it carries. -/
theorem varyings_eq : compiled.program.varyings
    = (Style.attributesOf (Style.fragmentExpressions c.fields)).map fun name =>
        ⟨"v_" ++ name, "float", "a_" ++ name⟩ := by
  rw [c.program_eq]
  rfl

section Lines

variable {holds : String → Prop} (hnames : Style.ReadsPlainNames style)

include hnames

theorem codeOver_uniforms (h : ∀ d ∈ c.uniforms, holds d.name) :
    ∀ text ∈ compiled.program.uniforms, CodeOver holds text.toList := by
  intro text htext
  rw [(c.declares hnames).uniforms_eq] at htext
  obtain ⟨d, hd, rfl⟩ := List.mem_map.1 htext
  have hholds := h d hd
  rw [uniforms, List.mem_append] at hd
  rcases hd with hd | hd
  · obtain ⟨name, hname, rfl⟩ := List.mem_map.1 hd
    have hplain : isPlainName name := hnames _ (c.mem_variablesOf_iff.1 hname)
    exact codeOver_bare _ (.inr (.inr rfl)) hplain hholds
  · split at hd
    · obtain rfl := List.mem_singleton.1 hd
      have hknown : ∀ name ∈ ["u_texture"], holds name := by
        intro name hname
        obtain rfl := List.mem_singleton.1 hname
        exact hholds
      have hbare : CodeOver holds "sampler2D u_texture".toList :=
        .string_of_known hknown (by decide)
      exact hbare
    · cases hd

theorem codeOver_attributes (h : ∀ d ∈ c.attributes, holds d.name) :
    ∀ text ∈ compiled.program.attributes, CodeOver holds text.toList := by
  intro text htext
  rw [(c.declares hnames).attributes_eq] at htext
  obtain ⟨d, hd, rfl⟩ := List.mem_map.1 htext
  have hholds := h d hd
  obtain ⟨name, hname, rfl⟩ := List.mem_map.1 hd
  have hplain : isPlainName name := hnames _ (c.mem_allAttributes_iff.1 hname)
  exact codeOver_bare _ (.inl rfl) hplain hholds

theorem codeOver_varyings (h : ∀ d ∈ c.varyings, holds d.name) :
    ∀ v ∈ compiled.program.varyings, CodeOver holds (v.type ++ " " ++ v.name).toList := by
  have hvaryings := (c.declares hnames).varyings_eq
  intro v hv
  have htext : v.type ++ " " ++ v.name ∈ c.varyings.map Declaration.bare := by
    rw [← hvaryings]
    exact List.mem_map.2 ⟨v, hv, rfl⟩
  obtain ⟨d, hd, heq⟩ := List.mem_map.1 htext
  rw [← heq]
  have hholds := h d hd
  obtain ⟨name, hname, rfl⟩ := List.mem_map.1 hd
  have hplain : isPlainName name :=
    hnames _ (c.readsInput_of_fragmentReads (c.mem_fragmentAttributes_iff.1 hname))
  exact codeOver_bare _ (.inr (.inl rfl)) hplain hholds

/-- All code of the vertex source is over names that it declares. -/
theorem codeOver_vertexLines :
    ∀ line ∈ compiled.program.vertexLines, CodeOver (· ∈ c.vertexNames) line.toList := by
  have hplaced := c.placed
  have hdeclared : ∀ {d : Declaration},
      d ∈ Program.vertexDeclarations c.uniforms c.attributes c.varyings →
      d.name ∈ c.vertexNames := fun hd => List.mem_map_of_mem hd
  have hcode : ∀ {slot : Slot} {v : Value} {tree : Expr}, Style.Fits slot v tree →
      v ∈ Style.vertexExpressions c.fields →
      CodeOver (· ∈ c.vertexNames) (tree.text Style.attributeStem).toList :=
    fun hfits hv => c.codeOver_vertex hnames hfits (c.mem_allExpressions_of_vertex hv)
  apply Program.codeOver_vertexLines
  · intro d hd
    apply hdeclared
    simp only [List.mem_append] at hd
    simp only [Program.vertexDeclarations, List.mem_append]
    tauto
  · apply c.codeOver_uniforms hnames
    intro d hd
    exact hdeclared (by simp [Program.vertexDeclarations, hd])
  · apply c.codeOver_attributes hnames
    intro d hd
    exact hdeclared (by simp [Program.vertexDeclarations, hd])
  · apply c.codeOver_varyings hnames
    intro d hd
    exact hdeclared (by simp [Program.vertexDeclarations, hd])
  · -- What a varying carries is an attribute.
    intro v hv
    rw [c.varyings_eq] at hv
    obtain ⟨name, hname, rfl⟩ := List.mem_map.1 hv
    have hreads := c.readsInput_of_fragmentReads (c.mem_fragmentAttributes_iff.1 hname)
    have hplain : isPlainName name := hnames _ hreads
    have hvarying : varyingOf name ∈ c.varyings := List.mem_map.2 ⟨name, hname, rfl⟩
    have hattribute : attributeOf name ∈ c.attributes :=
      List.mem_map.2 ⟨name, c.mem_allAttributes_iff.2 hreads, rfl⟩
    have hleft : CodeOver (· ∈ c.vertexNames) ("v_" ++ name).toList :=
      codeOver_name (.inr (.inl rfl)) hplain
        (@hdeclared (varyingOf name) (by simp [Program.vertexDeclarations, hvarying]))
    have hright : CodeOver (· ∈ c.vertexNames) ("a_" ++ name).toList :=
      codeOver_name (.inl rfl) hplain
        (@hdeclared (attributeOf name) (by simp [Program.vertexDeclarations, hattribute]))
    exact hleft.string_join (by decide) (by decide) (by decide) (by decide) hright
  · rw [c.program_eq]
    exact codeOver_vec2 (hcode hplaced.width (by simp [Style.vertexExpressions]))
      (hcode hplaced.height (by simp [Style.vertexExpressions]))
  · rw [c.program_eq]
    exact codeOver_vec2 (hcode hplaced.x (by simp [Style.vertexExpressions]))
      (hcode hplaced.y (by simp [Style.vertexExpressions]))
  · rw [c.program_eq]
    exact codeOver_vec4 (hcode hplaced.left (by simp [Style.vertexExpressions]))
      (hcode hplaced.bottom (by simp [Style.vertexExpressions]))
      (hcode hplaced.right (by simp [Style.vertexExpressions]))
      (hcode hplaced.top (by simp [Style.vertexExpressions]))

/-- All code of the fragment source is over names that it declares. -/
theorem codeOver_fragmentLines :
    ∀ line ∈ compiled.program.fragmentLines, CodeOver (· ∈ c.fragmentNames) line.toList := by
  have hplaced := c.placed
  have hdeclared : ∀ {d : Declaration},
      d ∈ Program.fragmentDeclarations c.uniforms c.varyings →
      d.name ∈ c.fragmentNames := fun hd => List.mem_map_of_mem hd
  have hcode : ∀ {slot : Slot} {v : Value} {tree : Expr}, Style.Fits slot v tree →
      v ∈ Style.fragmentExpressions c.fields →
      CodeOver (· ∈ c.fragmentNames) (tree.text Style.varyingStem).toList :=
    fun hfits hv => c.codeOver_fragment hnames hfits hv
  apply Program.codeOver_fragmentLines
  · intro d hd
    apply hdeclared
    simp only [List.mem_cons] at hd
    simp only [Program.fragmentDeclarations, List.mem_append, List.mem_cons]
    tauto
  · apply c.codeOver_uniforms hnames
    intro d hd
    exact hdeclared (by simp [Program.fragmentDeclarations, hd])
  · apply c.codeOver_varyings hnames
    intro d hd
    exact hdeclared (by simp [Program.fragmentDeclarations, hd])
  · have hquad : "v_quadCoord" ∈ c.fragmentNames :=
      @hdeclared ⟨.varying, "vec2", "v_quadCoord"⟩
        (by simp [Program.fragmentDeclarations, Program.builtinVaryings])
    have hposition : "v_texCoord" ∈ c.fragmentNames :=
      @hdeclared ⟨.varying, "vec2", "v_texCoord"⟩
        (by simp [Program.fragmentDeclarations, Program.builtinVaryings])
    rw [c.program_eq]
    apply codeOver_colorSlot
    · exact hcode hplaced.color (by simp [Style.fragmentExpressions])
    · exact hcode hplaced.opacity (by simp [Style.fragmentExpressions])
    · exact codeOver_mask _ hquad (hcode hplaced.width (by simp [Style.fragmentExpressions]))
    · intro htextured
      refine ⟨@hdeclared samplerUniform ?_, hposition⟩
      simp [Program.fragmentDeclarations, uniforms, htextured]
  · rw [c.program_eq]
    have hrel := hplaced.filter
    have hmem : ∀ v ∈ c.fields.filter, v ∈ Style.fragmentExpressions c.fields := by
      intro v hv
      simp [Style.fragmentExpressions, Option.mem_toList.2 hv]
    have hdiscard : (Style.programOf c.fields c.trees c.shape c.texture.isSome).discard
        = c.trees.filter.elim Program.blank.discard
            fun e => e.text Style.varyingStem ++ " <= 0.0" := by
      unfold Style.programOf
      cases c.trees.filter <;> rfl
    rw [hdiscard]
    generalize c.fields.filter = filter at hrel hmem
    generalize c.trees.filter = tree at hrel
    cases hrel with
    | none =>
      have hnone : ∀ name ∈ ([] : List String), name ∈ c.fragmentNames := by simp
      exact .string_of_known hnone (by decide)
    | some hfits =>
      exact (hcode hfits (hmem _ rfl)).string_append (.of_inputs_eq_nil (by decide)) (by decide)

end Lines

theorem declarations_vertexSource (hnames : Style.ReadsPlainNames style) :
    declarations compiled.program.vertexSource
      = Program.vertexDeclarations c.uniforms c.attributes c.varyings :=
  (c.declares hnames).declarations_vertexSource fun line hline =>
    (c.codeOver_vertexLines hnames line hline).unbroken

theorem declarations_fragmentSource (hnames : Style.ReadsPlainNames style) :
    declarations compiled.program.fragmentSource
      = Program.fragmentDeclarations c.uniforms c.varyings :=
  (c.declares hnames).declarations_fragmentSource fun line hline =>
    (c.codeOver_fragmentLines hnames line hline).unbroken

end Compilation

namespace Style

/-- The source has a `main`, and all inputs that are named in it are declared
    above it. -/
def DeclaresInputs (source : String) : Prop :=
  lines source = preamble source ++ mainLine.toList :: mainBody source ∧
    ∀ line ∈ mainBody source, ∀ name ∈ identifiers line, isInput name →
      name ∈ declaredNames source

/-- A varying other than those of the boilerplate is assigned in the vertex
    shader, from the attribute of the same name. -/
def IsBridge (vertexSource : String) (d : Declaration) : Prop :=
  d.name = "v_texCoord" ∨ d.name = "v_quadCoord" ∨
    ∃ name, d.name = "v_" ++ name ∧
      ("  " ++ ("v_" ++ name) ++ " = " ++ ("a_" ++ name) ++ ";").toList ∈ mainBody vertexSource

/-- It is enough that the lines inside `main` are code over declared names. -/
theorem declaresInputs_of_codeOver {source : String} {above inside : List String}
    (hread : Glsl.IsReadAs source above inside)
    (hcode : ∀ text ∈ inside, CodeOver (· ∈ declaredNames source) text.toList) :
    DeclaresInputs source := by
  refine ⟨hread.lines_eq, ?_⟩
  intro line hline name hname hinput
  rw [hread.mainBody_eq] at hline
  obtain ⟨text, htext, rfl⟩ := List.mem_map.1 hline
  exact (hcode text htext).inputs_hold name (Glsl.mem_inputs.2 ⟨hname, hinput⟩)

theorem declaresInputs_vertexSource {style : Value} {compiled : CompiledStyle}
    (c : Compilation style compiled) (hnames : ReadsPlainNames style) :
    DeclaresInputs compiled.program.vertexSource := by
  have hcode := c.codeOver_vertexLines hnames
  obtain ⟨inside, hread, hinside, -⟩ := (c.declares hnames).exists_read_vertexSource
    fun line hline => (hcode line hline).unbroken
  apply declaresInputs_of_codeOver hread
  intro text htext
  rw [declaredNames, c.declarations_vertexSource hnames]
  exact hcode text (hinside text htext)

theorem declaresInputs_fragmentSource {style : Value} {compiled : CompiledStyle}
    (c : Compilation style compiled) (hnames : ReadsPlainNames style) :
    DeclaresInputs compiled.program.fragmentSource := by
  have hcode := c.codeOver_fragmentLines hnames
  obtain ⟨inside, hread, hinside⟩ := (c.declares hnames).exists_read_fragmentSource
    fun line hline => (hcode line hline).unbroken
  apply declaresInputs_of_codeOver hread
  intro text htext
  rw [declaredNames, c.declarations_fragmentSource hnames]
  exact hcode text (hinside text htext)

/-- No name that the fragment source declares is that of an attribute. -/
theorem not_attribute_of_mem_fragmentNames {style : Value} {compiled : CompiledStyle}
    (c : Compilation style compiled) {name : String} (h : name ∈ c.fragmentNames) :
    ¬ "a_".toList <+: name.toList := by
  obtain ⟨d, hd, rfl⟩ := List.mem_map.1 h
  simp only [Program.fragmentDeclarations, Program.builtinVaryings, Program.clock,
    Compilation.uniforms, Compilation.varyings, List.mem_append, List.mem_cons, List.mem_map,
    List.not_mem_nil, or_false] at hd
  rcases hd with ((rfl | ⟨n, -, rfl⟩ | hd) | rfl | rfl) | ⟨n, -, rfl⟩
  · decide
  · simp [uniformOf]
  · split at hd
    · obtain rfl := List.mem_singleton.1 hd
      decide
    · cases hd
  · decide
  · decide
  · simp [varyingOf]

/-- The fragment source names no attributes. -/
theorem not_attribute_of_mem_fragmentSource {style : Value} {compiled : CompiledStyle}
    (c : Compilation style compiled) (hnames : ReadsPlainNames style) :
    ∀ name ∈ identifiers compiled.program.fragmentSource.toList, ¬ "a_".toList <+: name.toList := by
  intro name hname hprefix
  have hinput : isInput name := by
    unfold isInput
    rw [List.any_eq_true]
    exact ⟨"a_", by simp, List.isPrefixOf_iff_prefix.2 hprefix⟩
  have hbreak : "\n".toList = ['\n'] := rfl
  -- Names do not reach across lines.
  rw [Program.fragmentSource, String.toList_intercalate, hbreak,
    Glsl.identifiers_intercalate (by decide) (by simp), List.flatMap_map] at hname
  obtain ⟨line, hline, hname⟩ := List.mem_flatMap.1 hname
  have hdeclared := (c.codeOver_fragmentLines hnames line hline).inputs_hold name
    (Glsl.mem_inputs.2 ⟨hname, hinput⟩)
  exact not_attribute_of_mem_fragmentNames c hdeclared hprefix

theorem isBridge_of_mem_varyings {style : Value} {compiled : CompiledStyle}
    (c : Compilation style compiled) (hnames : ReadsPlainNames style) {d : Declaration}
    (hd : d ∈ Program.builtinVaryings ++ c.varyings) :
    IsBridge compiled.program.vertexSource d := by
  rcases List.mem_append.1 hd with hd | hd
  · simp only [Program.builtinVaryings, List.mem_cons, List.not_mem_nil, or_false] at hd
    rcases hd with rfl | rfl
    · exact .inl rfl
    · exact .inr (.inl rfl)
  · obtain ⟨name, hname, rfl⟩ := List.mem_map.1 hd
    obtain ⟨inside, hread, -, hassignments⟩ := (c.declares hnames).exists_read_vertexSource
      fun line hline => (c.codeOver_vertexLines hnames line hline).unbroken
    have hvarying : (⟨"v_" ++ name, "float", "a_" ++ name⟩ : Varying)
        ∈ compiled.program.varyings := by
      rw [c.varyings_eq]
      exact List.mem_map.2 ⟨name, hname, rfl⟩
    refine .inr (.inr ⟨name, rfl, ?_⟩)
    rw [hread.mainBody_eq]
    refine List.mem_map.2 ⟨_, hassignments _ ?_, rfl⟩
    have hne : compiled.program.varyings ≠ [] := List.ne_nil_of_mem hvarying
    rw [Program.assignmentLines, Program.block, if_neg (by simpa using hne)]
    exact List.mem_map.2 ⟨_, hvarying, rfl⟩

/-- Every input that a compiled style reads is declared where it is read. In
    both sources, the inputs that are named inside `main` are declared above
    it. The fragment source names no attributes at all; whatever property it
    reads comes through a varying, which the vertex shader assigns from the
    attribute of the same name. -/
theorem compile_declaresInputs {style : Value} {compiled : CompiledStyle}
    (h : (compile style).result = .ok compiled) (hnames : ReadsPlainNames style) :
    DeclaresInputs compiled.program.vertexSource ∧
    DeclaresInputs compiled.program.fragmentSource ∧
    (∀ name ∈ identifiers compiled.program.fragmentSource.toList,
      ¬ "a_".toList <+: name.toList) ∧
    (∀ source ∈ [compiled.program.vertexSource, compiled.program.fragmentSource],
      ∀ d ∈ declarations source, d.qualifier = .varying →
        IsBridge compiled.program.vertexSource d) := by
  obtain ⟨c⟩ := exists_compilation h
  refine ⟨declaresInputs_vertexSource c hnames, declaresInputs_fragmentSource c hnames,
    not_attribute_of_mem_fragmentSource c hnames, ?_⟩
  intro source hsource d hd hvarying
  apply isBridge_of_mem_varyings c hnames
  have hdeclares := c.declares hnames
  rcases List.mem_cons.1 hsource with rfl | hsource
  · rw [c.declarations_vertexSource hnames] at hd
    exact hdeclares.mem_varyings_of_vertex hd hvarying
  · obtain rfl := List.mem_singleton.1 hsource
    rw [c.declarations_fragmentSource hnames] at hd
    exact hdeclares.mem_varyings_of_fragment hd hvarying

/-- A style that shows an image, as large as a property says. -/
def scaledImage : Value :=
  .object [("symbol", .object [("symbolType", .string "image"), ("src", .string "icon.png"),
    ("size", .sequence .list [.string "get", .string "population"])])]

theorem scaledImage_readsInput_iff {compiled : CompiledStyle}
    (c : Compilation scaledImage compiled) {reading : Reading} :
    ReadsInput scaledImage reading ↔ reading = .attribute "population" := by
  have hreadings : (fields? scaledImage).map (fun fields =>
      (allExpressions fields).flatMap Value.readings)
        = some (List.replicate 3 (.attribute "population")) := by decide +kernel
  rw [c.readsInput_iff_mem hreadings]
  simp

/-- The size is computed in both shaders, from an attribute and from the varying
    that carries it. -/
theorem scaledImage_declaresInputs :
    ∃ compiled, (compile scaledImage).result = .ok compiled ∧ ReadsPlainNames scaledImage ∧
      DeclaresInputs compiled.program.vertexSource ∧
      DeclaresInputs compiled.program.fragmentSource ∧
      IsBridge compiled.program.vertexSource (varyingOf "population") := by
  have hok : (compile scaledImage).result.isOk := by decide +kernel
  obtain ⟨compiled, hcompile⟩ := exists_ok_of_isOk hok
  obtain ⟨c⟩ := exists_compilation hcompile
  have hnames : ReadsPlainNames scaledImage := by
    intro reading hreading
    obtain rfl := (scaledImage_readsInput_iff c).1 hreading
    decide
  obtain ⟨hvertex, hfragment, -, hbridge⟩ := compile_declaresInputs hcompile hnames
  refine ⟨compiled, hcompile, hnames, hvertex, hfragment, ?_⟩
  have hregistered : (fields? scaledImage).map (fun fields =>
      attributesOf (fragmentExpressions fields)) = some ["population"] := by decide +kernel
  have hvarying : varyingOf "population" ∈ c.varyings := by
    rw [c.fields?_eq] at hregistered
    have hattributes : attributesOf (fragmentExpressions c.fields) = ["population"] :=
      Option.some.inj hregistered
    rw [Compilation.varyings, hattributes]
    simp
  apply hbridge compiled.program.fragmentSource (by simp) _ _ rfl
  rw [c.declarations_fragmentSource hnames]
  simp [Program.fragmentDeclarations, hvarying]

end Style

end SymbolStyle

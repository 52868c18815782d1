import SymbolStyle.Proofs.Style.Redeclaration
import SymbolStyle.Proofs.Style.Slots

/-! # Uniforms and what they are bound to

    A program declares uniforms, and the compiled style says what each of them
    is bound to: every variable is a uniform, and so is the texture of an image.

    Declarations are appended to a list, while bindings are put into entries
    that have one value per name. So they stay side by side unless a name comes
    twice, which happens if an image reads a variable `texture`.

    * `Style.BindsUniforms`: what is declared is what is bound, in the same
      order, variables to themselves and the texture to the image.
    * `compile_bindsUniforms_iff`: this holds exactly if the names do not meet.
    * `scaledByTexture_misbinds`: a style in which they do.
-/

namespace SymbolStyle

open Value

namespace Style

/-- The name in the text of a declaration: what comes after the type. -/
def nameIn (declaration : String) : String :=
  String.ofList ((declaration.toList.dropWhile (· ≠ ' ')).drop 1)

theorem nameIn_float (name : String) : nameIn ("float " ++ name) = name := by
  unfold nameIn
  rw [String.toList_append]
  show String.ofList name.toList = name
  exact String.ofList_toList

/-- No variable is declared as the texture is. -/
theorem float_append_ne (name : String) : "float " ++ name ≠ "sampler2D u_texture" := by
  intro heq
  have hfirst := congrArg (fun text => text.toList.head?) heq
  rw [String.toList_append] at hfirst
  have hletters : some 'f' = some 's' := hfirst
  simp at hletters

/-- What is declared for a variable is bound to it. -/
def BindsVariable (compiled : CompiledStyle) (name : String) : Prop :=
  "float u_" ++ name ∈ compiled.program.uniforms →
    compiled.uniforms.lookup ("u_" ++ name) = some (.variable name)

/-- What is declared for the texture is bound to the image that the style
    gives. -/
def BindsTexture (style : Value) (compiled : CompiledStyle) : Prop :=
  "sampler2D u_texture" ∈ compiled.program.uniforms →
    ∃ source text, givenInSymbol? style "src" = some source ∧ source.display? = some text ∧
      compiled.uniforms.lookup "u_texture" = some (.texture text)

/-- The uniforms that are declared are those that are bound, in the same order
    and each once, variables to themselves and the texture to the image. -/
structure BindsUniforms (style : Value) (compiled : CompiledStyle) : Prop where
  names : compiled.program.uniforms.map nameIn = compiled.uniforms.map Prod.fst
  nodup : (compiled.uniforms.map Prod.fst).Nodup
  «variable» : ∀ name, BindsVariable compiled name
  texture : BindsTexture style compiled

end Style

/-! ## Entries of names that are different -/

namespace Entries

variable {α : Type}

/-- An entry is found by its name if no other one has that name. -/
theorem lookup_of_mem {entries : Entries α} (hnodup : (entries.map Prod.fst).Nodup)
    {name : String} {v : α} (h : (name, v) ∈ entries) : entries.lookup name = some v := by
  induction entries with
  | nil => cases h
  | cons entry rest ih =>
    obtain ⟨k, first⟩ := entry
    rw [List.map_cons, List.nodup_cons] at hnodup
    rcases List.mem_cons.1 h with heq | hmem
    · cases heq
      exact List.lookup_cons_self
    · have hne : name ≠ k := by
        rintro rfl
        exact hnodup.1 (List.mem_map.2 ⟨(name, v), hmem, rfl⟩)
      have hbeq : (name == k) = false := by simpa using hne
      rw [List.lookup_cons, hbeq]
      exact ih hnodup.2 hmem

end Entries

/-! ## Declarations and bindings -/

namespace Compilation

variable {style : Value} {compiled : CompiledStyle} (c : Compilation style compiled)

/-- The variables of the style. -/
def variableNames : List String := Style.variablesOf (Style.allExpressions c.fields)

/-- What the variables are bound to. -/
def variableBindings : Entries Binding :=
  c.variableNames.map fun name => ("u_" ++ name, .variable name)

/-- The texture is called like a variable. -/
def TextureMeetsVariable : Prop := c.texture.isSome ∧ "texture" ∈ c.variableNames

include c

theorem textureMeetsVariable_iff : c.TextureMeetsVariable ↔
    compiled.IsTextured ∧ Style.ReadsInput style (.variable "texture") := by
  rw [TextureMeetsVariable, c.isTextured_iff, variableNames, c.mem_variablesOf_iff]

theorem map_fst_variableBindings :
    c.variableBindings.map Prod.fst = c.variableNames.map ("u_" ++ ·) := by
  rw [variableBindings, List.map_map]
  rfl

theorem nodup_variableBindings : (c.variableBindings.map Prod.fst).Nodup := by
  rw [map_fst_variableBindings, nodup_map_append_iff]
  exact (register_appendsOnce [] _).nodup List.nodup_nil

theorem mem_variableBindings_iff :
    "u_texture" ∈ c.variableBindings.map Prod.fst ↔ "texture" ∈ c.variableNames := by
  rw [map_fst_variableBindings, List.mem_map]
  constructor
  · rintro ⟨name, hmem, heq⟩
    obtain rfl : name = "texture" := (String.append_right_inj "u_").1 heq
    exact hmem
  · intro hmem
    exact ⟨"texture", hmem, rfl⟩

/-- What is declared: the variables, and then the texture. -/
theorem program_uniforms_eq : compiled.program.uniforms
    = c.variableNames.map (fun name => "float " ++ ("u_" ++ name))
      ++ if c.texture.isSome then ["sampler2D u_texture"] else [] := by
  rw [c.program_eq]
  unfold Style.programOf
  simp only [← String.append_assoc]
  rfl

theorem mem_uniforms_variable_iff {name : String} :
    "float u_" ++ name ∈ compiled.program.uniforms ↔ name ∈ c.variableNames := by
  have hstem : "float u_" ++ name = "float " ++ ("u_" ++ name) := by
    rw [← String.append_assoc]
    rfl
  rw [hstem, c.program_uniforms_eq, List.mem_append]
  constructor
  · rintro (hvariable | htexture)
    · obtain ⟨other, hmem, heq⟩ := List.mem_map.1 hvariable
      rw [String.append_right_inj, String.append_right_inj] at heq
      exact heq ▸ hmem
    · split at htexture
      · exact absurd (List.mem_singleton.1 htexture) (Style.float_append_ne _)
      · cases htexture
  · intro hmem
    exact .inl (List.mem_map.2 ⟨name, hmem, rfl⟩)

theorem mem_uniforms_texture_iff :
    "sampler2D u_texture" ∈ compiled.program.uniforms ↔ c.texture.isSome := by
  rw [c.program_uniforms_eq, List.mem_append]
  constructor
  · rintro (hvariable | htexture)
    · obtain ⟨name, -, heq⟩ := List.mem_map.1 hvariable
      exact absurd heq (Style.float_append_ne _)
    · split at htexture
      · assumption
      · cases htexture
  · intro htextured
    rw [if_pos htextured]
    exact .inr (List.mem_singleton_self _)

theorem map_nameIn_uniforms : compiled.program.uniforms.map Style.nameIn
    = c.variableBindings.map Prod.fst ++ if c.texture.isSome then ["u_texture"] else [] := by
  have hnames : (c.variableNames.map fun name => "float " ++ ("u_" ++ name)).map Style.nameIn
      = c.variableNames.map ("u_" ++ ·) := by
    rw [List.map_map]
    apply List.map_congr_left
    intro name _
    exact Style.nameIn_float _
  have hsampler : Style.nameIn "sampler2D u_texture" = "u_texture" := by decide
  rw [c.program_uniforms_eq, List.map_append, hnames, c.map_fst_variableBindings]
  cases c.texture with
  | none => rfl
  | some text =>
    show _ ++ [Style.nameIn "sampler2D u_texture"] = _
    rw [hsampler]
    rfl

/-- What is bound: the variables, and the texture in place of one of its name. -/
theorem uniforms_eq_put : compiled.uniforms = c.texture.elim c.variableBindings fun text =>
    Entries.put "u_texture" (.texture text) c.variableBindings := by
  rw [c.uniforms_eq]
  cases c.texture with
  | none => rfl
  | some text => rfl

theorem map_fst_uniforms : compiled.uniforms.map Prod.fst
    = c.variableBindings.map Prod.fst
      ++ if c.texture.isSome ∧ "texture" ∉ c.variableNames then ["u_texture"] else [] := by
  rw [c.uniforms_eq_put]
  cases c.texture with
  | none => simp
  | some text =>
    show (Entries.put "u_texture" _ c.variableBindings).map Prod.fst = _
    rw [Entries.names_put]
    by_cases hmem : "texture" ∈ c.variableNames
    · simp [hmem, c.mem_variableBindings_iff]
    · simp [hmem, c.mem_variableBindings_iff]

/-- No uniform is bound twice. -/
theorem nodup_uniforms : (compiled.uniforms.map Prod.fst).Nodup := by
  rw [c.map_fst_uniforms]
  by_cases hnew : c.texture.isSome ∧ "texture" ∉ c.variableNames
  · rw [if_pos hnew, List.nodup_append']
    refine ⟨c.nodup_variableBindings, List.nodup_singleton _, ?_⟩
    rw [List.disjoint_singleton, c.mem_variableBindings_iff]
    exact hnew.2
  · rw [if_neg hnew, List.append_nil]
    exact c.nodup_variableBindings

/-- What is declared is bound and the other way round. -/
theorem mem_map_nameIn_iff {name : String} :
    name ∈ compiled.program.uniforms.map Style.nameIn ↔
      name ∈ compiled.uniforms.map Prod.fst := by
  rw [c.map_nameIn_uniforms, c.map_fst_uniforms]
  by_cases hmem : "texture" ∈ c.variableNames
  · -- The texture is bound in the place of the variable of its name.
    have hbound := c.mem_variableBindings_iff.2 hmem
    cases c.texture with
    | none => simp
    | some text =>
      simp only [Option.isSome_some, if_true, hmem, not_true_eq_false, and_false, if_false,
        List.append_nil, List.mem_append, List.mem_singleton]
      constructor
      · rintro (h | rfl)
        · exact h
        · exact hbound
      · intro h
        exact .inl h
  · simp [hmem]

/-- Declarations and bindings have the same names in the same order unless the
    texture is called like a variable. -/
theorem map_nameIn_eq_iff :
    compiled.program.uniforms.map Style.nameIn = compiled.uniforms.map Prod.fst ↔
      ¬ c.TextureMeetsVariable := by
  rw [c.map_nameIn_uniforms, c.map_fst_uniforms, List.append_cancel_left_eq]
  unfold TextureMeetsVariable
  by_cases hmem : "texture" ∈ c.variableNames
  · cases c.texture with
    | none => simp
    | some text => simp [hmem]
  · simp [hmem]

/-- The texture is bound to the image, even in the place of a variable. -/
theorem bindsTexture : Style.BindsTexture style compiled := by
  intro h
  obtain ⟨text, htextured⟩ := Option.isSome_iff_exists.1 (c.mem_uniforms_texture_iff.1 h)
  have htexture := c.texture_eq
  rw [htextured] at htexture
  rcases Style.textureOf_cases c.fields c.shape with ⟨-, heq⟩ | ⟨source, -, hsource, htext⟩
  · cases heq.symm.trans htexture
  · rcases htext with ⟨found, hdisplay, heq⟩ | ⟨-, heq⟩
    · obtain rfl : found = text := Option.some.inj (Except.ok.inj (heq.symm.trans htexture))
      refine ⟨source, found, c.hasFields.source.symm.trans hsource, hdisplay, ?_⟩
      rw [c.uniforms_eq_put, htextured]
      exact Entries.lookup_put _ _ _
    · cases heq.symm.trans htexture

/-- A variable is bound to itself, unless the texture has its name. -/
theorem bindsVariable {name : String} (hname : c.texture.isSome → name ≠ "texture") :
    Style.BindsVariable compiled name := by
  intro h
  have hbinding : ("u_" ++ name, Binding.variable name) ∈ c.variableBindings :=
    List.mem_map.2 ⟨name, c.mem_uniforms_variable_iff.1 h, rfl⟩
  have hlookup := Entries.lookup_of_mem c.nodup_variableBindings hbinding
  rw [c.uniforms_eq_put]
  cases htextured : c.texture with
  | none => exact hlookup
  | some text =>
    -- Putting in the texture changes no other entry.
    have hne : "u_" ++ name ≠ "u_texture" := by
      intro heq
      exact hname (by simp [htextured]) ((String.append_right_inj "u_").1 heq)
    exact (Entries.lookup_put_of_ne _ _ hne).trans hlookup

theorem bindsUniforms (h : ¬ c.TextureMeetsVariable) : Style.BindsUniforms style compiled where
  names := c.map_nameIn_eq_iff.2 h
  nodup := c.nodup_uniforms
  «variable» name := by
    intro hdeclared
    refine c.bindsVariable ?_ hdeclared
    rintro htextured rfl
    exact h ⟨htextured, c.mem_uniforms_variable_iff.1 hdeclared⟩
  texture := c.bindsTexture

end Compilation

namespace Style

/-- Declarations and bindings of uniforms agree exactly if no image reads a
    variable `texture`. Even then the same names are declared and bound, none is
    bound twice, the texture is bound to the image, and all other variables to
    themselves. -/
theorem compile_bindsUniforms_iff {style : Value} {compiled : CompiledStyle}
    (h : (compile style).result = .ok compiled) :
    (BindsUniforms style compiled ↔
      ¬ (compiled.IsTextured ∧ ReadsInput style (.variable "texture"))) ∧
    (∀ name, name ∈ compiled.program.uniforms.map nameIn ↔
      name ∈ compiled.uniforms.map Prod.fst) ∧
    (compiled.uniforms.map Prod.fst).Nodup ∧ BindsTexture style compiled ∧
    ∀ name, name ≠ "texture" → BindsVariable compiled name := by
  obtain ⟨c⟩ := exists_compilation h
  refine ⟨?_, fun name => c.mem_map_nameIn_iff, c.nodup_uniforms, c.bindsTexture,
    fun name hname => c.bindsVariable fun _ => hname⟩
  rw [← c.textureMeetsVariable_iff]
  constructor
  · intro hbinds
    exact c.map_nameIn_eq_iff.1 hbinds.names
  · exact c.bindsUniforms

/-- The image reads no variable, so its only uniform is bound to it. -/
theorem scaledImage_bindsUniforms :
    ∃ compiled, (compile scaledImage).result = .ok compiled ∧
      BindsUniforms scaledImage compiled := by
  have hok : (compile scaledImage).result.isOk := by decide +kernel
  obtain ⟨compiled, hcompile⟩ := exists_ok_of_isOk hok
  obtain ⟨c⟩ := exists_compilation hcompile
  refine ⟨compiled, hcompile, (compile_bindsUniforms_iff hcompile).1.2 ?_⟩
  intro hmeets
  cases (scaledImage_readsInput_iff c).1 hmeets.2

/-- An image that is as large as the variable `texture` says. -/
def scaledByTexture : Value :=
  .object [("symbol", .object [("symbolType", .string "image"), ("src", .string "pin.png"),
    ("size", .sequence .list [.string "var", .string "texture"])])]

/-- The variable is declared, but it is bound to the image. -/
theorem scaledByTexture_misbinds :
    ∃ compiled, (compile scaledByTexture).result = .ok compiled ∧
      compiled.program.uniforms = ["float u_texture", "sampler2D u_texture"] ∧
      compiled.uniforms = [("u_texture", .texture "pin.png")] ∧
      ¬ BindsUniforms scaledByTexture compiled := by
  have huniforms : (compile scaledByTexture).result.toOption.map (fun compiled =>
      (compiled.program.uniforms, compiled.uniforms))
        = some (["float u_texture", "sampler2D u_texture"], [("u_texture", .texture "pin.png")]) := by
    decide +kernel
  cases hcompile : (compile scaledByTexture).result with
  | error e => simp [hcompile, Except.toOption] at huniforms
  | ok compiled =>
    simp only [hcompile, Except.toOption, Option.map_some, Option.some.injEq, Prod.mk.injEq]
      at huniforms
    obtain ⟨hdeclared, hbound⟩ := huniforms
    refine ⟨compiled, rfl, hdeclared, hbound, ?_⟩
    intro hbinds
    have hnames := congrArg List.length hbinds.names
    simp [hdeclared, hbound] at hnames

end Style

end SymbolStyle

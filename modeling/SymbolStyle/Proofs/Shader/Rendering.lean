import Mathlib.Data.List.Basic
import Mathlib.Data.List.Induction
import SymbolStyle.Proofs.Shader.Declaration

/-! # Sources determine their program

    Nothing is lost when a program is written, and nothing is mixed up: the
    parts of a program that its texts leave on one line can be told from the
    sources.

    * `Program.IsPlain`: each text stands on one line, and the names and types
      of varyings are words. Making a program from such texts keeps this up.
    * `Program.AgreeInVertex`, `Program.AgreeInFragment`: the parts that each
      shader shows.
    * `Program.vertexSource_eq_iff`, `Program.fragmentSource_eq_iff`: plain
      programs have the same source exactly if they agree in these parts.
-/

namespace SymbolStyle

/-! ## Plain programs -/

/-- The text stands on one line. -/
def IsUnbroken (text : String) : Prop := '\n' ∉ text.toList

instance decidableIsUnbroken (text : String) : Decidable (IsUnbroken text) :=
  inferInstanceAs (Decidable ('\n' ∉ text.toList))

/-- The text stands on one line and has no blanks. -/
structure IsWord (text : String) : Prop where
  unbroken : IsUnbroken text
  unspaced : ' ' ∉ text.toList

instance decidableIsWord (text : String) : Decidable (IsWord text) :=
  decidable_of_iff (IsUnbroken text ∧ ' ' ∉ text.toList)
    ⟨fun h => ⟨h.1, h.2⟩, fun h => ⟨h.unbroken, h.unspaced⟩⟩

/-- The texts of a varying stand on one line; its name and type are words. -/
structure Varying.IsPlain (v : Varying) : Prop where
  name : IsWord v.name
  type : IsWord v.type
  expression : IsUnbroken v.expression

instance Varying.decidableIsPlain (v : Varying) : Decidable v.IsPlain :=
  decidable_of_iff (IsWord v.name ∧ IsWord v.type ∧ IsUnbroken v.expression)
    ⟨fun h => ⟨h.1, h.2.1, h.2.2⟩, fun h => ⟨h.name, h.type, h.expression⟩⟩

namespace Program

open Glsl (CodeOver)

/-- All texts of a program stand on one line. -/
structure IsPlain (p : Program) : Prop where
  uniforms : ∀ text ∈ p.uniforms, IsUnbroken text
  «attributes» : ∀ text ∈ p.attributes, IsUnbroken text
  varyings : ∀ v ∈ p.varyings, v.IsPlain
  size : IsUnbroken p.size
  offset : IsUnbroken p.offset
  color : IsUnbroken p.color
  textureBounds : IsUnbroken p.textureBounds
  discard : IsUnbroken p.discard

/-- What a change puts into a program stands on one line. -/
def Change.IsPlain : Change → Prop
  | .uniform text | .attribute text | .size text | .offset text | .color text
  | .textureBounds text | .discard text => IsUnbroken text
  | .varying v => v.IsPlain
  | .rotatesWithView _ => True

instance Change.decidableIsPlain : (change : Change) → Decidable change.IsPlain
  | .uniform text | .attribute text | .size text | .offset text | .color text
  | .textureBounds text | .discard text => decidableIsUnbroken text
  | .varying v => v.decidableIsPlain
  | .rotatesWithView _ => .isTrue trivial

variable {p q : Program} {changes : List Change}

theorem isPlain_blank : blank.IsPlain := by
  refine ⟨?_, ?_, ?_, ?_, ?_, ?_, ?_, ?_⟩
  all_goals decide

theorem forall_mem_concat {α : Type} {holds : α → Prop} {xs : List α} {x : α}
    (hxs : ∀ y ∈ xs, holds y) (hx : holds x) : ∀ y ∈ xs ++ [x], holds y := by
  rw [List.forall_mem_append]
  exact ⟨hxs, by simpa using hx⟩

/-- A plain change keeps a program plain. -/
theorem IsPlain.apply {change : Change} (hp : p.IsPlain) (h : change.IsPlain) :
    (p.apply change).IsPlain := by
  cases change with
  | uniform text => exact { hp with uniforms := forall_mem_concat hp.uniforms h }
  | «attribute» text => exact { hp with «attributes» := forall_mem_concat hp.attributes h }
  | varying v => exact { hp with varyings := forall_mem_concat hp.varyings h }
  | size text => exact { hp with size := h }
  | offset text => exact { hp with offset := h }
  | color text => exact { hp with color := h }
  | textureBounds text => exact { hp with textureBounds := h }
  | discard text => exact { hp with discard := h }
  | rotatesWithView b => exact { hp with }

/-- A program that is made by plain changes is plain. -/
theorem isPlain_ofChanges (h : ∀ change ∈ changes, change.IsPlain) :
    (ofChanges changes).IsPlain := by
  -- On the last change: it is applied to the program that the others make.
  induction changes using List.reverseRecOn with
  | nil => exact isPlain_blank
  | append_singleton changes change ih =>
    rw [List.forall_mem_append] at h
    rw [ofChanges_concat]
    exact (ih h.1).apply (h.2 change (by simp))

/-! ## Lines of a plain program -/

/-- A text on one line, as code of which the inputs do not matter. -/
theorem codeOver_of_isUnbroken {text : String} (h : IsUnbroken text) :
    CodeOver (fun _ => True) text.toList :=
  ⟨h, fun _ _ => trivial⟩

/-- The lines of the sources of a plain program contain no breaks. -/
theorem IsPlain.unbroken (hp : p.IsPlain) :
    (∀ line ∈ p.vertexLines, '\n' ∉ line.toList) ∧
      ∀ line ∈ p.fragmentLines, '\n' ∉ line.toList := by
  have huniforms : ∀ text ∈ p.uniforms, CodeOver (fun _ => True) text.toList :=
    fun text htext => codeOver_of_isUnbroken (hp.uniforms text htext)
  have hattributes : ∀ text ∈ p.attributes, CodeOver (fun _ => True) text.toList :=
    fun text htext => codeOver_of_isUnbroken (hp.attributes text htext)
  have hvaryings : ∀ v ∈ p.varyings,
      CodeOver (fun _ => True) (v.type ++ " " ++ v.name).toList := by
    intro v hv
    apply codeOver_of_isUnbroken
    simpa [IsUnbroken] using
      ⟨(hp.varyings v hv).type.unbroken, (hp.varyings v hv).name.unbroken⟩
  have hassignments : ∀ v ∈ p.varyings,
      CodeOver (fun _ => True) (v.name ++ " = " ++ v.expression).toList := by
    intro v hv
    apply codeOver_of_isUnbroken
    simpa [IsUnbroken] using
      ⟨(hp.varyings v hv).name.unbroken, (hp.varyings v hv).expression⟩
  constructor
  · intro line hline
    exact (codeOver_vertexLines (fun _ _ => trivial) huniforms hattributes hvaryings hassignments
      (codeOver_of_isUnbroken hp.size) (codeOver_of_isUnbroken hp.offset)
      (codeOver_of_isUnbroken hp.textureBounds) line hline).unbroken
  · intro line hline
    exact (codeOver_fragmentLines (fun _ _ => trivial) huniforms hvaryings
      (codeOver_of_isUnbroken hp.color) (codeOver_of_isUnbroken hp.discard) line hline).unbroken

/-- Lines without breaks can be told from the text that they make up. -/
theorem intercalate_injective {ls ls' : List String} (hne : ls ≠ []) (hne' : ls' ≠ [])
    (h : ∀ line ∈ ls, '\n' ∉ line.toList) (h' : ∀ line ∈ ls', '\n' ∉ line.toList)
    (heq : "\n".intercalate ls = "\n".intercalate ls') : ls = ls' := by
  have hlines := congrArg Glsl.lines heq
  rw [Glsl.lines_intercalate hne h, Glsl.lines_intercalate hne' h'] at hlines
  exact List.map_injective_iff.2 (fun _ _ => String.toList_injective) hlines

/-! ## Blocks -/

/-- Two lists that are cut at the first occurrence of a member. -/
theorem append_cons_inj {α : Type} [DecidableEq α] {xs ys rest rest' : List α} {r : α}
    (hxs : r ∉ xs) (hys : r ∉ ys) (h : xs ++ r :: rest = ys ++ r :: rest') :
    xs = ys ∧ rest = rest' := by
  -- The lists in front are as long as the index of the member.
  have hlength : xs.length = ys.length := by
    have hindex := congrArg (List.idxOf r) h
    rw [List.idxOf_append_of_notMem hxs, List.idxOf_append_of_notMem hys] at hindex
    simpa using hindex
  simpa using List.append_inj h hlength

section Blocks

variable {α : Type} {line : α → String} {xs ys : List α}

/-- The members of a block can be told from it if none of them is empty. -/
theorem block_map_injective (hne : ∀ x, line x ≠ "")
    (h : block (xs.map line) = block (ys.map line)) : xs.map line = ys.map line := by
  have hother : ∀ zs : List α, zs.map line ≠ [""] := by
    intro zs hzs
    have hmem : "" ∈ zs.map line := by simp [hzs]
    obtain ⟨z, -, hz⟩ := List.mem_map.1 hmem
    exact hne z hz
  -- A block without members is one empty line, which is told from any member.
  unfold block at h
  by_cases hxs : xs.map line = []
  · by_cases hys : ys.map line = []
    · rw [hxs, hys]
    · rw [if_pos hxs, if_neg hys] at h
      exact absurd h.symm (hother ys)
  · by_cases hys : ys.map line = []
    · rw [if_neg hxs, if_pos hys] at h
      exact absurd h (hother xs)
    · rwa [if_neg hxs, if_neg hys] at h

/-- A line that begins otherwise than the members of a block is none of its
    lines. -/
theorem notMem_block {before text : String} (hne : text ≠ "")
    (hline : ∀ x, ∃ rest, line x = before ++ rest) (h : ¬ before.toList <+: text.toList) :
    text ∉ block (xs.map line) := by
  unfold block
  split
  · simpa using hne
  · intro hmem
    obtain ⟨x, -, rfl⟩ := List.mem_map.1 hmem
    obtain ⟨rest, hrest⟩ := hline x
    rw [hrest, String.toList_append] at h
    exact h (List.prefix_append _ _)

theorem notMem_uniformLines {text : String} (hne : text ≠ "")
    (h : ¬ "uniform ".toList <+: text.toList) : text ∉ p.uniformLines :=
  notMem_block hne (fun _ => ⟨_, String.append_assoc⟩) h

theorem notMem_attributeLines {text : String} (hne : text ≠ "")
    (h : ¬ "attribute ".toList <+: text.toList) : text ∉ p.attributeLines :=
  notMem_block hne (fun _ => ⟨_, String.append_assoc⟩) h

theorem notMem_varyingLines {text : String} (hne : text ≠ "")
    (h : ¬ "varying ".toList <+: text.toList) : text ∉ p.varyingLines :=
  notMem_block hne (fun _ => ⟨_, by rw [String.append_assoc, String.append_assoc,
    String.append_assoc]⟩) h

end Blocks

/-! ## Parts that a source shows -/

/-- Declarations can be told from their lines. -/
theorem declarations_eq_of_block {before : String} {texts texts' : List String}
    (hbefore : before ≠ "")
    (h : block (texts.map fun text => before ++ text ++ ";")
      = block (texts'.map fun text => before ++ text ++ ";")) : texts = texts' := by
  have hlines := block_map_injective (fun _ => by simp [hbefore]) h
  refine List.map_injective_iff.2 ?_ hlines
  intro text text' heq
  simpa using heq

/-- Two lists that look the same through two functions look the same through a
    third one that is determined by them. -/
theorem map_eq_of_map_eq {α β γ δ : Type} {f : α → β} {g : α → γ} {k : α → δ} {xs ys : List α}
    (h : ∀ x ∈ xs, ∀ y ∈ ys, f x = f y → g x = g y → k x = k y) (hf : xs.map f = ys.map f)
    (hg : xs.map g = ys.map g) : xs.map k = ys.map k := by
  induction xs generalizing ys with
  | nil =>
    obtain rfl : ys = [] := by simpa using hf.symm
    rfl
  | cons x xs ih =>
    cases ys with
    | nil => simp at hf
    | cons y ys =>
      simp only [List.map_cons, List.cons.injEq] at hf hg
      have htail : xs.map k = ys.map k := by
        apply ih _ hf.2 hg.2
        intro x' hx' y' hy'
        exact h x' (by simp [hx']) y' (by simp [hy'])
      rw [List.map_cons, List.map_cons, h x (by simp) y (by simp) hf.1 hg.1, htail]

/-- A type is a word, so it ends at the first blank. -/
theorem signature_eq_of_line {v w : Varying} (hv : v.IsPlain) (hw : w.IsPlain)
    (h : "varying " ++ v.type ++ " " ++ v.name ++ ";"
      = "varying " ++ w.type ++ " " ++ w.name ++ ";") : (v.type, v.name) = (w.type, w.name) := by
  have hlist := congrArg String.toList h
  simp only [String.append_assoc, String.toList_append, List.append_cancel_left_eq] at hlist
  obtain ⟨htype, hname⟩ : v.type.toList = w.type.toList ∧
      v.name.toList ++ ";".toList = w.name.toList ++ ";".toList :=
    append_cons_inj hv.type.unspaced hw.type.unspaced hlist
  have hname := List.append_cancel_right hname
  rw [String.toList_injective htype, String.toList_injective hname]

/-- Names and types of varyings can be told from their declarations. -/
theorem signatures_eq_of_lines (hp : p.IsPlain) (hq : q.IsPlain)
    (h : p.varyingLines = q.varyingLines) :
    p.varyings.map (fun v => (v.type, v.name)) = q.varyings.map fun v => (v.type, v.name) := by
  have hlines := block_map_injective (fun _ => by simp) h
  apply map_eq_of_map_eq _ hlines hlines
  intro v hv w hw heq _
  exact signature_eq_of_line (hp.varyings v hv) (hq.varyings w hw) heq

/-- With the names, the rest of the varyings can be told from the
    assignments. -/
theorem varyings_eq_of_lines
    (hsignatures : p.varyings.map (fun v => (v.type, v.name))
      = q.varyings.map fun v => (v.type, v.name))
    (h : p.assignmentLines = q.assignmentLines) : p.varyings = q.varyings := by
  have hlines := block_map_injective (fun _ => by simp) h
  -- A varying is determined by its type and name together with its assignment.
  rw [← List.map_id p.varyings, ← List.map_id q.varyings]
  apply map_eq_of_map_eq _ hsignatures hlines
  intro v hv w hw hsignature hline
  obtain ⟨name, type, expression⟩ := v
  obtain ⟨name', type', expression'⟩ := w
  simp only [Prod.mk.injEq] at hsignature
  obtain ⟨rfl, rfl⟩ := hsignature
  simpa [String.append_assoc] using hline

theorem rotatesWithView_eq_of_offsetMatrix (h : p.offsetMatrix = q.offsetMatrix) :
    p.rotatesWithView = q.rotatesWithView := by
  unfold offsetMatrix at h
  cases hp : p.rotatesWithView with
  | true =>
    cases hq : q.rotatesWithView with
    | true => rfl
    | false => simp [hp, hq] at h
  | false =>
    cases hq : q.rotatesWithView with
    | true => simp [hp, hq] at h
    | false => rfl

/-! ## Sources and the parts that they show -/

/-- The programs have the parts in common that the vertex shader shows: all but
    color and discard condition. -/
structure AgreeInVertex (p q : Program) : Prop where
  uniforms : p.uniforms = q.uniforms
  «attributes» : p.attributes = q.attributes
  varyings : p.varyings = q.varyings
  size : p.size = q.size
  offset : p.offset = q.offset
  textureBounds : p.textureBounds = q.textureBounds
  rotatesWithView : p.rotatesWithView = q.rotatesWithView

/-- The programs have the parts in common that the fragment shader shows:
    uniforms, the types and names of varyings, color and discard condition. -/
structure AgreeInFragment (p q : Program) : Prop where
  uniforms : p.uniforms = q.uniforms
  varyings : p.varyings.map (fun v => (v.type, v.name)) = q.varyings.map fun v => (v.type, v.name)
  color : p.color = q.color
  discard : p.discard = q.discard

theorem eq_of_agree (hvertex : p.AgreeInVertex q) (hfragment : p.AgreeInFragment q) : p = q := by
  obtain ⟨huniforms, hattributes, hvaryings, hsize, hoffset, hbounds, hrotates⟩ := hvertex
  obtain ⟨-, -, hcolor, hdiscard⟩ := hfragment
  cases p
  cases q
  simp_all

theorem AgreeInVertex.vertexSource_eq (h : p.AgreeInVertex q) :
    p.vertexSource = q.vertexSource := by
  unfold vertexSource vertexLines uniformLines attributeLines varyingLines assignmentLines
    offsetMatrix
  rw [h.uniforms, h.attributes, h.varyings, h.size, h.offset, h.textureBounds, h.rotatesWithView]

theorem AgreeInFragment.fragmentSource_eq (h : p.AgreeInFragment q) :
    p.fragmentSource = q.fragmentSource := by
  have hvaryings : p.varyingLines = q.varyingLines := by
    have hlines := congrArg (List.map fun signature : String × String =>
      "varying " ++ signature.1 ++ " " ++ signature.2 ++ ";") h.varyings
    rw [List.map_map, List.map_map] at hlines
    exact congrArg block hlines
  unfold fragmentSource fragmentLines uniformLines
  rw [h.uniforms, hvaryings, h.color, h.discard]

/-- The lines of the vertex shader, cut at the fixed lines behind each block. -/
theorem agreeInVertex_of_lines (hp : p.IsPlain) (hq : q.IsPlain)
    (h : p.vertexLines = q.vertexLines) : p.AgreeInVertex q := by
  -- No text of a slot is looked at here: blocks are cut off from the front, and
  -- each one ends at the first line that begins otherwise than its members.
  simp only [vertexLines, List.append_assoc, List.cons_append, List.nil_append, List.cons.injEq,
    true_and] at h
  obtain ⟨huniforms, h⟩ := append_cons_inj (notMem_uniformLines (by decide) (by decide))
    (notMem_uniformLines (by decide) (by decide)) h
  simp only [List.cons.injEq, true_and] at h
  obtain ⟨hattributes, h⟩ := append_cons_inj (notMem_attributeLines (by decide) (by decide))
    (notMem_attributeLines (by decide) (by decide)) h
  simp only [List.cons.injEq, true_and] at h
  obtain ⟨hvaryings, h⟩ := append_cons_inj (notMem_varyingLines (by decide) (by decide))
    (notMem_varyingLines (by decide) (by decide)) h
  -- What is left has one line per slot, and the last block up to fixed lines.
  simp only [List.cons.injEq, true_and, String.append_right_inj, String.append_left_inj,
    List.append_cancel_right_eq] at h
  obtain ⟨hmatrix, hsize, hoffset, hbounds, hassignments⟩ := h
  exact {
    uniforms := declarations_eq_of_block (by decide) huniforms
    «attributes» := declarations_eq_of_block (by decide) hattributes
    varyings := varyings_eq_of_lines (signatures_eq_of_lines hp hq hvaryings) hassignments
    size := hsize
    offset := hoffset
    textureBounds := hbounds
    rotatesWithView := rotatesWithView_eq_of_offsetMatrix hmatrix }

theorem agreeInFragment_of_lines (hp : p.IsPlain) (hq : q.IsPlain)
    (h : p.fragmentLines = q.fragmentLines) : p.AgreeInFragment q := by
  simp only [fragmentLines, List.append_assoc, List.cons_append, List.nil_append, List.cons.injEq,
    true_and] at h
  obtain ⟨huniforms, h⟩ := append_cons_inj (notMem_uniformLines (by decide) (by decide))
    (notMem_uniformLines (by decide) (by decide)) h
  simp only [List.cons.injEq, true_and] at h
  obtain ⟨hvaryings, h⟩ := append_cons_inj (notMem_varyingLines (by decide) (by decide))
    (notMem_varyingLines (by decide) (by decide)) h
  simp only [List.cons.injEq, and_true, String.append_right_inj, String.append_left_inj] at h
  obtain ⟨hdiscard, hcolor⟩ := h
  exact {
    uniforms := declarations_eq_of_block (by decide) huniforms
    varyings := signatures_eq_of_lines hp hq hvaryings
    color := hcolor
    discard := hdiscard }

/-- Plain programs have the same vertex source exactly if they agree in what it
    shows. -/
theorem vertexSource_eq_iff (hp : p.IsPlain) (hq : q.IsPlain) :
    p.vertexSource = q.vertexSource ↔ p.AgreeInVertex q := by
  refine ⟨?_, AgreeInVertex.vertexSource_eq⟩
  intro h
  have hlines : p.vertexLines = q.vertexLines :=
    intercalate_injective (by simp [vertexLines]) (by simp [vertexLines]) hp.unbroken.1
      hq.unbroken.1 h
  exact agreeInVertex_of_lines hp hq hlines

theorem fragmentSource_eq_iff (hp : p.IsPlain) (hq : q.IsPlain) :
    p.fragmentSource = q.fragmentSource ↔ p.AgreeInFragment q := by
  refine ⟨?_, AgreeInFragment.fragmentSource_eq⟩
  intro h
  have hlines : p.fragmentLines = q.fragmentLines :=
    intercalate_injective (by simp [fragmentLines]) (by simp [fragmentLines]) hp.unbroken.2
      hq.unbroken.2 h
  exact agreeInFragment_of_lines hp hq hlines

/-! ## What rendering keeps -/

/-- Programs that are made by plain changes are the same if their sources are.
    Parts that a shader does not show make no difference to its source, plain
    or not. -/
theorem sources_determine_program :
    (∀ changes changes' : List Change, (∀ change ∈ changes, change.IsPlain) →
      (∀ change ∈ changes', change.IsPlain) →
      (ofChanges changes).vertexSource = (ofChanges changes').vertexSource →
      (ofChanges changes).fragmentSource = (ofChanges changes').fragmentSource →
      ofChanges changes = ofChanges changes') ∧
    (∀ p q : Program, p.AgreeInFragment q → p.fragmentSource = q.fragmentSource) ∧
    ∀ p q : Program, p.AgreeInVertex q → p.vertexSource = q.vertexSource := by
  refine ⟨?_, fun _ _ => AgreeInFragment.fragmentSource_eq,
    fun _ _ => AgreeInVertex.vertexSource_eq⟩
  intro changes changes' h h' hvertex hfragment
  have hp := isPlain_ofChanges h
  have hq := isPlain_ofChanges h'
  exact eq_of_agree ((vertexSource_eq_iff hp hq).1 hvertex)
    ((fragmentSource_eq_iff hp hq).1 hfragment)

/-- A size that is set twice, and a varying declared in between. -/
def resized : List Change :=
  [.size "vec2(1.0)", .varying ⟨"v_ratio", "float", "a_ratio"⟩, .size "vec2(8.0)"]

/-- The same program, made by two changes. -/
def resizedOnce : List Change :=
  [.size "vec2(8.0)", .varying ⟨"v_ratio", "float", "a_ratio"⟩]

theorem sources_determine_program_resized :
    (∀ change ∈ resized, change.IsPlain) ∧ (∀ change ∈ resizedOnce, change.IsPlain) ∧
      (ofChanges resized).vertexSource = (ofChanges resizedOnce).vertexSource ∧
      (ofChanges resized).fragmentSource = (ofChanges resizedOnce).fragmentSource ∧
      ofChanges resized = ofChanges resizedOnce := by
  have hresized : ∀ change ∈ resized, change.IsPlain := by decide
  have honce : ∀ change ∈ resizedOnce, change.IsPlain := by decide
  have hvertex : (ofChanges resized).vertexSource = (ofChanges resizedOnce).vertexSource :=
    AgreeInVertex.vertexSource_eq ⟨rfl, rfl, rfl, rfl, rfl, rfl, rfl⟩
  have hfragment : (ofChanges resized).fragmentSource = (ofChanges resizedOnce).fragmentSource :=
    AgreeInFragment.fragmentSource_eq ⟨rfl, rfl, rfl, rfl⟩
  exact ⟨hresized, honce, hvertex, hfragment,
    sources_determine_program.1 resized resizedOnce hresized honce hvertex hfragment⟩

end Program

end SymbolStyle

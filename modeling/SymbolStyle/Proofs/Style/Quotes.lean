import SymbolStyle.Proofs.Style.Inputs
import SymbolStyle.Proofs.Style.Refusal

/-! # No texts in shaders

    The shading language has no texts, but an expression that is a text is code
    between double quotes. No such code reaches a shader: every text in the fields
    of a compiled style is the name of an input, or it stands where a color is
    wanted and is lowered to the vector that it writes.

    * `Program.UnquotedParts`: the parts of a program have no double quotes, and so
      its sources have none.
    * `Value.HoldsText`: a text stands in a value, in whatever depth.
      `Style.ConsumesTexts`: what becomes of the texts of an expression.
    * `compile_unquoted`: the sources of a compiled style have no double quotes
      unless a name has one, and its fields consume their texts.
-/

namespace SymbolStyle

open Value
open Glsl (Expr)

/-! ## Texts without double quotes -/

/-- No double quote stands in the text. -/
def Unquoted (text : String) : Prop := '"' ∉ text.toList

instance : DecidablePred Unquoted := fun text => inferInstanceAs (Decidable ('"' ∉ text.toList))

theorem unquoted_append_iff {front back : String} :
    Unquoted (front ++ back) ↔ Unquoted front ∧ Unquoted back := by
  simp [Unquoted, not_or]

theorem unquoted_intercalate {between : String} {parts : List String} (hbetween : Unquoted between)
    (hparts : ∀ part ∈ parts, Unquoted part) : Unquoted (between.intercalate parts) := by
  unfold Unquoted
  rw [String.toList_intercalate]
  intro hquote
  rcases mem_of_mem_intercalate hquote with hquote | ⟨text, htext, hquote⟩
  · exact hbetween hquote
  · obtain ⟨part, hpart, rfl⟩ := List.mem_map.1 htext
    exact hparts part hpart hquote

/-- A tree that shows no text has no double quotes in its code but those of its
    stem and of the names that it reads. -/
theorem Glsl.Expr.ReadsOnly.unquoted {property : Reading → Prop} {e : Expr} {stem : String}
    (h : e.ReadsOnly property) (hstem : Unquoted stem)
    (hnames : ∀ reading, property reading → Unquoted reading.name) : Unquoted (e.text stem) := by
  unfold Unquoted
  rw [Expr.text, String.toList_ofList]
  intro hquote
  have hchars : ∀ c ∈ e.render stem, c ≠ '"' := by
    refine h.forall_mem_render ?_ ?_ ?_
    · rintro c hc rfl
      exact absurd hc (by decide)
    · rintro c hc rfl
      exact hstem hc
    · rintro reading hreading c hc rfl
      exact hnames reading hreading hc
  exact hchars _ hquote rfl

/-! ## Sources without double quotes -/

namespace Program

/-- No part of the program has a double quote. -/
structure UnquotedParts (p : Program) : Prop where
  uniforms : ∀ declaration ∈ p.uniforms, Unquoted declaration
  «attributes» : ∀ declaration ∈ p.attributes, Unquoted declaration
  varyings : ∀ v ∈ p.varyings, Unquoted v.type ∧ Unquoted v.name ∧ Unquoted v.expression
  size : Unquoted p.size
  offset : Unquoted p.offset
  color : Unquoted p.color
  textureBounds : Unquoted p.textureBounds
  discard : Unquoted p.discard

/-- An empty block is an empty line. -/
theorem unquoted_block {α : Type} {xs : List α} {line : α → String}
    (h : ∀ x ∈ xs, Unquoted (line x)) : ∀ text ∈ block (xs.map line), Unquoted text := by
  unfold block
  split
  · simpa using (by decide : Unquoted "")
  · exact List.forall_mem_map.2 h

variable {p : Program}

namespace UnquotedParts

theorem uniformLines (h : p.UnquotedParts) : ∀ line ∈ p.uniformLines, Unquoted line := by
  apply unquoted_block
  intro declaration hmem
  simp only [unquoted_append_iff]
  exact ⟨⟨by decide, h.uniforms declaration hmem⟩, by decide⟩

theorem attributeLines (h : p.UnquotedParts) : ∀ line ∈ p.attributeLines, Unquoted line := by
  apply unquoted_block
  intro declaration hmem
  simp only [unquoted_append_iff]
  exact ⟨⟨by decide, h.attributes declaration hmem⟩, by decide⟩

theorem varyingLines (h : p.UnquotedParts) : ∀ line ∈ p.varyingLines, Unquoted line := by
  apply unquoted_block
  intro v hmem
  obtain ⟨htype, hname, -⟩ := h.varyings v hmem
  simp only [unquoted_append_iff]
  exact ⟨⟨⟨⟨by decide, htype⟩, by decide⟩, hname⟩, by decide⟩

theorem assignmentLines (h : p.UnquotedParts) : ∀ line ∈ p.assignmentLines, Unquoted line := by
  apply unquoted_block
  intro v hmem
  obtain ⟨-, hname, hexpression⟩ := h.varyings v hmem
  simp only [unquoted_append_iff]
  exact ⟨⟨⟨⟨by decide, hname⟩, by decide⟩, hexpression⟩, by decide⟩

theorem vertexSource (h : p.UnquotedParts) : Unquoted p.vertexSource := by
  have huniforms := h.uniformLines
  have hattributes := h.attributeLines
  have hvaryings := h.varyingLines
  have hassignments := h.assignmentLines
  have hsize := h.size
  have hoffset := h.offset
  have hbounds := h.textureBounds
  have hmatrix : Unquoted p.offsetMatrix := by
    unfold offsetMatrix
    split <;> decide
  apply unquoted_intercalate (by decide)
  unfold vertexLines
  simp only [List.forall_mem_append, List.forall_mem_cons, List.not_mem_nil, false_implies,
    implies_true, and_true, unquoted_append_iff, hsize, hoffset, hbounds, hmatrix]
  -- What remains are the fixed lines and the blocks.
  repeat' apply And.intro
  all_goals first
    | decide +kernel
    | assumption

theorem fragmentSource (h : p.UnquotedParts) : Unquoted p.fragmentSource := by
  have huniforms := h.uniformLines
  have hvaryings := h.varyingLines
  have hcolor := h.color
  have hdiscard := h.discard
  apply unquoted_intercalate (by decide)
  unfold fragmentLines
  simp only [List.forall_mem_append, List.forall_mem_cons, List.not_mem_nil, false_implies,
    implies_true, and_true, unquoted_append_iff, hcolor, hdiscard]
  repeat' apply And.intro
  all_goals first
    | decide +kernel
    | assumption

end UnquotedParts

end Program

/-! ## Slots without double quotes -/

theorem unquoted_mask {size : String} (symbol : Symbol) (h : Unquoted size) :
    Unquoted (symbol.mask size) := by
  cases symbol with
  | square =>
    rw [Symbol.mask_eq_one (.inl rfl)]
    decide
  | image =>
    rw [Symbol.mask_eq_one (.inr rfl)]
    decide
  | circle =>
    unfold Symbol.mask
    simp only [unquoted_append_iff, h, and_true]
    decide +kernel
  | triangle =>
    unfold Symbol.mask
    simp only [unquoted_append_iff, h, and_true]
    decide +kernel

theorem unquoted_colorSlot {trees : Trees} {symbol : Symbol} {textured : Bool}
    (hcolor : Unquoted (trees.color.text Style.varyingStem))
    (hopacity : Unquoted (trees.opacity.text Style.varyingStem))
    (hwidth : Unquoted (trees.size.1.text Style.varyingStem)) :
    Unquoted (Style.colorSlot trees symbol textured) := by
  have htexel : Unquoted
      (if textured then " * texture2D(" ++ Style.textureName ++ ", v_texCoord)" else "") := by
    cases textured <;> decide +kernel
  simp only [Style.colorSlot, unquoted_append_iff, hcolor, hopacity, unquoted_mask symbol hwidth,
    htexel, and_true]
  decide +kernel

namespace Compilation

variable {style : Value} {compiled : CompiledStyle} (c : Compilation style compiled)
  (hnames : ∀ reading, Style.ReadsInput style reading → Unquoted reading.name)

include c hnames

/-- The code of an expression in either shader. -/
theorem unquoted_text {slot : Slot} {v : Value} {tree : Expr} {stem : String}
    (h : Style.Fits slot v tree) (hv : v ∈ Style.allExpressions c.fields)
    (hstem : Unquoted stem) : Unquoted (tree.text stem) := by
  apply h.readsOnly.unquoted hstem
  intro reading hreading
  exact hnames reading (c.readsInput_iff.2 ⟨v, hv, hreading⟩)

theorem unquoted_uniforms : ∀ declaration ∈ compiled.program.uniforms, Unquoted declaration := by
  rw [c.program_eq]
  show ∀ declaration ∈ (Style.variablesOf (Style.allExpressions c.fields)).map _ ++ _, _
  rw [List.forall_mem_append, List.forall_mem_map]
  constructor
  · intro name hname
    simp only [unquoted_append_iff]
    exact ⟨by decide, hnames _ (c.mem_variablesOf_iff.1 hname)⟩
  · cases c.texture.isSome <;> decide

theorem unquoted_attributes :
    ∀ declaration ∈ compiled.program.attributes, Unquoted declaration := by
  rw [c.program_eq]
  show ∀ declaration ∈ (Style.allAttributes c.fields).map _, _
  rw [List.forall_mem_map]
  intro name hname
  simp only [unquoted_append_iff]
  exact ⟨by decide, hnames _ (c.mem_allAttributes_iff.1 hname)⟩

theorem unquoted_varyings : ∀ v ∈ compiled.program.varyings,
    Unquoted v.type ∧ Unquoted v.name ∧ Unquoted v.expression := by
  rw [c.varyings_eq, List.forall_mem_map]
  intro name hname
  have hplain : Unquoted name :=
    hnames _ (c.readsInput_of_fragmentReads (c.mem_fragmentAttributes_iff.1 hname))
  simp only [unquoted_append_iff]
  exact ⟨by decide, ⟨by decide, hplain⟩, by decide, hplain⟩

theorem unquotedParts : compiled.program.UnquotedParts := by
  have hplaced := c.placed
  have hvertex : ∀ {slot : Slot} {v : Value} {tree : Expr}, Style.Fits slot v tree →
      v ∈ Style.allExpressions c.fields → Unquoted (tree.text Style.attributeStem) :=
    fun hfits hv => c.unquoted_text hnames hfits hv (by decide)
  have hfragment : ∀ {slot : Slot} {v : Value} {tree : Expr}, Style.Fits slot v tree →
      v ∈ Style.allExpressions c.fields → Unquoted (tree.text Style.varyingStem) :=
    fun hfits hv => c.unquoted_text hnames hfits hv (by decide)
  have hpair : ∀ {x y : String}, Unquoted x → Unquoted y →
      Unquoted ("vec2(" ++ x ++ ", " ++ y ++ ")") := by
    intro x y hx hy
    simp only [unquoted_append_iff, hx, hy, and_true]
    decide
  refine ⟨c.unquoted_uniforms hnames, c.unquoted_attributes hnames, c.unquoted_varyings hnames,
    ?_, ?_, ?_, ?_, ?_⟩
  · rw [c.program_eq]
    exact hpair (hvertex hplaced.width (by simp [Style.allExpressions]))
      (hvertex hplaced.height (by simp [Style.allExpressions, Style.vertexExpressions]))
  · rw [c.program_eq]
    exact hpair (hvertex hplaced.x (by simp [Style.allExpressions, Style.vertexExpressions]))
      (hvertex hplaced.y (by simp [Style.allExpressions, Style.vertexExpressions]))
  · rw [c.program_eq]
    exact unquoted_colorSlot (hfragment hplaced.color (by simp [Style.allExpressions]))
      (hfragment hplaced.opacity (by simp [Style.allExpressions]))
      (hfragment hplaced.width (by simp [Style.allExpressions]))
  · have hcodes : ∀ part ∈ [c.trees.textureCoord.1, c.trees.textureCoord.2.1,
        c.trees.textureCoord.2.2.1, c.trees.textureCoord.2.2.2].map (·.text Style.attributeStem),
        Unquoted part := by
      simp only [List.map_cons, List.map_nil, List.forall_mem_cons, List.not_mem_nil, false_implies,
        implies_true, and_true]
      refine ⟨hvertex hplaced.left ?_, hvertex hplaced.bottom ?_, hvertex hplaced.right ?_,
        hvertex hplaced.top ?_⟩
      all_goals simp [Style.allExpressions, Style.vertexExpressions]
    have hlist := unquoted_intercalate (by decide : Unquoted ", ") hcodes
    rw [c.program_eq]
    show Unquoted ("vec4(" ++ _ ++ ")")
    simp only [unquoted_append_iff]
    exact ⟨⟨by decide, hlist⟩, by decide⟩
  · rw [c.program_eq, Style.programOf_discard]
    have hrel := hplaced.filter
    have hmem : ∀ v ∈ c.fields.filter, v ∈ Style.allExpressions c.fields := by
      intro v hv
      simp [Style.allExpressions, Option.mem_toList.2 hv]
    generalize c.fields.filter = filter at hrel hmem
    generalize c.trees.filter = tree at hrel
    cases hrel with
    | none => exact (by decide : Unquoted "false")
    | some hfits =>
      have hcode := hfragment hfits (hmem _ rfl)
      simp only [Option.elim_some, unquoted_append_iff]
      exact ⟨hcode, by decide⟩

end Compilation

/-! ## Texts in expressions -/

namespace Value

/-- The text stands somewhere in the value, other than as the tag of an
    application. -/
inductive HoldsText (text : String) : Value → Prop where
  | here : HoldsText text (.string text)
  | operand {form : SequenceForm} {tag : String} {operands : List Value} {operand : Value}
      (hmem : operand ∈ operands) (h : HoldsText text operand) :
      HoldsText text (.sequence form (.string tag :: operands))
  | item {form : SequenceForm} {items : List Value} {item : Value}
      (hhead : ∀ tag operands, items ≠ .string tag :: operands) (hmem : item ∈ items)
      (h : HoldsText text item) : HoldsText text (.sequence form items)

/-- Where a color is wanted, the text is lowered to the vector of one, and it
    reads nothing. -/
def BecomesVector (text : String) : Prop :=
  ∃ r g b a, ∀ names,
    (Value.string text).lower (some .color) names = .ok (Glsl.colorConstant r g b a, names)

variable {text : String} {v : Value} {k : Kind}

/-- A text is a number nowhere, and a color only if it writes one. -/
theorem becomesVector_of_accepts (htyped : WellTyped (.string text) k)
    (haccepts : Kind.color.accepts k) : BecomesVector text := by
  obtain ⟨tree, hlowers⟩ := htyped.exists_lowers (not_isMisplacedText_of_accepts htyped haccepts)
  cases hlowers with
  | number hv hl => simp [isNumber] at hv
  | text hk hw => simp at hw
  | colorText hw hreads hcolor =>
    exact ⟨_, _, _, _, (Lowers.colorText hw hreads hcolor).lower_eq⟩

/-- A text that stands in an expression is the whole of it or an operand in it. -/
theorem HoldsText.isOperand (h : HoldsText text v) (hv : WellTyped v k) :
    v = .string text ∨ ∃ expected, IsOperand (.string text) expected v := by
  induction h generalizing k with
  | here => exact .inl rfl
  | @operand form tag operands operand hmem h ih =>
    obtain ⟨op, hop⟩ := Option.ne_none_iff_exists'.1 hv.ofTag?_ne_none
    obtain rfl := Operator.tag_of_ofTag? hop
    obtain ⟨actual, htyped⟩ := hv.exists_kind_of_mem hmem
    rcases ih htyped with rfl | ⟨expected, hinner⟩
    · obtain ⟨-, hoperands⟩ := WellTyped.application_iff.1 hv
      obtain ⟨i, hi, hget⟩ := List.getElem_of_mem hmem
      have hi' : i < op.signature.length := hoperands.length_eq ▸ hi
      refine .inr ⟨op.signature[i], .direct ?_⟩
      rw [← hget, ← List.getElem_zip (h := by simp [hi, hi'])]
      exact List.getElem_mem _
    · exact .inr ⟨expected, .nested hmem hinner⟩
  | item hhead hmem h ih =>
    -- The items of a color are numbers.
    obtain ⟨-, -, hfinite⟩ := (WellTyped.sequence_iff_of_head hhead).1 hv
    have hnumber := hfinite _ hmem
    cases h <;> simp at hnumber

/-- A text that is an operand is the name of an input, or it stands where a color
    is wanted and becomes a vector. -/
theorem IsOperand.consumed {expected : Kind} (h : IsOperand (.string text) expected v)
    (hv : WellTyped v k) :
    (expected = .string ∧ (Reads v (.attribute text) ∨ Reads v (.variable text))) ∨
      (expected = .color ∧ BecomesVector text) := by
  induction h generalizing k with
  | @direct form op operands hplace =>
    obtain ⟨actual, htyped, haccepts⟩ := (IsOperand.direct hplace).exists_kind hv
    cases expected with
    | unknown => simp [Kind.accepts] at haccepts
    | number =>
      obtain rfl := Kind.number_accepts_iff.1 haccepts
      simpa using htyped.kind_of_text
    | color => exact .inr ⟨rfl, becomesVector_of_accepts htyped haccepts⟩
    | colorOrString =>
      have hmem := (List.of_mem_zip hplace).1
      cases op <;> simp [Operator.signature] at hmem
    | string =>
      have hmem := (List.of_mem_zip hplace).1
      have hsignature : op.signature = [.string] := by
        cases op <;> simp [Operator.signature] at hmem ⊢
      obtain ⟨name, rfl⟩ :=
        exists_text_of_signature hsignature (WellTyped.application_iff.1 hv).2
      obtain rfl : text = name := by simpa [hsignature] using hplace
      refine .inl ⟨rfl, ?_⟩
      cases op with
      | get => exact .inl .get
      | var => exact .inr .var
      | _ => simp [Operator.signature] at hsignature
  | nested hmem h ih =>
    obtain ⟨actual, htyped⟩ := hv.exists_kind_of_mem hmem
    rcases ih htyped with ⟨hstring, hreads | hreads⟩ | hcolor
    · exact .inl ⟨hstring, .inl (.item (by simp [hmem]) hreads)⟩
    · exact .inl ⟨hstring, .inr (.item (by simp [hmem]) hreads)⟩
    · exact .inr hcolor

end Value

namespace Style

/-- What becomes of an expression in its place, and of the texts in it. Its tree
    shows no text. An operand that is a text is the name of an input that is read,
    or a color; so is the whole expression a color if it is a text. -/
structure ConsumesTexts (slot : Slot) (v : Value) : Prop where
  lowered : ∃ tree, Fits slot v tree ∧ tree.ReadsOnly (Reads v)
  held : ∀ text, v.HoldsText text →
    v = .string text ∨ ∃ expected, IsOperand (.string text) expected v
  whole : ∀ text, v = .string text → slot.field = .color ∧ BecomesVector text
  operand : ∀ text expected, IsOperand (.string text) expected v →
    (expected = .string ∧ (Reads v (.attribute text) ∨ Reads v (.variable text))) ∨
      (expected = .color ∧ BecomesVector text)

theorem Acceptable.consumesTexts {slot : Slot} {v : Value} (h : Acceptable slot v) :
    ConsumesTexts slot v := by
  have htyped := v.validate_eq_ok_iff.1 h.1
  obtain ⟨tree, hlowers⟩ := htyped.exists_lowers (not_isMisplacedText_wantedIn htyped h.2)
  have hfits : Fits slot v tree := ⟨h.2, htyped, hlowers⟩
  refine ⟨⟨tree, hfits, hfits.readsOnly⟩, fun text htext => htext.isOperand htyped, ?_,
    fun text expected hoperand => hoperand.consumed htyped⟩
  rintro text rfl
  have haccepts := h.2
  by_cases hcolor : slot.field = .color
  · rw [Slot.expected, if_pos hcolor] at haccepts
    exact ⟨hcolor, becomesVector_of_accepts htyped haccepts⟩
  · rw [Slot.expected, if_neg hcolor] at haccepts
    have hnumber := Kind.number_accepts_iff.1 haccepts
    simpa [hnumber] using htyped.kind_of_text

/-- No text reaches a shader. The sources of a compiled style have no double
    quotes if the names that it reads have none, and every text in its fields is
    the name of an input or is lowered to the vector of a color. -/
theorem compile_unquoted {style : Value} {compiled : CompiledStyle}
    (h : (compile style).result = .ok compiled) :
    ((∀ reading, ReadsInput style reading → Unquoted reading.name) →
      Unquoted compiled.program.vertexSource ∧ Unquoted compiled.program.fragmentSource) ∧
    ∃ fields, fields? style = some fields ∧
      ∀ place ∈ slots fields, ConsumesTexts place.1 place.2 := by
  obtain ⟨c⟩ := exists_compilation h
  constructor
  · intro hnames
    have hparts := c.unquotedParts hnames
    exact ⟨hparts.vertexSource, hparts.fragmentSource⟩
  · obtain ⟨fields, hfields, hall, -⟩ := Passes.of_compilation c
    exact ⟨fields, hfields, fun place hplace => (hall place hplace).consumesTexts⟩

/-- A square in a mix of two colors, one of them mixed itself, and as large as a
    property says whose name is that of a color. -/
def tintedSquare : Value :=
  .object [("symbol", .object [("symbolType", .string "square"),
    ("size", .sequence .list [.string "get", .string "tan"]),
    ("color", .sequence .list [.string "interpolate",
      .sequence .list [.string "var", .string "warmth"],
      .sequence .list [.string "interpolate", .int 1, .string "red", .string "tan"],
      .string "#00f"])])]

theorem tintedSquare_unquoted :
    ∃ compiled, (compile tintedSquare).result = .ok compiled ∧
      Unquoted compiled.program.vertexSource ∧ Unquoted compiled.program.fragmentSource ∧
      ∃ fields, fields? tintedSquare = some fields ∧
        ∀ place ∈ slots fields, ConsumesTexts place.1 place.2 := by
  obtain ⟨compiled, hcompile⟩ : ∃ compiled, (compile tintedSquare).result = .ok compiled :=
    exists_ok_of_isOk (by decide +kernel)
  obtain ⟨c⟩ := exists_compilation hcompile
  have hreadings : (fields? tintedSquare).map (fun fields =>
      (allExpressions fields).flatMap Value.readings)
        = some [.attribute "tan", .variable "warmth", .attribute "tan", .attribute "tan"] := by
    decide +kernel
  have hnames : ∀ reading, ReadsInput tintedSquare reading → Unquoted reading.name := by
    intro reading hreading
    rw [c.readsInput_iff_mem hreadings] at hreading
    simp only [List.mem_cons, List.not_mem_nil, or_false] at hreading
    rcases hreading with rfl | rfl | rfl | rfl <;> decide
  obtain ⟨hsources, hfields⟩ := compile_unquoted hcompile
  obtain ⟨hvertex, hfragment⟩ := hsources hnames
  exact ⟨compiled, hcompile, hvertex, hfragment, hfields⟩

end Style

end SymbolStyle

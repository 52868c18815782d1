import SymbolStyle.Proofs.Style.Assembly

/-! # Slots of a program

    What the slots of a compiled style are made from.

    Each slot is a fixed template that is filled with the codes of its own
    fields. All slots are compiled over the same lists of names, and the color
    is put together in two steps, but the code of an expression is the one that
    it has alone. So a slot is the same in any two styles that agree on the
    fields from which it is made.

    * `Style.HasFields`: which entry of a style each field is taken from.
    * `Style.FillsSlots`: the templates and what they are filled with.
    * `compile_slots`: the slots of a compiled style, and when two styles have a
      slot in common.
-/

namespace SymbolStyle

open Value

/-! ## Entries and fields -/

namespace Style

/-- The entry of a name in the symbol of a style. -/
def inSymbol? (style : Value) (name : String) : Option Value :=
  (Fields.symbol? style).bind (·.get? name)

/-- The entry of a name in the symbol of a style, unless it is vacant. -/
def givenInSymbol? (style : Value) (name : String) : Option Value :=
  (inSymbol? style name).bind Value.given?

/-- What a style gives as its size. -/
def sizeIn (style : Value) : Value := (inSymbol? style "size").getD .null

/-- What a style gives as the bounds of its texture. -/
def textureCoordIn (style : Value) : Value :=
  (givenInSymbol? style "textureCoord").getD (Fields.wholeTuple [0, 0, 1, 1])

/-- What a style gives as its offset. -/
def offsetIn (style : Value) : Value :=
  (givenInSymbol? style "offset").getD (Fields.wholeTuple [0, 0])

/-- Each field is taken from its own entry. -/
structure HasFields (style : Value) (fields : Fields) : Prop where
  size : Fields.sizeOf (sizeIn style) = .ok fields.size
  textureCoord : Fields.fourOf .textureCoord (textureCoordIn style) = .ok fields.textureCoord
  offset : Fields.pairOf .offset (offsetIn style) = .ok fields.offset
  opacity : fields.opacity = (inSymbol? style "opacity").getD (.int 1)
  color : fields.color = (givenInSymbol? style "color").getD (.string "white")
  filter : fields.filter = (style.get? "filter").bind Value.given?
  symbolType : fields.symbolType = (inSymbol? style "symbolType").getD .null
  source : fields.source = givenInSymbol? style "src"

section Entries

variable {style symbol : Value} (h : Fields.symbol? style = some symbol)

include h

theorem inSymbol?_eq (name : String) : inSymbol? style name = symbol.get? name := by
  rw [inSymbol?, h, Option.bind_some]

theorem givenInSymbol?_eq (name : String) :
    givenInSymbol? style name = Fields.given? symbol name := by
  rw [givenInSymbol?, inSymbol?_eq h]
  rfl

theorem sizeIn_eq : sizeIn style = (symbol.get? "size").getD .null := by
  rw [sizeIn, inSymbol?_eq h]

theorem textureCoordIn_eq : textureCoordIn style
    = (Fields.given? symbol "textureCoord").getD (Fields.wholeTuple [0, 0, 1, 1]) := by
  rw [textureCoordIn, givenInSymbol?_eq h]

theorem offsetIn_eq : offsetIn style
    = (Fields.given? symbol "offset").getD (Fields.wholeTuple [0, 0]) := by
  rw [offsetIn, givenInSymbol?_eq h]

end Entries

theorem hasFields_of_fields? {style : Value} {fields : Fields}
    (h : fields? style = some fields) : HasFields style fields := by
  obtain ⟨symbol, hsymbol, hfields⟩ := fields?_eq_some_iff.1 h
  -- The three fields whose shape can be wrong come first.
  unfold Fields.ofSymbol at hfields
  obtain ⟨size, hsize, hfields⟩ := exists_of_bind_eq_ok hfields
  obtain ⟨bounds, hbounds, hfields⟩ := exists_of_bind_eq_ok hfields
  obtain ⟨offset, hoffset, hfields⟩ := exists_of_bind_eq_ok hfields
  obtain rfl := Except.ok.inj hfields
  constructor
  · rw [sizeIn_eq hsymbol]
    exact hsize
  · rw [textureCoordIn_eq hsymbol]
    exact hbounds
  · rw [offsetIn_eq hsymbol]
    exact hoffset
  · rw [inSymbol?_eq hsymbol]
  · rw [givenInSymbol?_eq hsymbol]
  · rfl
  · rw [inSymbol?_eq hsymbol]
  · rw [givenInSymbol?_eq hsymbol]

/-! ## Templates -/

/-- The slot is a vector of the codes that the components have in the vertex
    shader. -/
def FillsVector (opening : String) (components : List Value) (slot : String) : Prop :=
  ∃ codes, List.Forall₂ (fun v code => v.HasCode "a_" none code) components codes ∧
    slot = opening ++ ", ".intercalate codes ++ ")"

/-- The slot says when a fragment is not drawn: where the filter is not positive,
    or nowhere without a filter. -/
def FillsDiscard (filter : Option Value) (slot : String) : Prop :=
  match filter with
  | none => slot = "false"
  | some v => ∃ code, v.HasCode "v_" none code ∧ slot = code ++ " <= 0.0"

/-- The slot is the color of a fragment, made from the codes that the color, the
    opacity and the width have in the fragment shader. -/
def FillsColor (color opacity width : Value) (shape : Symbol) (textured : Bool)
    (slot : String) : Prop :=
  ∃ c o visible, color.HasCode "v_" (some .color) c ∧ opacity.HasCode "v_" none o ∧
    width.HasCode "v_" none visible ∧
    slot = "vec4(" ++ c ++ ".rgb, " ++ c ++ ".a * " ++ o ++ " * " ++ shape.mask visible ++ ")"
      ++ (if textured then " * texture2D(u_texture, v_texCoord)" else "")

/-- The slots of the program are filled from their own fields. -/
structure FillsSlots (fields : Fields) (shape : Symbol) (p : Program) : Prop where
  size : FillsVector "vec2(" [fields.size.1, fields.size.2] p.size
  offset : FillsVector "vec2(" [fields.offset.1, fields.offset.2] p.offset
  textureBounds : FillsVector "vec4(" [fields.textureCoord.1, fields.textureCoord.2.1,
    fields.textureCoord.2.2.1, fields.textureCoord.2.2.2] p.textureBounds
  discard : FillsDiscard fields.filter p.discard
  color : FillsColor fields.color fields.opacity fields.size.1 shape
    (shape = .image && fields.source.isSome) p.color

/-! A template that is filled with the same codes gives the same slot. -/

theorem FillsVector.unique {opening slot slot' : String} {components : List Value}
    (h : FillsVector opening components slot) (h' : FillsVector opening components slot') :
    slot = slot' := by
  obtain ⟨codes, hcodes, rfl⟩ := h
  obtain ⟨codes', hcodes', rfl⟩ := h'
  have hunique : Relator.RightUnique fun (v : Value) code => v.HasCode "a_" none code :=
    fun _ _ _ hcode hcode' => hcode.unique hcode'
  rw [hunique.forall₂ hcodes hcodes']

theorem FillsDiscard.unique {filter : Option Value} {slot slot' : String}
    (h : FillsDiscard filter slot) (h' : FillsDiscard filter slot') : slot = slot' := by
  cases filter with
  | none => exact Eq.trans h (Eq.symm h')
  | some v =>
    obtain ⟨code, hcode, rfl⟩ := h
    obtain ⟨code', hcode', rfl⟩ := h'
    rw [hcode.unique hcode']

theorem FillsColor.unique {color opacity width : Value} {shape : Symbol} {textured : Bool}
    {slot slot' : String} (h : FillsColor color opacity width shape textured slot)
    (h' : FillsColor color opacity width shape textured slot') : slot = slot' := by
  obtain ⟨c, o, visible, hc, ho, hvisible, rfl⟩ := h
  obtain ⟨c', o', visible', hc', ho', hvisible', rfl⟩ := h'
  rw [hc.unique hc', ho.unique ho', hvisible.unique hvisible']

/-! What a template is filled with stands in the slot. -/

theorem toList_infix_append (before text after : String) :
    text.toList <:+: (before ++ text ++ after).toList := by
  rw [String.toList_append, String.toList_append]
  exact ⟨_, _, rfl⟩

theorem FillsVector.exists_first {opening slot : String} {v : Value} {rest : List Value}
    (h : FillsVector opening (v :: rest) slot) :
    ∃ code, v.HasCode "a_" none code ∧ code.toList <:+: slot.toList := by
  obtain ⟨codes, hcodes, rfl⟩ := h
  obtain ⟨code, others, hcode, -, rfl⟩ := List.forall₂_cons_left_iff.1 hcodes
  refine ⟨code, hcode, ?_⟩
  cases others with
  | nil => simp
  | cons other others => simp

theorem FillsColor.exists_mask {color opacity width : Value} {shape : Symbol} {textured : Bool}
    {slot : String} (h : FillsColor color opacity width shape textured slot) :
    ∃ visible, width.HasCode "v_" none visible ∧
      (shape.mask visible).toList <:+: slot.toList := by
  obtain ⟨c, o, visible, -, -, hvisible, rfl⟩ := h
  refine ⟨visible, hvisible, ?_⟩
  rw [String.append_assoc]
  exact toList_infix_append _ _ _

end Style

/-! ## Masks -/

namespace Symbol

/-- The mask of a round or triangular symbol depends on the code of the size in
    one place. -/
theorem exists_mask_eq {symbol : Symbol} (h : symbol = .circle ∨ symbol = .triangle) :
    ∃ before after, ∀ size, symbol.mask size = before ++ size ++ after := by
  rcases h with rfl | rfl
  · exact ⟨_, _, fun size => rfl⟩
  · refine ⟨"(1.0-smoothstep(.5-3./", ?_, fun size => ?_⟩
    rotate_left
    -- All that comes after the size is taken together.
    · unfold mask
      repeat rw [String.append_assoc]

/-- A shape is named by one value. -/
theorem ofValue?_eq_some_iff {v : Value} {symbol : Symbol} :
    ofValue? v = some symbol ↔ v = .string symbol.name := by
  constructor
  · intro h
    cases v with
    | string text =>
      have hname : symbol.name = text := by simpa using List.find?_some h
      rw [hname]
    | _ => simp [ofValue?] at h
  · rintro rfl
    exact ofValue?_name symbol

/-- A symbol that fills its quad has no mask. -/
theorem mask_eq_one {symbol : Symbol} (h : symbol = .square ∨ symbol = .image) (size : String) :
    symbol.mask size = "1.0" := by
  rcases h with rfl | rfl <;> rfl

end Symbol

/-! ## Slots of a compiled style -/

namespace Style

theorem programOf_discard (fields : Fields) (trees : Trees) (symbol : Symbol) (textured : Bool) :
    (programOf fields trees symbol textured).discard
      = trees.filter.elim "false" fun e => e.text "v_" ++ " <= 0.0" := by
  obtain ⟨size, offset, bounds, opacity, color, filter⟩ := trees
  cases filter with
  | none => rfl
  | some e => rfl

/-- A symbol is textured exactly if it is an image with a source. -/
theorem isSome_of_textureOf {fields : Fields} {shape : Symbol} {texture : Option String}
    (h : textureOf fields shape = .ok texture) :
    texture.isSome = (shape = .image && fields.source.isSome) := by
  rcases textureOf_cases fields shape with ⟨hnone, heq⟩ | ⟨source, rfl, hsource, htext⟩
  · obtain rfl := Except.ok.inj (heq.symm.trans h)
    by_cases himage : shape = .image
    · have hsource : ¬ fields.source.isSome := fun hsource => hnone ⟨himage, hsource⟩
      simp [himage, hsource]
    · simp [himage]
  · rcases htext with ⟨text, -, heq⟩ | ⟨-, heq⟩
    · obtain rfl := Except.ok.inj (heq.symm.trans h)
      simp [hsource]
    · rw [heq] at h
      cases h

end Style

namespace Compilation

variable {style : Value} {compiled : CompiledStyle} (c : Compilation style compiled)

include c

theorem hasFields : Style.HasFields style c.fields := Style.hasFields_of_fields? c.fields?_eq

/-- The slots of a compiled style are filled from its fields. -/
theorem fillsSlots : Style.FillsSlots c.fields c.shape compiled.program := by
  have hplaced := c.placed
  rw [c.program_eq]
  constructor
  · refine ⟨_, .cons (hplaced.width.hasCode "a_") (.cons (hplaced.height.hasCode "a_") .nil), ?_⟩
    simp [Style.programOf, Style.attributeStem, ← String.append_assoc]
  · refine ⟨_, .cons (hplaced.x.hasCode "a_") (.cons (hplaced.y.hasCode "a_") .nil), ?_⟩
    simp [Style.programOf, Style.attributeStem, ← String.append_assoc]
  · exact ⟨_, .cons (hplaced.left.hasCode "a_") (.cons (hplaced.bottom.hasCode "a_")
      (.cons (hplaced.right.hasCode "a_") (.cons (hplaced.top.hasCode "a_") .nil))), rfl⟩
  · have hfilter := hplaced.filter
    rw [Style.programOf_discard]
    generalize c.fields.filter = filter at hfilter ⊢
    generalize c.trees.filter = tree at hfilter ⊢
    cases hfilter with
    | none => rfl
    | some hfits => exact ⟨_, hfits.hasCode "v_", rfl⟩
  · rw [← Style.isSome_of_textureOf c.texture_eq]
    exact ⟨_, _, _, hplaced.color.hasCode "v_", hplaced.opacity.hasCode "v_",
      hplaced.width.hasCode "v_", rfl⟩

end Compilation

/-! ## Slots of two styles -/

namespace Style

/-- Two styles give the same to what the color of fragments is made from. Of the
    size only the width matters, and the source only of an image. -/
structure AgreeOnColor (style other : Value) : Prop where
  color : inSymbol? other "color" = inSymbol? style "color"
  opacity : inSymbol? other "opacity" = inSymbol? style "opacity"
  symbolType : inSymbol? other "symbolType" = inSymbol? style "symbolType"
  width : (fields? other).map (·.size.1) = (fields? style).map (·.size.1)
  source : inSymbol? style "symbolType" = some (.string "image") →
    (givenInSymbol? other "src").isSome = (givenInSymbol? style "src").isSome

section TwoStyles

variable {style other : Value} {compiled recompiled : CompiledStyle}
  (c : Compilation style compiled) (c' : Compilation other recompiled)

include c c'

theorem size_congr (h : inSymbol? other "size" = inSymbol? style "size") :
    recompiled.program.size = compiled.program.size := by
  have hsize := c'.hasFields.size
  rw [sizeIn, h, ← sizeIn, c.hasFields.size] at hsize
  have hslot := c'.fillsSlots.size
  rw [← Except.ok.inj hsize] at hslot
  exact hslot.unique c.fillsSlots.size

theorem offset_congr (h : inSymbol? other "offset" = inSymbol? style "offset") :
    recompiled.program.offset = compiled.program.offset := by
  have hoffset := c'.hasFields.offset
  rw [offsetIn, givenInSymbol?, h, ← givenInSymbol?, ← offsetIn, c.hasFields.offset] at hoffset
  have hslot := c'.fillsSlots.offset
  rw [← Except.ok.inj hoffset] at hslot
  exact hslot.unique c.fillsSlots.offset

theorem textureBounds_congr
    (h : inSymbol? other "textureCoord" = inSymbol? style "textureCoord") :
    recompiled.program.textureBounds = compiled.program.textureBounds := by
  have hbounds := c'.hasFields.textureCoord
  rw [textureCoordIn, givenInSymbol?, h, ← givenInSymbol?, ← textureCoordIn,
    c.hasFields.textureCoord] at hbounds
  have hslot := c'.fillsSlots.textureBounds
  rw [← Except.ok.inj hbounds] at hslot
  exact hslot.unique c.fillsSlots.textureBounds

theorem discard_congr (h : other.get? "filter" = style.get? "filter") :
    recompiled.program.discard = compiled.program.discard := by
  have hslot := c'.fillsSlots.discard
  rw [c'.hasFields.filter, h, ← c.hasFields.filter] at hslot
  exact hslot.unique c.fillsSlots.discard

theorem color_congr (h : AgreeOnColor style other) :
    recompiled.program.color = compiled.program.color := by
  have hslot := c'.fillsSlots.color
  have hcolor : c'.fields.color = c.fields.color := by
    rw [c'.hasFields.color, c.hasFields.color, givenInSymbol?, h.color, ← givenInSymbol?]
  have hopacity : c'.fields.opacity = c.fields.opacity := by
    rw [c'.hasFields.opacity, c.hasFields.opacity, h.opacity]
  have hwidth : c'.fields.size.1 = c.fields.size.1 := by
    have hboth := h.width
    rw [c'.fields?_eq, c.fields?_eq] at hboth
    exact Option.some.inj hboth
  have htype : c'.fields.symbolType = c.fields.symbolType := by
    rw [c'.hasFields.symbolType, c.hasFields.symbolType, h.symbolType]
  have hshape : c'.shape = c.shape := by
    have hboth := c'.shape_eq
    rw [htype, c.shape_eq] at hboth
    exact (Option.some.inj hboth).symm
  -- The source is looked at only if the symbol is an image.
  have htextured : (c.shape = .image && c'.fields.source.isSome)
      = (c.shape = .image && c.fields.source.isSome) := by
    by_cases himage : c.shape = .image
    · have hnamed := c.shape_eq
      rw [himage, Symbol.ofValue?_eq_some_iff] at hnamed
      have hentry := c.hasFields.symbolType
      rw [hnamed] at hentry
      have htypeEntry : inSymbol? style "symbolType" = some (.string "image") := by
        cases hsymbolType : inSymbol? style "symbolType" with
        | none => simp [hsymbolType] at hentry
        | some v =>
          rw [hsymbolType] at hentry
          exact congrArg some hentry.symm
      rw [c'.hasFields.source, c.hasFields.source, h.source htypeEntry]
    · simp [himage]
  rw [hcolor, hopacity, hwidth, hshape, htextured] at hslot
  exact hslot.unique c.fillsSlots.color

end TwoStyles

/-- Slots do not interfere. A style that compiles can be compiled step by step,
    over names that all its expressions share. Each slot is filled with the
    codes of its own fields, which are those that they have alone; a round or
    triangular symbol has its width in the mask as the fragment shader reads it,
    and in the size as the vertex shader does. So two styles that agree on what
    a slot is made from have that slot in common, whatever else is in them. -/
theorem compile_slots {style : Value} {compiled : CompiledStyle}
    (h : (compile style).result = .ok compiled) :
    assemble style = .ok compiled ∧
    (∃ fields shape, fields? style = some fields ∧ HasFields style fields ∧
      Symbol.ofValue? fields.symbolType = some shape ∧
      FillsSlots fields shape compiled.program ∧
      (shape = .circle ∨ shape = .triangle →
        ∃ width visible, fields.size.1.HasCode "a_" none width ∧
          fields.size.1.HasCode "v_" none visible ∧
          width.toList <:+: compiled.program.size.toList ∧
          visible.toList <:+: (shape.mask visible).toList ∧
          (shape.mask visible).toList <:+: compiled.program.color.toList) ∧
      (shape = .square ∨ shape = .image → ∀ visible, shape.mask visible = "1.0")) ∧
    ∀ other recompiled, (compile other).result = .ok recompiled →
      (inSymbol? other "size" = inSymbol? style "size" →
        recompiled.program.size = compiled.program.size) ∧
      (inSymbol? other "offset" = inSymbol? style "offset" →
        recompiled.program.offset = compiled.program.offset) ∧
      (inSymbol? other "textureCoord" = inSymbol? style "textureCoord" →
        recompiled.program.textureBounds = compiled.program.textureBounds) ∧
      (other.get? "filter" = style.get? "filter" →
        recompiled.program.discard = compiled.program.discard) ∧
      (AgreeOnColor style other → recompiled.program.color = compiled.program.color) := by
  obtain ⟨c⟩ := exists_compilation h
  refine ⟨by rw [assemble_eq, h], ⟨c.fields, c.shape, c.fields?_eq, c.hasFields, c.shape_eq,
    c.fillsSlots, ?_, Symbol.mask_eq_one⟩, ?_⟩
  · intro hshape
    obtain ⟨width, hwidth, hsize⟩ := c.fillsSlots.size.exists_first
    obtain ⟨visible, hvisible, hcolor⟩ := c.fillsSlots.color.exists_mask
    obtain ⟨before, after, hmask⟩ := Symbol.exists_mask_eq hshape
    refine ⟨width, visible, hwidth, hvisible, hsize, ?_, hcolor⟩
    rw [hmask]
    exact toList_infix_append before visible after
  · intro other recompiled hother
    obtain ⟨c'⟩ := exists_compilation hother
    exact ⟨size_congr c c', offset_congr c c', textureBounds_congr c c', discard_congr c c',
      color_congr c c'⟩

/-- A red circle. -/
def redCircle : Value :=
  .object [("symbol", .object [("symbolType", .string "circle"), ("size", .int 4),
    ("color", .string "red")])]

/-- A red ellipse that is as high as a property says, moved by a variable, and
    drawn where another property is positive. -/
def redEllipse : Value :=
  .object [
    ("symbol", .object [("symbolType", .string "circle"), ("color", .string "red"),
      ("size", .sequence .list [.int 4, .sequence .list [.string "get", .string "height"]]),
      ("offset", .sequence .list [.sequence .list [.string "var", .string "shift"], .int 0])]),
    ("filter", .sequence .list [.string "get", .string "rank"])]

/-- Both are equally wide, so fragments have the same color. -/
theorem redEllipse_slots :
    ∃ compiled recompiled, (compile redCircle).result = .ok compiled ∧
      (compile redEllipse).result = .ok recompiled ∧
      assemble redCircle = .ok compiled ∧
      recompiled.program.color = compiled.program.color := by
  obtain ⟨compiled, hcompile⟩ : ∃ compiled, (compile redCircle).result = .ok compiled :=
    exists_ok_of_isOk (by decide +kernel)
  obtain ⟨recompiled, hrecompile⟩ : ∃ recompiled, (compile redEllipse).result = .ok recompiled :=
    exists_ok_of_isOk (by decide +kernel)
  obtain ⟨hassemble, -, htwo⟩ := compile_slots hcompile
  obtain ⟨-, -, -, -, hcolor⟩ := htwo redEllipse recompiled hrecompile
  have hagree : AgreeOnColor redCircle redEllipse := by
    constructor
    · rfl
    · rfl
    · rfl
    · rfl
    · intro himage
      have hshape : some (Value.string "circle") = some (.string "image") := himage
      exact absurd hshape (by simp)
  exact ⟨compiled, recompiled, hcompile, hrecompile, hassemble, hcolor hagree⟩

end Style

end SymbolStyle

import SymbolStyle.Proofs.Compilation
import SymbolStyle.Style

/-! # What a compiled style is made of

    A style that compiles has fields of the right shape, an expression that
    fits in each place, a known shape of its symbol and a text for the source
    of its image. `Compilation` collects these parts, and everything in the
    compiled style is computed from them.

    * `exists_compilation`: a compiled style has such parts.
    * `compile_result_congr`: the result depends on the symbol and the filter
      of a style alone.
    * `placed_of_compileFields`: each expression fits its place and was lowered
      there.
-/

namespace SymbolStyle

open Value
open Glsl (Expr)

/-! ## Parts of a compiled style -/

/-- The parts from which a style was compiled. -/
structure Compilation (style : Value) (compiled : CompiledStyle) where
  symbol : Value
  fields : Fields
  trees : Trees
  shape : Symbol
  /-- The place of the image, if the symbol shows one. -/
  texture : Option String
  symbol_eq : Fields.symbol? style = some symbol
  fields_eq : Fields.ofSymbol style symbol = .ok fields
  trees_eq : Style.compileFields fields = .ok trees
  shape_eq : Symbol.ofValue? fields.symbolType = some shape
  texture_eq : Style.textureOf fields shape = .ok texture
  program_eq : compiled.program = Style.programOf fields trees shape texture.isSome
  attributes_eq : compiled.attributes = Style.allAttributes fields
  uniforms_eq : compiled.uniforms = Style.uniformsOf fields texture

namespace Style

/-- The result of compiling is that of its stages; notices do not matter to
    it. -/
theorem compile_result (style : Value) :
    (compile style).result = (Fields.symbol? style).elim (.error .noSymbol)
      fun symbol => (compileSymbol style symbol).map Prod.fst := by
  unfold compile
  cases Fields.symbol? style with
  | none => rfl
  | some symbol =>
    rw [Option.elim_some]
    cases houtcome : compileSymbol style symbol with
    | error e => simp [houtcome, Except.map]
    | ok outcome => simp [houtcome, Except.map]

/-- A style that compiles has all the parts that it takes. -/
theorem exists_compilation {style : Value} {compiled : CompiledStyle}
    (h : (compile style).result = .ok compiled) : Nonempty (Compilation style compiled) := by
  rw [compile_result] at h
  cases hsymbol : Fields.symbol? style with
  | none => simp [hsymbol] at h
  | some symbol =>
    rw [hsymbol, Option.elim_some] at h
    -- The stages one after another: none of them has failed.
    unfold compileSymbol at h
    cases hfields : Fields.ofSymbol style symbol with
    | error e => simp [hfields, bind, Except.bind, Except.map] at h
    | ok fields =>
      cases htrees : compileFields fields with
      | error e => simp [hfields, htrees, bind, Except.bind, Except.map] at h
      | ok trees =>
        cases hshape : Symbol.ofValue? fields.symbolType with
        | none => simp [hfields, htrees, hshape, bind, Except.bind, Except.map] at h
        | some shape =>
          cases htexture : textureOf fields shape with
          | error e =>
            simp [hfields, htrees, hshape, htexture, bind, Except.bind, Except.map] at h
          | ok texture =>
            simp only [hfields, htrees, hshape, htexture, bind, Except.bind, pure, Except.pure,
              Except.map, Except.ok.injEq] at h
            subst h
            exact ⟨⟨symbol, fields, trees, shape, texture, hsymbol, hfields, htrees, hshape,
              htexture, rfl, rfl, rfl⟩⟩

/-- A symbol has a texture if it is an image with a source, which has to be
    written. -/
theorem textureOf_cases (fields : Fields) (shape : Symbol) :
    (¬ (shape = .image ∧ fields.source.isSome) ∧ textureOf fields shape = .ok none) ∨
    ∃ source, shape = .image ∧ fields.source = some source ∧
      ((∃ text, source.display? = some text ∧ textureOf fields shape = .ok (some text)) ∨
        (source.display? = none ∧ textureOf fields shape = .error (.unwritableSource source))) := by
  unfold textureOf
  by_cases himage : shape = .image
  · subst himage
    cases hsource : fields.source with
    | none => exact .inl ⟨by simp, rfl⟩
    | some source =>
      refine .inr ⟨source, rfl, rfl, ?_⟩
      cases hdisplay : source.display? with
      | none => exact .inr ⟨rfl, by simp [hdisplay]⟩
      | some text => exact .inl ⟨text, rfl, by simp [hdisplay]⟩
  · refine .inl ⟨fun h => himage h.1, ?_⟩
    cases shape with
    | image => exact absurd rfl himage
    | _ => rfl

theorem exists_ok_of_isOk {style : Value} (h : (compile style).result.isOk) :
    ∃ compiled, (compile style).result = .ok compiled := by
  cases hresult : (compile style).result with
  | error e => simp [hresult, Except.isOk, Except.toBool] at h
  | ok compiled => exact ⟨compiled, rfl⟩

/-! ## Expressions in their places -/

/-- The kind towards which the expression in a place is lowered. -/
def wantedIn (slot : Slot) : Option Kind := if slot.field = .color then some .color else none

/-- The expression fits its place and was lowered to a tree there. -/
structure Fits (slot : Slot) (v : Value) (tree : Expr) : Prop where
  accepts : slot.expected.accepts v.kind
  typed : WellTyped v v.kind
  lowers : Lowers v v.kind (wantedIn slot) tree

/-- A later stage is only reached through a result of the earlier one. -/
theorem exists_of_bind_eq_ok {ε α β : Type} {x : Except ε α} {f : α → Except ε β} {b : β}
    (h : x >>= f = .ok b) : ∃ a, x = .ok a ∧ f a = .ok b := by
  cases x with
  | error e => simp [bind, Except.bind] at h
  | ok a => exact ⟨a, rfl, h⟩

/-- What a place accepts is not a text that is out of place there. -/
theorem not_isMisplacedText_wantedIn {slot : Slot} {v : Value} (htyped : WellTyped v v.kind)
    (haccepts : slot.expected.accepts v.kind) : ¬ v.IsMisplacedText (wantedIn slot) := by
  by_cases hcolor : slot.field = .color
  · rw [wantedIn, if_pos hcolor]
    apply not_isMisplacedText_of_accepts htyped
    rwa [Slot.expected, if_pos hcolor] at haccepts
  · rw [wantedIn, if_neg hcolor]
    exact v.not_isMisplacedText_none

theorem compileSlot_eq_ok {slot : Slot} {v : Value} {tree : Expr}
    (h : compileSlot slot v = .ok tree) : Fits slot v tree := by
  unfold compileSlot at h
  obtain ⟨u, hvalid, h⟩ := exists_of_bind_eq_ok h
  have hvalid : v.validate = .ok () := by
    cases hv : v.validate with
    | error e => simp [hv, Except.mapError] at hvalid
    | ok u => rfl
  have htyped := v.validate_eq_ok_iff.1 hvalid
  by_cases haccepts : slot.expected.accepts v.kind
  · obtain ⟨lowered, hlowers⟩ :=
      htyped.exists_lowers (not_isMisplacedText_wantedIn htyped haccepts)
    have hlower : v.lower (wantedIn slot) .empty = .ok (lowered, _) := hlowers.lower_eq .empty
    rw [wantedIn] at hlower
    simp only [haccepts, if_true, hlower, Except.map, Except.mapError, Except.ok.injEq] at h
    exact ⟨haccepts, htyped, h ▸ hlowers⟩
  · simp [haccepts] at h

/-- All expressions of a style fit their places and were lowered there. -/
structure Placed (fields : Fields) (trees : Trees) : Prop where
  width : Fits ⟨.size, some 0⟩ fields.size.1 trees.size.1
  height : Fits ⟨.size, some 1⟩ fields.size.2 trees.size.2
  x : Fits ⟨.offset, some 0⟩ fields.offset.1 trees.offset.1
  y : Fits ⟨.offset, some 1⟩ fields.offset.2 trees.offset.2
  left : Fits ⟨.textureCoord, some 0⟩ fields.textureCoord.1 trees.textureCoord.1
  bottom : Fits ⟨.textureCoord, some 1⟩ fields.textureCoord.2.1 trees.textureCoord.2.1
  right : Fits ⟨.textureCoord, some 2⟩ fields.textureCoord.2.2.1 trees.textureCoord.2.2.1
  top : Fits ⟨.textureCoord, some 3⟩ fields.textureCoord.2.2.2 trees.textureCoord.2.2.2
  opacity : Fits ⟨.opacity, none⟩ fields.opacity trees.opacity
  color : Fits ⟨.color, none⟩ fields.color trees.color
  filter : Option.Rel (Fits ⟨.filter, none⟩) fields.filter trees.filter

theorem placed_of_compileFields {fields : Fields} {trees : Trees}
    (h : compileFields fields = .ok trees) : Placed fields trees := by
  unfold compileFields at h
  -- The places one after another.
  obtain ⟨width, hwidth, h⟩ := exists_of_bind_eq_ok h
  obtain ⟨height, hheight, h⟩ := exists_of_bind_eq_ok h
  obtain ⟨x, hx, h⟩ := exists_of_bind_eq_ok h
  obtain ⟨y, hy, h⟩ := exists_of_bind_eq_ok h
  obtain ⟨left, hleft, h⟩ := exists_of_bind_eq_ok h
  obtain ⟨bottom, hbottom, h⟩ := exists_of_bind_eq_ok h
  obtain ⟨right, hright, h⟩ := exists_of_bind_eq_ok h
  obtain ⟨top, htop, h⟩ := exists_of_bind_eq_ok h
  obtain ⟨opacity, hopacity, h⟩ := exists_of_bind_eq_ok h
  obtain ⟨color, hcolor, h⟩ := exists_of_bind_eq_ok h
  have hfilter : Option.Rel (Fits ⟨.filter, none⟩) fields.filter trees.filter ∧
      trees = ⟨(width, height), (x, y), (left, bottom, right, top), opacity, color,
        trees.filter⟩ := by
    cases hgiven : fields.filter with
    | none =>
      rw [hgiven] at h
      obtain rfl := Except.ok.inj h
      exact ⟨.none, rfl⟩
    | some v =>
      rw [hgiven] at h
      obtain ⟨filter, hfilter, h⟩ := exists_of_bind_eq_ok h
      obtain rfl := Except.ok.inj h
      cases hslot : compileSlot ⟨.filter, none⟩ v with
      | error e => simp [hslot, Except.map] at hfilter
      | ok tree =>
        simp only [hslot, Except.map, Except.ok.injEq] at hfilter
        obtain rfl := hfilter
        exact ⟨.some (compileSlot_eq_ok hslot), rfl⟩
  obtain ⟨hfilter, htrees⟩ := hfilter
  rw [htrees]
  exact ⟨compileSlot_eq_ok hwidth, compileSlot_eq_ok hheight, compileSlot_eq_ok hx,
    compileSlot_eq_ok hy, compileSlot_eq_ok hleft, compileSlot_eq_ok hbottom,
    compileSlot_eq_ok hright, compileSlot_eq_ok htop, compileSlot_eq_ok hopacity,
    compileSlot_eq_ok hcolor, hfilter⟩

/-! ## What a style reads -/

/-- The fields of a style, if it has the shape of one. -/
def fields? (style : Value) : Option Fields :=
  (Fields.symbol? style).bind fun symbol => (Fields.ofSymbol style symbol).toOption

theorem fields?_eq_some_iff {style : Value} {fields : Fields} :
    fields? style = some fields ↔
      ∃ symbol, Fields.symbol? style = some symbol ∧ Fields.ofSymbol style symbol = .ok fields := by
  unfold fields?
  rw [Option.bind_eq_some_iff]
  refine exists_congr fun symbol => and_congr_right fun _ => ?_
  cases Fields.ofSymbol style symbol with
  | error e => simp [Except.toOption]
  | ok found => simp [Except.toOption]

/-- An expression of the style reads the input. -/
def ReadsInput (style : Value) (reading : Reading) : Prop :=
  ∃ fields, fields? style = some fields ∧ ∃ v ∈ allExpressions fields, Reads v reading

/-- An expression that the fragment shader computes reads the input. -/
def FragmentReads (style : Value) (reading : Reading) : Prop :=
  ∃ fields, fields? style = some fields ∧ ∃ v ∈ fragmentExpressions fields, Reads v reading

/-! ## What the result depends on -/

/-- Two styles with the same symbol and the same filter compile to the same
    result. -/
theorem compile_result_congr {style other : Value}
    (hsymbol : other.get? "symbol" = style.get? "symbol")
    (hfilter : other.get? "filter" = style.get? "filter") :
    (compile other).result = (compile style).result := by
  have hsymbol? : Fields.symbol? other = Fields.symbol? style := by
    unfold Fields.symbol?
    rw [hsymbol]
  have hgiven : Fields.given? other "filter" = Fields.given? style "filter" := by
    unfold Fields.given?
    rw [hfilter]
  have hcompile : ∀ symbol, compileSymbol other symbol = compileSymbol style symbol := by
    intro symbol
    unfold compileSymbol Fields.ofSymbol
    rw [hgiven]
  rw [compile_result, compile_result, hsymbol?]
  cases Fields.symbol? style with
  | none => rfl
  | some symbol =>
    show (compileSymbol other symbol).map Prod.fst = (compileSymbol style symbol).map Prod.fst
    rw [hcompile]

end Style

/-! ## What the parts read -/

namespace Compilation

variable {style : Value} {compiled : CompiledStyle} (c : Compilation style compiled)

include c

theorem fields?_eq : Style.fields? style = some c.fields :=
  Style.fields?_eq_some_iff.2 ⟨c.symbol, c.symbol_eq, c.fields_eq⟩

theorem placed : Style.Placed c.fields c.trees := Style.placed_of_compileFields c.trees_eq

theorem readsInput_iff {reading : Reading} :
    Style.ReadsInput style reading ↔ ∃ v ∈ Style.allExpressions c.fields, Reads v reading := by
  simp [Style.ReadsInput, c.fields?_eq]

theorem fragmentReads_iff {reading : Reading} :
    Style.FragmentReads style reading ↔
      ∃ v ∈ Style.fragmentExpressions c.fields, Reads v reading := by
  simp [Style.FragmentReads, c.fields?_eq]

/-- Every expression of a compiled style has a kind. -/
theorem exists_wellTyped {v : Value} (hv : v ∈ Style.allExpressions c.fields) :
    ∃ k, WellTyped v k := by
  have hplaced := c.placed
  have hfilter : ∀ v ∈ c.fields.filter.toList, ∃ k, WellTyped v k := by
    have hrel := hplaced.filter
    generalize c.fields.filter = filter at hrel
    generalize c.trees.filter = tree at hrel
    intro v hv
    cases hrel with
    | none => cases hv
    | some hfits =>
      obtain rfl := List.mem_singleton.1 hv
      exact ⟨_, hfits.typed⟩
  simp only [Style.allExpressions, Style.vertexExpressions, List.mem_append, List.mem_cons,
    List.not_mem_nil, or_false, or_assoc] at hv
  rcases hv with rfl | rfl | rfl | rfl | rfl | rfl | rfl | rfl | rfl | rfl | rfl | hv
  · exact ⟨_, hplaced.width.typed⟩
  · exact ⟨_, hplaced.color.typed⟩
  · exact ⟨_, hplaced.width.typed⟩
  · exact ⟨_, hplaced.height.typed⟩
  · exact ⟨_, hplaced.x.typed⟩
  · exact ⟨_, hplaced.y.typed⟩
  · exact ⟨_, hplaced.left.typed⟩
  · exact ⟨_, hplaced.bottom.typed⟩
  · exact ⟨_, hplaced.right.typed⟩
  · exact ⟨_, hplaced.top.typed⟩
  · exact ⟨_, hplaced.opacity.typed⟩
  · exact hfilter v hv

theorem mem_allExpressions_of_vertex {v : Value}
    (hv : v ∈ Style.vertexExpressions c.fields) : v ∈ Style.allExpressions c.fields := by
  simp [Style.allExpressions, hv]

theorem mem_allExpressions_of_fragment {v : Value}
    (hv : v ∈ Style.fragmentExpressions c.fields) : v ∈ Style.allExpressions c.fields := by
  simp only [Style.fragmentExpressions, List.mem_append, List.mem_cons, List.not_mem_nil,
    or_false] at hv
  rcases hv with (rfl | rfl | rfl) | hv
  · simp [Style.allExpressions]
  · simp [Style.allExpressions]
  · simp [Style.allExpressions]
  · simp [Style.allExpressions, hv]

/-! The names that are registered are those that are read. -/

theorem mem_attributesOf_iff {expressions : List Value} {name : String}
    (h : ∀ v ∈ expressions, v ∈ Style.allExpressions c.fields) :
    name ∈ Style.attributesOf expressions ↔ ∃ v ∈ expressions, Reads v (.attribute name) := by
  rw [Style.attributesOf, mem_register, Reading.mem_attributeNames, List.mem_flatMap]
  simp only [List.not_mem_nil, false_or]
  constructor
  · rintro ⟨v, hv, hreads⟩
    obtain ⟨k, htyped⟩ := c.exists_wellTyped (h v hv)
    exact ⟨v, hv, htyped.mem_readings_iff.1 hreads⟩
  · rintro ⟨v, hv, hreads⟩
    obtain ⟨k, htyped⟩ := c.exists_wellTyped (h v hv)
    exact ⟨v, hv, htyped.mem_readings_iff.2 hreads⟩

theorem mem_variablesOf_iff {name : String} :
    name ∈ Style.variablesOf (Style.allExpressions c.fields)
      ↔ Style.ReadsInput style (.variable name) := by
  rw [c.readsInput_iff, Style.variablesOf, mem_register, Reading.mem_variableNames,
    List.mem_flatMap]
  simp only [List.not_mem_nil, false_or]
  constructor
  · rintro ⟨v, hv, hreads⟩
    obtain ⟨k, htyped⟩ := c.exists_wellTyped hv
    exact ⟨v, hv, htyped.mem_readings_iff.1 hreads⟩
  · rintro ⟨v, hv, hreads⟩
    obtain ⟨k, htyped⟩ := c.exists_wellTyped hv
    exact ⟨v, hv, htyped.mem_readings_iff.2 hreads⟩

theorem mem_fragmentAttributes_iff {name : String} :
    name ∈ Style.attributesOf (Style.fragmentExpressions c.fields)
      ↔ Style.FragmentReads style (.attribute name) := by
  rw [c.fragmentReads_iff]
  exact c.mem_attributesOf_iff fun v hv => c.mem_allExpressions_of_fragment hv

/-- The attributes are those that either shader reads. -/
theorem mem_allAttributes_iff {name : String} :
    name ∈ Style.allAttributes c.fields ↔ Style.ReadsInput style (.attribute name) := by
  have hvertex : name ∈ Style.attributesOf (Style.vertexExpressions c.fields) ↔ _ :=
    c.mem_attributesOf_iff fun v hv => c.mem_allExpressions_of_vertex hv
  have hfragment : name ∈ Style.attributesOf (Style.fragmentExpressions c.fields) ↔ _ :=
    c.mem_attributesOf_iff fun v hv => c.mem_allExpressions_of_fragment hv
  rw [Style.allAttributes, mem_register, hvertex, hfragment, c.readsInput_iff]
  constructor
  · rintro (⟨v, hv, hreads⟩ | ⟨v, hv, hreads⟩)
    · exact ⟨v, c.mem_allExpressions_of_vertex hv, hreads⟩
    · exact ⟨v, c.mem_allExpressions_of_fragment hv, hreads⟩
  · rintro ⟨v, hv, hreads⟩
    have hplace : v ∈ Style.vertexExpressions c.fields ∨
        v ∈ Style.fragmentExpressions c.fields := by
      simp only [Style.allExpressions, Style.fragmentExpressions, List.mem_append, List.mem_cons,
        List.not_mem_nil, or_false] at hv ⊢
      tauto
    rcases hplace with hv | hv
    · exact .inl ⟨v, hv, hreads⟩
    · exact .inr ⟨v, hv, hreads⟩

end Compilation

end SymbolStyle

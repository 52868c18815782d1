import SymbolStyle.Proofs.Respelling
import SymbolStyle.Proofs.Style.Misfit

/-! # Other spellings of a style

    Two styles are spellings of the same if their fields hold spellings of the same
    and all else in them is equal. They compile to the same program, or both fail
    with the same error about different spellings.

    The shape of a field is looked at before its expressions are, and a vacant value
    counts as none. So it matters that a respelling keeps the number of items and
    what is vacant, and that it does so for defaults as well.

    * `Style.SpellsSame`: when two styles are spellings of the same.
    * `Fields.ofSymbol_of_spellsSame`, `Style.resultOf_respell`: what this says about
      their fields, and what it takes to compile the fields.
    * `Style.result_of_spellsSame`: the results are the same up to the spelling of
      errors.
-/

namespace SymbolStyle

open Value
open Glsl (Expr)

/-! ## Errors that are spelt anew -/

/-- The error about a style, about its values in another spelling. The shape of the
    symbol and the source of an image are no expressions. -/
def StyleError.respell (r : Respelling) : StyleError → StyleError
  | noSymbol => noSymbol
  | components field count found => components field count (found.respell r)
  | expression e => expression (e.respell r)
  | wrongKind slot found actual => wrongKind slot (found.respell r) actual
  | fault f => fault (f.respell r)
  | unsupportedSymbol found => unsupportedSymbol found
  | unwritableSource found => unwritableSource found

namespace StyleError

/-- What an error in a style is caught as. -/
def errorClass (e : StyleError) : ErrorClass :=
  match e with
  | expression e => e.errorClass
  | fault f => f.errorClass
  | noSymbol | components .. => .worded e.message? .invalidStyle
  | wrongKind .. => .worded e.message? .typeMismatch
  | unsupportedSymbol _ => .worded e.message? .unsupportedSymbol
  | unwritableSource _ => .unusable

variable {r : Respelling}

theorem isSome_describe?_respell (v : Value) :
    (v.respell r).describe?.isSome = v.describe?.isSome := by
  rw [Bool.eq_iff_iff, isSome_describe?_iff, isSome_describe?_iff, hasLongInt_respell]

/-- An error about another spelling is of the same class. -/
theorem errorClass_respell (e : StyleError) : (e.respell r).errorClass = e.errorClass := by
  cases e with
  | expression e => exact e.errorClass_respell
  | fault f => exact f.errorClass_respell
  | components field count found =>
    simp [StyleError.respell, errorClass, ErrorClass.worded, message?, Option.isSome_bind,
      isSome_describe?_respell]
  | wrongKind slot found actual =>
    simp [StyleError.respell, errorClass, ErrorClass.worded, message?, Option.isSome_bind,
      isSome_describe?_respell]
  | _ => rfl

theorem errorClass_eq_of_respell {e e' : StyleError} (h : e.respell r = e'.respell r) :
    e.errorClass = e'.errorClass := by
  rw [← errorClass_respell (r := r), h, errorClass_respell]

end StyleError

/-! ## Fields that are spelt anew -/

namespace Fields

/-- The fields with their expressions in another spelling. -/
def respell (r : Respelling) (fields : Fields) : Fields :=
  { fields with
    size := (fields.size.1.respell r, fields.size.2.respell r)
    offset := (fields.offset.1.respell r, fields.offset.2.respell r)
    textureCoord := (fields.textureCoord.1.respell r, fields.textureCoord.2.1.respell r,
      fields.textureCoord.2.2.1.respell r, fields.textureCoord.2.2.2.respell r)
    opacity := fields.opacity.respell r
    color := fields.color.respell r
    filter := fields.filter.map (Value.respell r) }

variable {r : Respelling}

theorem pairOf_respell (field : Field) (v : Value) :
    pairOf field (v.respell r)
      = ((pairOf field v).map fun pair => (pair.1.respell r, pair.2.respell r)).mapError
          (StyleError.respell r) := by
  unfold pairOf
  rw [items?_respell]
  match v.items? with
  | none => rfl
  | some [] => rfl
  | some [a] => rfl
  | some [a, b] => rfl
  | some (a :: b :: c :: rest) => rfl

theorem fourOf_respell (field : Field) (v : Value) :
    fourOf field (v.respell r)
      = ((fourOf field v).map fun four => (four.1.respell r, four.2.1.respell r,
          four.2.2.1.respell r, four.2.2.2.respell r)).mapError (StyleError.respell r) := by
  unfold fourOf
  rw [items?_respell]
  match v.items? with
  | none => rfl
  | some [] => rfl
  | some [a] => rfl
  | some [a, b] => rfl
  | some [a, b, c] => rfl
  | some [a, b, c, d] => rfl
  | some (a :: b :: c :: d :: e :: rest) => rfl

theorem sizeOf_respell (v : Value) :
    sizeOf (v.respell r)
      = ((sizeOf v).map fun pair => (pair.1.respell r, pair.2.respell r)).mapError
          (StyleError.respell r) := by
  unfold sizeOf
  rw [items?_respell]
  match v.items? with
  | none => rfl
  | some [] => rfl
  | some (first :: rest) =>
    simp only [Option.map_some, List.map_cons, isNumber_respell]
    by_cases hnumber : first.isNumber
    · rw [if_pos hnumber, if_pos hnumber, pairOf_respell]
    · rw [if_neg hnumber, if_neg hnumber]
      rfl

end Fields

/-! ## Codes of fields -/

namespace Style

variable {r : Respelling}

/-- An expression in another spelling has the same code in its place. -/
theorem compileSlot_respell (slot : Slot) (v : Value) :
    compileSlot slot (v.respell r) = (compileSlot slot v).mapError (StyleError.respell r) := by
  have hchecked := v.validate_respell (r := r)
  unfold compileSlot
  rw [kind_respell]
  cases hvalid : v.validate with
  | error e =>
    rw [hvalid] at hchecked
    rw [hchecked]
    rfl
  | ok u =>
    rw [hvalid] at hchecked
    rw [hchecked]
    by_cases haccepts : slot.expected.accepts v.kind
    · have htyped := v.validate_eq_ok_iff.1 hvalid
      obtain ⟨tree, hlowers⟩ := htyped.exists_lowers (not_isMisplacedText_wantedIn htyped haccepts)
      have hlower : v.lower (if slot.field = .color then some .color else none) .empty
          = .ok (tree, _) := hlowers.lower_eq .empty
      have hlower' : (v.respell r).lower (if slot.field = .color then some .color else none) .empty
          = .ok (tree, _) := hlowers.respell.lower_eq .empty
      simp only [haccepts, if_true, hlower, hlower']
      rfl
    · simp only [haccepts]
      rfl

theorem compileFields_respell (fields : Fields) :
    compileFields (fields.respell r)
      = (compileFields fields).mapError (StyleError.respell r) := by
  obtain ⟨size, offset, textureCoord, opacity, color, filter, symbolType, rotates, source⟩ := fields
  unfold compileFields
  simp only [Fields.respell, mapError_bind, compileSlot_respell]
  -- All places but that of the filter are always filled.
  iterate 10 refine bind_congr fun _ => ?_
  cases filter with
  | none => rfl
  | some v =>
    simp only [Option.map_some, compileSlot_respell]
    cases compileSlot ⟨.filter, none⟩ v <;> rfl

/-! The names that are read, and the settings, are the same. -/

theorem flatMap_readings_respell (expressions : List Value) :
    (expressions.map (Value.respell r)).flatMap Value.readings
      = expressions.flatMap Value.readings := by
  rw [List.flatMap_map]
  congr 1
  funext v
  exact v.readings_respell

theorem vertexExpressions_respell (fields : Fields) :
    vertexExpressions (fields.respell r) = (vertexExpressions fields).map (Value.respell r) := rfl

theorem fragmentExpressions_respell (fields : Fields) :
    fragmentExpressions (fields.respell r)
      = (fragmentExpressions fields).map (Value.respell r) := by
  cases hfilter : fields.filter <;>
    simp [fragmentExpressions, Fields.respell, hfilter]

theorem allExpressions_respell (fields : Fields) :
    allExpressions (fields.respell r) = (allExpressions fields).map (Value.respell r) := by
  cases hfilter : fields.filter <;>
    simp [allExpressions, vertexExpressions, Fields.respell, hfilter]

theorem variablesOf_respell (fields : Fields) :
    variablesOf (allExpressions (fields.respell r)) = variablesOf (allExpressions fields) := by
  rw [variablesOf, variablesOf, allExpressions_respell, flatMap_readings_respell]

theorem attributesOf_respell (expressions : List Value) :
    attributesOf (expressions.map (Value.respell r)) = attributesOf expressions := by
  rw [attributesOf, attributesOf, flatMap_readings_respell]

theorem allAttributes_respell (fields : Fields) :
    allAttributes (fields.respell r) = allAttributes fields := by
  rw [allAttributes, allAttributes, vertexExpressions_respell, fragmentExpressions_respell,
    attributesOf_respell, attributesOf_respell]

theorem programOf_respell (fields : Fields) (trees : Trees) (shape : Symbol) (textured : Bool) :
    programOf (fields.respell r) trees shape textured = programOf fields trees shape textured := by
  unfold programOf
  rw [variablesOf_respell, allAttributes_respell, fragmentExpressions_respell,
    attributesOf_respell]
  rfl

theorem uniformsOf_respell (fields : Fields) (texture : Option String) :
    uniformsOf (fields.respell r) texture = uniformsOf fields texture := by
  unfold uniformsOf
  rw [variablesOf_respell]

theorem shapeOf_respell (fields : Fields) :
    shapeOf (fields.respell r) = (shapeOf fields).mapError (StyleError.respell r) := by
  unfold shapeOf Fields.respell
  cases Symbol.ofValue? fields.symbolType <;> rfl

theorem textureOf_respell (fields : Fields) (shape : Symbol) :
    textureOf (fields.respell r) shape
      = (textureOf fields shape).mapError (StyleError.respell r) := by
  have hsame : textureOf (fields.respell r) shape = textureOf fields shape := rfl
  rw [hsame]
  rcases textureOf_cases fields shape with ⟨-, heq⟩ | ⟨source, -, -, ⟨text, -, heq⟩ | ⟨-, heq⟩⟩
  · rw [heq]
    rfl
  · rw [heq]
    rfl
  · rw [heq]
    rfl

/-! ## Results -/

/-- What becomes of the fields of a style. -/
def resultOf (fields : Fields) : Except StyleError CompiledStyle := do
  let trees ← compileFields fields
  let shape ← shapeOf fields
  let texture ← textureOf fields shape
  return ⟨programOf fields trees shape texture.isSome, allAttributes fields,
    uniformsOf fields texture⟩

/-- Compiling a style is taking its fields and compiling them. -/
theorem result_eq_resultOf (style : Value) :
    (compile style).result = (Fields.symbol? style).elim (.error .noSymbol)
      fun symbol => Fields.ofSymbol style symbol >>= resultOf := by
  rw [compile_result]
  congr 1
  funext symbol
  cases hfields : Fields.ofSymbol style symbol with
  | error e =>
    unfold compileSymbol
    rw [hfields]
    rfl
  | ok fields => exact compileSymbol_result hfields

/-- Fields in another spelling are compiled to the same. -/
theorem resultOf_respell (fields : Fields) :
    resultOf (fields.respell r) = (resultOf fields).mapError (StyleError.respell r) := by
  unfold resultOf
  simp only [mapError_bind, compileFields_respell, shapeOf_respell, textureOf_respell,
    programOf_respell, allAttributes_respell, uniformsOf_respell]
  rfl

/-! ## Two spellings of one style -/

/-- The fields of two styles hold spellings of the same, and all else that is looked
    at in them is equal. -/
structure SpellsSame (r : Respelling) (style other : Value) : Prop where
  symbol : (Fields.symbol? style).isSome = (Fields.symbol? other).isSome
  field : ∀ field, (givenFor? style field).map (Value.respell r)
    = (givenFor? other field).map (Value.respell r)
  setting : ∀ name ∈ ["symbolType", "rotateWithView", "src"],
    inSymbol? style name = inSymbol? other name
  vars : style.get? "variables" = other.get? "variables"

/-- What is given, or else a default, is spelt as what is given instead. -/
theorem respell_getD {given given' : Option Value}
    (h : given.map (Value.respell r) = given'.map (Value.respell r)) (default : Value) :
    (given.getD default).respell r = (given'.getD default).respell r := by
  rw [← Option.getD_map (Value.respell r), h, Option.getD_map]

/-- What is vacant is dropped from both. -/
theorem map_bind_given? {entry entry' : Option Value}
    (h : entry.map (Value.respell r) = entry'.map (Value.respell r)) :
    (entry.bind Value.given?).map (Value.respell r)
      = (entry'.bind Value.given?).map (Value.respell r) := by
  have hcommutes : ∀ entry : Option Value, (entry.bind Value.given?).map (Value.respell r)
      = (entry.map (Value.respell r)).bind Value.given? := by
    intro entry
    cases entry with
    | none => rfl
    | some v => exact (given?_respell v).symm
  rw [hcommutes, h, hcommutes]

/-- Stages that are the same up to the spelling, in results and in errors, followed by
    stages that are. -/
theorem bind_congr_of_map_eq {ε ε' α α' β β' : Type} {x y : Except ε α} {f : α → α'}
    {g : ε → ε'} {k k' : α → Except ε β} {f' : β → β'}
    (h : (x.map f).mapError g = (y.map f).mapError g)
    (hk : ∀ a b, f a = f b → ((k a).map f').mapError g = ((k' b).map f').mapError g) :
    ((x >>= k).map f').mapError g = ((y >>= k').map f').mapError g := by
  cases x with
  | ok a =>
    cases y with
    | ok b => exact hk a b (Except.ok.inj h)
    | error e' => cases h
  | error e =>
    cases y with
    | ok b => cases h
    | error e' => exact congrArg Except.error (Except.error.inj h)

section TwoStyles

variable {style other : Value} (h : SpellsSame r style other)

include h

/-- Uniforms read the variables, which are no expressions. -/
theorem SpellsSame.readUniforms (uniforms : Entries Binding) :
    Style.readUniforms style uniforms = Style.readUniforms other uniforms := by
  unfold Style.readUniforms readBinding variableValue
  rw [h.vars]

theorem SpellsSame.inSymbol? (field : Field) (hfield : field ≠ .filter) :
    (Style.inSymbol? style field.name).map (Value.respell r)
      = (Style.inSymbol? other field.name).map (Value.respell r) := by
  have hgiven := h.field field
  rwa [givenFor?, givenFor?, if_neg hfield, if_neg hfield] at hgiven

theorem SpellsSame.sizeIn : (Style.sizeIn style).respell r = (Style.sizeIn other).respell r :=
  respell_getD (h.inSymbol? .size (by decide)) _

theorem SpellsSame.textureCoordIn :
    (Style.textureCoordIn style).respell r = (Style.textureCoordIn other).respell r :=
  respell_getD (map_bind_given? (h.inSymbol? .textureCoord (by decide))) _

theorem SpellsSame.offsetIn : (Style.offsetIn style).respell r = (Style.offsetIn other).respell r :=
  respell_getD (map_bind_given? (h.inSymbol? .offset (by decide))) _

/-- The fields of both styles are the same up to the spelling. -/
theorem ofSymbol_of_spellsSame {symbol symbol' : Value}
    (hsymbol : Fields.symbol? style = some symbol)
    (hsymbol' : Fields.symbol? other = some symbol') :
    ((Fields.ofSymbol style symbol).map (Fields.respell r)).mapError (StyleError.respell r)
      = ((Fields.ofSymbol other symbol').map (Fields.respell r)).mapError
          (StyleError.respell r) := by
  unfold Fields.ofSymbol
  rw [← sizeIn_eq hsymbol, ← textureCoordIn_eq hsymbol, ← offsetIn_eq hsymbol,
    ← sizeIn_eq hsymbol', ← textureCoordIn_eq hsymbol', ← offsetIn_eq hsymbol']
  apply bind_congr_of_map_eq
  · rw [← Fields.sizeOf_respell, h.sizeIn, Fields.sizeOf_respell]
  intro size size' hsize
  apply bind_congr_of_map_eq
  · rw [← Fields.fourOf_respell, h.textureCoordIn, Fields.fourOf_respell]
  intro bounds bounds' hbounds
  apply bind_congr_of_map_eq
  · rw [← Fields.pairOf_respell, h.offsetIn, Fields.pairOf_respell]
  intro offset offset' hoffset
  have hopacity := respell_getD (h.inSymbol? .opacity (by decide)) (.int 1)
  have hcolor := respell_getD (map_bind_given? (h.inSymbol? .color (by decide)))
    (.string "white")
  have hfilter := map_bind_given? (h.field .filter)
  have htype := h.setting "symbolType" (by simp)
  have hrotates := h.setting "rotateWithView" (by simp)
  have hsource := h.setting "src" (by simp)
  rw [inSymbol?_eq hsymbol, inSymbol?_eq hsymbol'] at hopacity hcolor htype hrotates hsource
  refine congrArg Except.ok ?_
  simp only [Fields.respell, Fields.given?, Fields.mk.injEq]
  exact ⟨hsize, hoffset, hbounds, hopacity, hcolor, hfilter, by rw [htype], by rw [hrotates],
    by rw [hsource]⟩

/-- Two spellings of one style compile to the same, up to the spelling of errors. -/
theorem result_of_spellsSame :
    (compile style).result.mapError (StyleError.respell r)
      = (compile other).result.mapError (StyleError.respell r) := by
  rw [result_eq_resultOf, result_eq_resultOf]
  have hboth := h.symbol
  cases hsymbol : Fields.symbol? style with
  | none =>
    cases hsymbol' : Fields.symbol? other with
    | none => rfl
    | some symbol' => simp [hsymbol, hsymbol'] at hboth
  | some symbol =>
    cases hsymbol' : Fields.symbol? other with
    | none => simp [hsymbol, hsymbol'] at hboth
    | some symbol' =>
      have hresult : ∀ fields fields' : Fields, fields.respell r = fields'.respell r →
          ((resultOf fields).map id).mapError (StyleError.respell r)
            = ((resultOf fields').map id).mapError (StyleError.respell r) := by
        intro fields fields' heq
        rw [Except.map_id, id, id, ← resultOf_respell, heq, resultOf_respell]
      have h := bind_congr_of_map_eq (ofSymbol_of_spellsSame h hsymbol hsymbol') hresult
      rwa [Except.map_id] at h

end TwoStyles

end Style

end SymbolStyle

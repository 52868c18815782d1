import SymbolStyle.Proofs.Style.Refusal
import SymbolStyle.Proofs.Style.Variables

/-! # Values that do not fit their fields

    A field that is given a value of the wrong kind is reported, or it counts as
    left out.

    A default stands for a field that is missing. Of all fields but size and
    opacity it also stands for one that is given a vacant value, and it does so
    before the value is looked at.

    * `Fits`: what each field should be given.
    * `fits_of_fields`: the checks see what a field is given unless it is dropped.
    * `compile_withoutField`: a style that drops a field compiles as it does
      without the field.
    * `compile_misfit`: a value that does not fit is an error exactly where it is
      not dropped. `zeroColor_ignored`: a number for a color that nobody reports.
-/

namespace SymbolStyle

open Value

/-! ## Taking entries out -/

namespace Value

/-- An object without the entry of a name. -/
def without (name : String) : Value → Value
  | .object entries => .object (Entries.remove name entries)
  | other => other

/-- An object whose entry of a name is changed. -/
def modify (name : String) (f : Value → Value) : Value → Value
  | .object entries =>
    .object (entries.map fun entry => (entry.1, if entry.1 = name then f entry.2 else entry.2))
  | other => other

theorem get?_without (v : Value) (name : String) : (v.without name).get? name = none := by
  cases v with
  | object entries => exact Entries.lookup_remove name entries
  | _ => rfl

theorem get?_without_of_ne (v : Value) {name other : String} (h : other ≠ name) :
    (v.without name).get? other = v.get? other := by
  cases v with
  | object entries => exact Entries.lookup_remove_of_ne entries h
  | _ => rfl

theorem isSome_entries?_without (v : Value) (name : String) :
    (v.without name).entries?.isSome = v.entries?.isSome := by
  cases v <;> rfl

theorem get?_modify (v : Value) (name : String) (f : Value → Value) (other : String) :
    (v.modify name f).get? other
      = (v.get? other).map fun entry => if other = name then f entry else entry := by
  cases v with
  | object entries =>
    show List.lookup other (entries.map _) = (List.lookup other entries).map _
    induction entries with
    | nil => rfl
    | cons entry rest ih =>
      obtain ⟨key, old⟩ := entry
      rw [List.map_cons, List.lookup_cons, List.lookup_cons]
      by_cases hkey : other = key
      · simp [hkey]
      · rw [beq_false_of_ne hkey]
        exact ih
  | _ => rfl

end Value

/-! ## What fits a field -/

/-- The value is an expression of a kind that is accepted for the given one. -/
def Value.IsExpressionFor (v : Value) (k : Kind) : Prop := v.validate = .ok () ∧ k.accepts v.kind

/-- The value is a sequence of so many numeric expressions. -/
def Value.IsSequenceOfNumbers (v : Value) (count : Nat) : Prop :=
  ∃ items, v.items? = some items ∧ items.length = count ∧
    ∀ item ∈ items, item.IsExpressionFor .number

namespace Style

/-- The value fits the field. What starts with a number is no expression for both
    width and height. -/
def FitsField (field : Field) (v : Value) : Prop :=
  match field with
  | .size =>
    ((∃ first rest, v.items? = some (first :: rest) ∧ first.isNumber) ∧ v.IsSequenceOfNumbers 2) ∨
      v.IsExpressionFor .number
  | .offset => v.IsSequenceOfNumbers 2
  | .textureCoord => v.IsSequenceOfNumbers 4
  | .opacity => v.IsExpressionFor .number
  | .color => v.IsExpressionFor .color
  | .filter => v.IsExpressionFor .number

/-- A vacant value counts as left out in all fields but two. -/
def Drops (field : Field) (v : Value) : Prop := field ≠ .size ∧ field ≠ .opacity ∧ v.isVacant

/-! ## Fields that are not dropped -/

/-- What a field is given is looked at, unless it is dropped. -/
theorem given?_of_not_drops {field : Field} {v : Value} (h : ¬ Drops field v)
    (hfield : field ≠ .size ∧ field ≠ .opacity) : v.given? = some v := by
  have hvacant : ¬ v.isVacant := fun hvacant => h ⟨hfield.1, hfield.2, hvacant⟩
  rw [given?, if_neg hvacant]

/-- If all checks succeed, whatever a field is given fits, unless it is
    dropped. -/
theorem fitsField_of_fields {style v : Value} {fields : Fields} {field : Field}
    (hfields : HasFields style fields) (hall : ∀ place ∈ slots fields, Acceptable place.1 place.2)
    (hgiven : givenFor? style field = some v) (hkept : ¬ Drops field v) : FitsField field v := by
  simp only [slots, List.forall_mem_append, List.forall_mem_cons, List.not_mem_nil, false_implies,
    implies_true, and_true] at hall
  obtain ⟨⟨hwidth, hheight, hx, hy, hleft, hbottom, hright, htop, hopacity, hcolor⟩, hfilter⟩ :=
    hall
  have hlooked := given?_of_not_drops hkept
  cases field with
  | size =>
    have hpresent : inSymbol? style "size" = some v := hgiven
    have hsize := hfields.size
    rw [sizeIn, hpresent, Option.getD_some, Fields.sizeOf] at hsize
    -- Components are only looked for where the size starts with a number.
    split at hsize
    · next first rest hitems =>
      split at hsize
      · next hnumber =>
        refine .inl ⟨⟨first, rest, hitems, hnumber⟩, _, Fields.pairOf_eq_ok_iff.1 hsize, rfl, ?_⟩
        simpa using ⟨hwidth, hheight⟩
      · rw [← Except.ok.inj hsize] at hwidth
        exact .inr hwidth
    · rw [← Except.ok.inj hsize] at hwidth
      exact .inr hwidth
  | offset =>
    have hpresent : inSymbol? style "offset" = some v := hgiven
    have hoffset := hfields.offset
    rw [offsetIn, givenInSymbol?, hpresent, Option.bind_some, hlooked (by decide),
      Option.getD_some] at hoffset
    refine ⟨_, Fields.pairOf_eq_ok_iff.1 hoffset, rfl, ?_⟩
    simpa using ⟨hx, hy⟩
  | textureCoord =>
    have hpresent : inSymbol? style "textureCoord" = some v := hgiven
    have hbounds := hfields.textureCoord
    rw [textureCoordIn, givenInSymbol?, hpresent, Option.bind_some, hlooked (by decide),
      Option.getD_some] at hbounds
    refine ⟨_, Fields.fourOf_eq_ok_iff.1 hbounds, rfl, ?_⟩
    simpa using ⟨hleft, hbottom, hright, htop⟩
  | opacity =>
    have hpresent : inSymbol? style "opacity" = some v := hgiven
    rw [hfields.opacity, hpresent] at hopacity
    exact hopacity
  | color =>
    have hpresent : inSymbol? style "color" = some v := hgiven
    rw [hfields.color, givenInSymbol?, hpresent, Option.bind_some, hlooked (by decide)] at hcolor
    exact hcolor
  | filter =>
    have hpresent : style.get? "filter" = some v := hgiven
    rw [hfields.filter, hpresent, Option.bind_some, hlooked (by decide)] at hfilter
    exact hfilter _ (List.mem_singleton_self _)

/-- Compiling the style ends with an error about its fields or an expression in
    them, and the error can be shown if all numbers can be written. -/
def IsReported (style : Value) : Prop :=
  ∃ e, (compile style).result = .error e ∧
    ((∃ field count found, e = .components field count found) ∨ e.concernsExpression) ∧
    (style.hasLongInt = false → e.message?.isSome)

/-- A value that does not fit is reported, unless it is dropped. -/
theorem isReported_of_not_fitsField {style v : Value} {field : Field}
    (hsymbol : (Fields.symbol? style).isSome) (hgiven : givenFor? style field = some v)
    (hmisfit : ¬ FitsField field v) (hkept : ¬ Drops field v) : IsReported style := by
  obtain ⟨symbol, hsymbol⟩ := Option.isSome_iff_exists.1 hsymbol
  obtain ⟨e, hresult, hreason⟩ : ∃ e, (compile style).result = .error e ∧
      ((∃ field count found, e = .components field count found) ∨ e.concernsExpression) := by
    cases hfields : Fields.ofSymbol style symbol with
    | error e =>
      refine ⟨e, ?_, ?_⟩
      · rw [compile_result, hsymbol, Option.elim_some, compileSymbol, hfields]
        rfl
      · obtain ⟨field, count, found, -, rfl⟩ := (ofSymbol_eq_error_iff hsymbol).1 hfields
        exact .inl ⟨field, count, found, rfl⟩
    | ok fields =>
      have hhas := hasFields_of_fields? (fields?_eq_some_iff.2 ⟨symbol, hsymbol, hfields⟩)
      cases hcheck : checkAll fields with
      | ok u =>
        exact absurd (fitsField_of_fields hhas (checkAll_eq_ok_iff.1 hcheck) hgiven hkept) hmisfit
      | error e =>
        refine ⟨e, (result_eq_error_iff_of_fields hsymbol hfields).2 (.inl hcheck), .inr ?_⟩
        obtain ⟨before, slot, item, after, -, -, hreason⟩ := checkAll_eq_error_iff.1 hcheck
        cases hreason with
        | expression _ => rfl
        | wrongKind _ _ => rfl
  refine ⟨e, hresult, hreason, ?_⟩
  intro hstyle
  exact ((result_eq_error_iff hstyle).1 hresult).isSome_message? hstyle

/-! ## Fields that are dropped -/

/-- A style without one of its fields. -/
def withoutField (style : Value) (field : Field) : Value :=
  if field = .filter then style.without field.name
  else style.modify "symbol" (Value.without field.name)

/-- Compiling looks at the fields of a style and at its variables. -/
theorem compile_congr {style other symbol symbol' : Value}
    (hsymbol : Fields.symbol? style = some symbol) (hsymbol' : Fields.symbol? other = some symbol')
    (hfields : Fields.ofSymbol other symbol' = Fields.ofSymbol style symbol)
    (hvariables : other.get? "variables" = style.get? "variables") :
    compile other = compile style := by
  have hcompile : compileSymbol other symbol' = compileSymbol style symbol := by
    unfold compileSymbol
    rw [hfields]
  have hnotice : variablesNotice other = variablesNotice style := by
    unfold variablesNotice
    rw [hvariables]
  simp only [compile, hsymbol, hsymbol', hcompile, hnotice]

/-- Without a vacant entry all that an object gives is the same. -/
theorem given?_without {v entry : Value} {name : String} (hentry : v.get? name = some entry)
    (hvacant : entry.isVacant) (other : String) :
    Fields.given? (v.without name) other = Fields.given? v other := by
  unfold Fields.given?
  by_cases hname : other = name
  · rw [hname, get?_without, hentry, Option.bind_none, Option.bind_some, given?, if_pos hvacant]
  · rw [get?_without_of_ne v hname]

theorem symbol?_modify {style symbol : Value} (hsymbol : Fields.symbol? style = some symbol)
    (name : String) :
    Fields.symbol? (style.modify "symbol" (Value.without name)) = some (symbol.without name) := by
  obtain ⟨hgiven, hobject⟩ := Option.filter_eq_some_iff.1 hsymbol
  rw [Fields.symbol?, get?_modify, hgiven]
  simpa [isSome_entries?_without] using hobject

theorem givenFor?_withoutField {style : Value} (hsymbol : (Fields.symbol? style).isSome)
    (field : Field) : givenFor? (withoutField style field) field = none := by
  obtain ⟨symbol, hsymbol⟩ := Option.isSome_iff_exists.1 hsymbol
  unfold givenFor? withoutField
  split
  · exact get?_without style field.name
  · rw [inSymbol?_eq (symbol?_modify hsymbol field.name), get?_without]

/-- A style that drops what a field is given compiles as it does without the
    field. -/
theorem compile_withoutField {style v : Value} {field : Field}
    (hsymbol : (Fields.symbol? style).isSome) (hgiven : givenFor? style field = some v)
    (hdrops : Drops field v) : compile (withoutField style field) = compile style := by
  obtain ⟨symbol, hsymbol⟩ := Option.isSome_iff_exists.1 hsymbol
  obtain ⟨hsize, hopacity, hvacant⟩ := hdrops
  by_cases hfield : field = .filter
  · subst hfield
    have hentry : style.get? "filter" = some v := hgiven
    have hother : Fields.symbol? (style.without "filter") = some symbol := by
      rw [Fields.symbol?, get?_without_of_ne style (by decide)]
      exact hsymbol
    rw [withoutField, if_pos rfl]
    refine compile_congr hsymbol hother ?_ (get?_without_of_ne style (by decide))
    unfold Fields.ofSymbol
    rw [show Field.filter.name = "filter" from rfl, given?_without hentry hvacant]
  · have hentry : symbol.get? field.name = some v := by
      rwa [givenFor?, if_neg hfield, inSymbol?_eq hsymbol] at hgiven
    rw [withoutField, if_neg hfield]
    have hsame : ∀ name, name ≠ "symbol" →
        (style.modify "symbol" (Value.without field.name)).get? name = style.get? name := by
      intro name hname
      simp [get?_modify, hname]
    refine compile_congr hsymbol (symbol?_modify hsymbol field.name) ?_ (hsame _ (by decide))
    have hkept : ∀ name ∈ ["size", "opacity", "symbolType"],
        (symbol.without field.name).get? name = symbol.get? name := by
      intro name hname
      apply get?_without_of_ne
      rintro rfl
      cases field <;> simp_all [Field.name]
    unfold Fields.ofSymbol
    simp only [hkept "size" (by decide), hkept "opacity" (by decide),
      hkept "symbolType" (by decide), given?_without hentry hvacant]
    simp only [Fields.given?, hsame "filter" (by decide)]

/-- A value that does not fit its field is reported, unless the field drops it,
    and then compiling the style is compiling it without the field. -/
theorem compile_misfit {style v : Value} {field : Field}
    (hsymbol : (Fields.symbol? style).isSome) (hgiven : givenFor? style field = some v)
    (hmisfit : ¬ FitsField field v) :
    (¬ Drops field v → IsReported style) ∧
      (Drops field v → givenFor? (withoutField style field) field = none ∧
        compile (withoutField style field) = compile style) := by
  refine ⟨isReported_of_not_fitsField hsymbol hgiven hmisfit, ?_⟩
  intro hdrops
  exact ⟨givenFor?_withoutField hsymbol field, compile_withoutField hsymbol hgiven hdrops⟩

/-- A color is no component of an offset. -/
theorem movedStar_isReported :
    givenFor? movedStar .offset = some (.sequence .list [.int 0, .string "red"]) ∧
      IsReported movedStar := by
  have hgiven : givenFor? movedStar .offset
      = some (.sequence .list [.int 0, .string "red"]) := by rfl
  have hmisfit : ¬ FitsField .offset (.sequence .list [.int 0, .string "red"]) := by
    rintro ⟨items, heq, -, hitems⟩
    obtain rfl := Option.some.inj heq
    have hred := (hitems (.string "red") (by simp)).2
    revert hred
    decide +kernel
  refine ⟨hgiven, (compile_misfit rfl hgiven hmisfit).1 ?_⟩
  rintro ⟨-, -, hvacant⟩
  simp [isVacant] at hvacant

/-- A square whose color is a number. -/
def zeroColor : Value :=
  .object [("symbol", .object [("symbolType", .string "square"), ("size", .int 4),
    ("color", .int 0)])]

/-- The number is no color, but the square is drawn in white. -/
theorem zeroColor_ignored :
    givenFor? zeroColor .color = some (.int 0) ∧ ¬ FitsField .color (.int 0) ∧
      (∃ compiled, (compile zeroColor).result = .ok compiled) ∧
      compile (withoutField zeroColor .color) = compile zeroColor := by
  have hgiven : givenFor? zeroColor .color = some (.int 0) := by rfl
  have hmisfit : ¬ FitsField .color (.int 0) := fun hfits => absurd hfits.2 (by decide)
  have hdrops : Drops .color (.int 0) := ⟨by decide, by decide, rfl⟩
  exact ⟨hgiven, hmisfit, exists_ok_of_isOk (by decide +kernel),
    compile_withoutField rfl hgiven hdrops⟩

end Style

end SymbolStyle

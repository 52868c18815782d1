import SymbolStyle.Proofs.Refusal
import SymbolStyle.Proofs.Style.Slots

/-! # Refused styles

    Which styles are refused, and with which error.

    The fields of a style are looked at one after another: first their shapes,
    then the expression in each place, then the shape of the symbol. The first
    check that fails decides the error. Whatever passes them is compiled, so no
    error comes from making code.

    * `Style.Rejected`: the checks in their order, and the error of each.
    * `Style.result_eq_error_iff`: a style is refused with an error exactly if
      that is the one of its first failing check.
    * `compile_checks_decide`: the checks alone decide whether a style compiles.
-/

namespace SymbolStyle

open Value

/-! ## Shapes of fields -/

/-- The value is a sequence of so many items. -/
def Value.HasCount (v : Value) (count : Nat) : Prop :=
  ∃ items, v.items? = some items ∧ items.length = count

namespace Fields

theorem pairOf_eq_ok_iff {field : Field} {v a b : Value} :
    pairOf field v = .ok (a, b) ↔ v.items? = some [a, b] := by
  unfold pairOf
  split
  · next x y hitems => simp [hitems]
  · next hitems =>
    constructor
    · intro h
      cases h
    · intro h
      exact absurd h (hitems a b)

theorem fourOf_eq_ok_iff {field : Field} {v a b c d : Value} :
    fourOf field v = .ok (a, b, c, d) ↔ v.items? = some [a, b, c, d] := by
  unfold fourOf
  split
  · next hitems => simp [hitems]
  · next hitems =>
    constructor
    · intro h
      cases h
    · intro h
      exact absurd h (hitems a b c d)

/-- A pair is refused if it has another number of components. -/
theorem pairOf_eq_error_iff {field : Field} {v : Value} {e : StyleError} :
    pairOf field v = .error e ↔ ¬ v.HasCount 2 ∧ e = .components field 2 v := by
  unfold pairOf
  split
  · next x y hitems => simp [HasCount, hitems]
  · next hitems =>
    have hcount : ¬ v.HasCount 2 := by
      rintro ⟨items, heq, hlength⟩
      obtain ⟨a, b, rfl⟩ := List.length_eq_two.1 hlength
      exact hitems a b heq
    simp [hcount, eq_comm]

/-- Four components are refused if there is another number of them. -/
theorem fourOf_eq_error_iff {field : Field} {v : Value} {e : StyleError} :
    fourOf field v = .error e ↔ ¬ v.HasCount 4 ∧ e = .components field 4 v := by
  unfold fourOf
  split
  · next hitems => simp [HasCount, hitems]
  · next hitems =>
    have hcount : ¬ v.HasCount 4 := by
      rintro ⟨items, heq, hlength⟩
      obtain ⟨a, b, c, d, rfl⟩ : ∃ a b c d, items = [a, b, c, d] := by
        match items, hlength with
        | [a, b, c, d], _ => exact ⟨a, b, c, d, rfl⟩
      exact hitems a b c d heq
    simp [hcount, eq_comm]

/-- The size starts as a pair of numbers does, but it is no pair. -/
def IsMisshapenSize (v : Value) : Prop :=
  (∃ first rest, v.items? = some (first :: rest) ∧ first.isNumber) ∧ ¬ v.HasCount 2

theorem sizeOf_eq_error_iff {v : Value} {e : StyleError} :
    sizeOf v = .error e ↔ IsMisshapenSize v ∧ e = .components .size 2 v := by
  unfold sizeOf IsMisshapenSize
  split
  · next first rest hitems =>
    by_cases hnumber : first.isNumber
    · simp [hnumber, hitems, pairOf_eq_error_iff]
    · simp [hnumber, hitems]
  · next hitems =>
    constructor
    · intro h
      cases h
    · rintro ⟨⟨⟨first, rest, heq, -⟩, -⟩, -⟩
      exact absurd heq (hitems first rest)

/-! Components are parts of what the style gives. -/

theorem isPart_of_items? {v item : Value} {items : List Value} (h : v.items? = some items)
    (hmem : item ∈ items) : item.IsPart v := by
  cases v with
  | sequence form found =>
    obtain rfl : found = items := Option.some.inj h
    exact .item hmem .refl
  | _ => simp [items?] at h

theorem isPart_of_pairOf {field : Field} {v : Value} {pair : Value × Value}
    (h : pairOf field v = .ok pair) : pair.1.IsPart v ∧ pair.2.IsPart v := by
  have hitems : v.items? = some [pair.1, pair.2] := pairOf_eq_ok_iff.1 h
  exact ⟨isPart_of_items? hitems (by simp), isPart_of_items? hitems (by simp)⟩

theorem isPart_of_fourOf {field : Field} {v : Value} {four : Value × Value × Value × Value}
    (h : fourOf field v = .ok four) : four.1.IsPart v ∧ four.2.1.IsPart v ∧
      four.2.2.1.IsPart v ∧ four.2.2.2.IsPart v := by
  have hitems : v.items? = some [four.1, four.2.1, four.2.2.1, four.2.2.2] := fourOf_eq_ok_iff.1 h
  exact ⟨isPart_of_items? hitems (by simp), isPart_of_items? hitems (by simp),
    isPart_of_items? hitems (by simp), isPart_of_items? hitems (by simp)⟩

theorem isPart_of_sizeOf {v : Value} {pair : Value × Value} (h : sizeOf v = .ok pair) :
    pair.1.IsPart v ∧ pair.2.IsPart v := by
  unfold sizeOf at h
  split at h
  · next first rest hitems =>
    by_cases hnumber : first.isNumber
    · rw [if_pos hnumber] at h
      exact isPart_of_pairOf h
    · rw [if_neg hnumber] at h
      obtain rfl := Except.ok.inj h
      exact ⟨.refl, .refl⟩
  · obtain rfl := Except.ok.inj h
    exact ⟨.refl, .refl⟩

end Fields

namespace Style

/-! ## Checks of a style in their order -/

/-- The first field of the style whose shape is wrong, with the number of
    components that it should have and the value that it has. -/
inductive FirstMisshapen (style : Value) : Field → Nat → Value → Prop
  | size (h : Fields.IsMisshapenSize (sizeIn style)) :
      FirstMisshapen style .size 2 (sizeIn style)
  | textureCoord (hsize : ¬ Fields.IsMisshapenSize (sizeIn style))
      (h : ¬ (textureCoordIn style).HasCount 4) :
      FirstMisshapen style .textureCoord 4 (textureCoordIn style)
  | offset (hsize : ¬ Fields.IsMisshapenSize (sizeIn style))
      (htextureCoord : (textureCoordIn style).HasCount 4) (h : ¬ (offsetIn style).HasCount 2) :
      FirstMisshapen style .offset 2 (offsetIn style)

/-- The expression is valid and of a kind that its place accepts. -/
def Acceptable (slot : Slot) (v : Value) : Prop :=
  v.validate = .ok () ∧ slot.expected.accepts v.kind

/-- The expression is not acceptable in its place, for the given reason. -/
inductive Unacceptable (slot : Slot) (v : Value) : StyleError → Prop
  | expression {e : ExpressionError} (h : v.validate = .error e) :
      Unacceptable slot v (.expression e)
  | wrongKind (hvalid : v.validate = .ok ()) (hkind : ¬ slot.expected.accepts v.kind) :
      Unacceptable slot v (.wrongKind slot v v.kind)

/-- The error is that of the first check that the style does not pass. -/
inductive Rejected (style : Value) : StyleError → Prop
  /-- There is no symbol. -/
  | noSymbol (h : Fields.symbol? style = none) : Rejected style .noSymbol
  /-- A field has the wrong shape. -/
  | components {field : Field} {count : Nat} {v : Value}
      (hsymbol : (Fields.symbol? style).isSome) (h : FirstMisshapen style field count v) :
      Rejected style (.components field count v)
  /-- An expression is wrong or in the wrong place, and none before it is. -/
  | slot {fields : Fields} {before after : List (Slot × Value)} {slot : Slot} {v : Value}
      {e : StyleError} (hfields : fields? style = some fields)
      (hslots : slots fields = before ++ (slot, v) :: after)
      (hbefore : ∀ place ∈ before, Acceptable place.1 place.2) (h : Unacceptable slot v e) :
      Rejected style e
  /-- All expressions are right, but no shape is named. -/
  | symbolType {fields : Fields} (hfields : fields? style = some fields)
      (hslots : ∀ place ∈ slots fields, Acceptable place.1 place.2)
      (h : ∀ shape : Symbol, fields.symbolType ≠ .string shape.name) :
      Rejected style (.unsupportedSymbol fields.symbolType)

/-! ### One check -/

theorem checkSlot_eq_error_iff {slot : Slot} {v : Value} {e : StyleError} :
    checkSlot slot v = .error e ↔ Unacceptable slot v e := by
  constructor
  · intro h
    unfold checkSlot at h
    cases hvalid : v.validate with
    | error e' =>
      rw [hvalid] at h
      obtain rfl := Except.error.inj h
      exact .expression hvalid
    | ok u =>
      -- Only a valid expression is asked for its kind.
      rw [hvalid] at h
      by_cases hkind : slot.expected.accepts v.kind
      · simp [hkind, Except.mapError, bind, Except.bind] at h
      · simp only [hkind, Except.mapError, bind, Except.bind] at h
        obtain rfl := Except.error.inj h
        exact .wrongKind hvalid hkind
  · intro h
    cases h with
    | expression hvalid => simp [checkSlot, hvalid, Except.mapError, bind, Except.bind]
    | wrongKind hvalid hkind => simp [checkSlot, hvalid, hkind, Except.mapError, bind, Except.bind]

/-- What its place accepts has a code there, whatever names are known. -/
theorem Acceptable.exists_hasCode {slot : Slot} {v : Value} (h : Acceptable slot v)
    (stem : String) : ∃ code, v.HasCode stem (wantedIn slot) code := by
  have htyped := v.validate_eq_ok_iff.1 h.1
  obtain ⟨tree, hlowers⟩ := htyped.exists_lowers (not_isMisplacedText_wantedIn htyped h.2)
  exact ⟨_, fun names => ⟨_, compile_of_lowers h.1 hlowers stem names⟩⟩

theorem shapeOf_eq_ok_iff {fields : Fields} {shape : Symbol} :
    shapeOf fields = .ok shape ↔ fields.symbolType = .string shape.name := by
  rw [← Symbol.ofValue?_eq_some_iff]
  unfold shapeOf
  cases Symbol.ofValue? fields.symbolType with
  | none => simp
  | some other => simp

theorem shapeOf_eq_error_iff {fields : Fields} {e : StyleError} :
    shapeOf fields = .error e ↔
      (∀ shape : Symbol, fields.symbolType ≠ .string shape.name) ∧
        e = .unsupportedSymbol fields.symbolType := by
  simp only [ne_eq, ← Symbol.ofValue?_eq_some_iff]
  unfold shapeOf
  cases Symbol.ofValue? fields.symbolType with
  | none => simp [eq_comm]
  | some other => simp

/-! ### All checks -/

theorem checkAll_eq_ok_iff {fields : Fields} :
    checkAll fields = .ok () ↔ ∀ place ∈ slots fields, Acceptable place.1 place.2 := by
  unfold checkAll
  simp only [forM_eq_ok_iff, checkSlot_eq_ok_iff, Acceptable]

theorem checkAll_eq_error_iff {fields : Fields} {e : StyleError} :
    checkAll fields = .error e ↔ ∃ before slot v after,
      slots fields = before ++ (slot, v) :: after ∧
        (∀ place ∈ before, Acceptable place.1 place.2) ∧ Unacceptable slot v e := by
  unfold checkAll
  rw [forM_eq_error_iff]
  simp only [checkSlot_eq_ok_iff, checkSlot_eq_error_iff, Acceptable, Prod.exists]

/-- The shapes of fields are checked one after another. -/
theorem ofSymbol_eq_error_iff {style symbol : Value} {e : StyleError}
    (hsymbol : Fields.symbol? style = some symbol) :
    Fields.ofSymbol style symbol = .error e ↔
      ∃ field count v, FirstMisshapen style field count v ∧ e = .components field count v := by
  unfold Fields.ofSymbol
  rw [← sizeIn_eq hsymbol, ← textureCoordIn_eq hsymbol, ← offsetIn_eq hsymbol]
  constructor
  · -- Each shape is only looked at if those before it are right.
    intro h
    rw [bind_eq_error_iff, Fields.sizeOf_eq_error_iff] at h
    rcases h with ⟨hmisshapen, rfl⟩ | ⟨size, hsize, h⟩
    · exact ⟨_, _, _, .size hmisshapen, rfl⟩
    have hsize : ¬ Fields.IsMisshapenSize (sizeIn style) := by
      intro hmisshapen
      rw [Fields.sizeOf_eq_error_iff.2 ⟨hmisshapen, rfl⟩] at hsize
      cases hsize
    rw [bind_eq_error_iff, Fields.fourOf_eq_error_iff] at h
    rcases h with ⟨hmisshapen, rfl⟩ | ⟨bounds, hbounds, h⟩
    · exact ⟨_, _, _, .textureCoord hsize hmisshapen, rfl⟩
    have hbounds : (textureCoordIn style).HasCount 4 :=
      ⟨_, Fields.fourOf_eq_ok_iff.1 hbounds, rfl⟩
    rw [bind_eq_error_iff, Fields.pairOf_eq_error_iff] at h
    rcases h with ⟨hmisshapen, rfl⟩ | ⟨offset, -, h⟩
    · exact ⟨_, _, _, .offset hsize hbounds hmisshapen, rfl⟩
    · cases h
  · rintro ⟨field, count, v, hfirst, rfl⟩
    cases hfirst with
    | size h =>
      rw [Fields.sizeOf_eq_error_iff.2 ⟨h, rfl⟩]
      rfl
    | textureCoord hsize h =>
      obtain ⟨size, hok⟩ := exists_ok_of_ne_error fun e he =>
        hsize (Fields.sizeOf_eq_error_iff.1 he).1
      rw [hok, Fields.fourOf_eq_error_iff.2 ⟨h, rfl⟩]
      rfl
    | offset hsize hbounds h =>
      obtain ⟨size, hok⟩ := exists_ok_of_ne_error fun e he =>
        hsize (Fields.sizeOf_eq_error_iff.1 he).1
      obtain ⟨bounds, hok'⟩ := exists_ok_of_ne_error fun e he =>
        (Fields.fourOf_eq_error_iff.1 he).1 hbounds
      rw [hok, hok', Fields.pairOf_eq_error_iff.2 ⟨h, rfl⟩]
      rfl

/-! ## What stands in the fields -/

/-- What a style is given for a field. -/
def givenFor? (style : Value) (field : Field) : Option Value :=
  if field = .filter then style.get? field.name else inSymbol? style field.name

/-- What stands in a field: what the style gives, or else a default. Only a filter
    has none. -/
def fieldIn? (style : Value) : Field → Option Value
  | .size => some (sizeIn style)
  | .offset => some (offsetIn style)
  | .textureCoord => some (textureCoordIn style)
  | .opacity => some ((inSymbol? style "opacity").getD (.int 1))
  | .color => some ((givenInSymbol? style "color").getD (.string "white"))
  | .filter => (style.get? "filter").bind Value.given?

/-- What stands in a field that is left out. -/
def defaultFor? : Field → Option Value
  | .size => some .null
  | .offset => some (Fields.wholeTuple [0, 0])
  | .textureCoord => some (Fields.wholeTuple [0, 0, 1, 1])
  | .opacity => some (.int 1)
  | .color => some (.string "white")
  | .filter => none

/-- What stands in a field is what the style is given for it or the default. -/
theorem fieldIn?_cases {style v : Value} {field : Field} (h : fieldIn? style field = some v) :
    givenFor? style field = some v ∨ defaultFor? field = some v := by
  have hgetD : ∀ {given : Option Value} {default : Value}, some (given.getD default) = some v →
      given = some v ∨ some default = some v := by
    intro given default heq
    cases given with
    | none => exact .inr heq
    | some w => exact .inl heq
  have hgiven : ∀ {entry : Option Value}, entry.bind Value.given? = some v → entry = some v := by
    intro entry heq
    obtain ⟨w, rfl, hw⟩ := Option.bind_eq_some_iff.1 heq
    unfold given? at hw
    split at hw
    · cases hw
    · exact hw
  cases field with
  -- A vacant size or opacity is not dropped.
  | size => exact hgetD h
  | opacity => exact hgetD h
  | filter => exact .inl (hgiven h)
  | _ => exact (hgetD h).imp_left hgiven

theorem FirstMisshapen.fieldIn?_eq_some {style v : Value} {field : Field} {count : Nat}
    (h : FirstMisshapen style field count v) : fieldIn? style field = some v := by
  cases h <;> rfl

/-- Every expression of the style is part of what stands in its field. -/
theorem exists_isPart_of_mem_slots {style : Value} {fields : Fields}
    (hfields : HasFields style fields) {place : Slot × Value} (hmem : place ∈ slots fields) :
    ∃ v, fieldIn? style place.1.field = some v ∧ place.2.IsPart v := by
  obtain ⟨hwidth, hheight⟩ := Fields.isPart_of_sizeOf hfields.size
  obtain ⟨hx, hy⟩ := Fields.isPart_of_pairOf hfields.offset
  obtain ⟨hleft, hbottom, hright, htop⟩ := Fields.isPart_of_fourOf hfields.textureCoord
  unfold slots at hmem
  rcases List.mem_append.1 hmem with hmem | hmem
  · simp only [List.mem_cons, List.not_mem_nil, or_false] at hmem
    rcases hmem with rfl | rfl | rfl | rfl | rfl | rfl | rfl | rfl | rfl | rfl
    · exact ⟨_, rfl, hwidth⟩
    · exact ⟨_, rfl, hheight⟩
    · exact ⟨_, rfl, hx⟩
    · exact ⟨_, rfl, hy⟩
    · exact ⟨_, rfl, hleft⟩
    · exact ⟨_, rfl, hbottom⟩
    · exact ⟨_, rfl, hright⟩
    · exact ⟨_, rfl, htop⟩
    · exact ⟨_, congrArg some hfields.opacity.symm, .refl⟩
    · exact ⟨_, congrArg some hfields.color.symm, .refl⟩
  · obtain ⟨v, hv, rfl⟩ := List.mem_map.1 hmem
    rw [Option.mem_toList, hfields.filter] at hv
    exact ⟨v, hv, .refl⟩

/-! ## Values of a style that can be written -/

/-- What is given, or else the default, can be written. -/
theorem hasLongInt_getD {given : Option Value} {default : Value}
    (hgiven : ∀ v, given = some v → v.hasLongInt = false) (hdefault : default.hasLongInt = false) :
    (given.getD default).hasLongInt = false := by
  cases given with
  | none => exact hdefault
  | some v => exact hgiven v rfl

section Writable

variable {style : Value} (hstyle : style.hasLongInt = false)

include hstyle

theorem hasLongInt_inSymbol? (name : String) (v : Value) (h : inSymbol? style name = some v) :
    v.hasLongInt = false := by
  unfold inSymbol? at h
  obtain ⟨symbol, hsymbol, hentry⟩ := Option.bind_eq_some_iff.1 h
  have hgiven : style.get? "symbol" = some symbol := (Option.filter_eq_some_iff.1 hsymbol).1
  exact hasLongInt_eq_false_of_get? hentry (hasLongInt_eq_false_of_get? hgiven hstyle)

theorem hasLongInt_givenInSymbol? (name : String) (v : Value)
    (h : givenInSymbol? style name = some v) : v.hasLongInt = false := by
  unfold givenInSymbol? at h
  obtain ⟨entry, hentry, hgiven⟩ := Option.bind_eq_some_iff.1 h
  exact hasLongInt_eq_false_of_given? hgiven (hasLongInt_inSymbol? hstyle name entry hentry)

theorem hasLongInt_givenFor? {field : Field} {v : Value} (h : givenFor? style field = some v) :
    v.hasLongInt = false := by
  unfold givenFor? at h
  by_cases hfilter : field = .filter
  · rw [if_pos hfilter] at h
    exact hasLongInt_eq_false_of_get? h hstyle
  · rw [if_neg hfilter] at h
    exact hasLongInt_inSymbol? hstyle _ v h

/-- What stands in a field can be written. -/
theorem hasLongInt_of_fieldIn? {field : Field} {v : Value} (h : fieldIn? style field = some v) :
    v.hasLongInt = false := by
  rcases fieldIn?_cases h with hgiven | hdefault
  · exact hasLongInt_givenFor? hstyle hgiven
  · cases field <;> cases hdefault <;> decide +kernel

/-- Every expression of the style can be written. -/
theorem hasLongInt_of_mem_slots {fields : Fields} (hfields : HasFields style fields)
    {place : Slot × Value} (hmem : place ∈ slots fields) : place.2.hasLongInt = false := by
  obtain ⟨v, hfield, hpart⟩ := exists_isPart_of_mem_slots hfields hmem
  exact hpart.hasLongInt_eq_false (hasLongInt_of_fieldIn? hstyle hfield)

/-- The source of an image can be written. -/
theorem isSome_display?_source {fields : Fields} (hfields : HasFields style fields)
    {source : Value} (h : fields.source = some source) : source.display?.isSome := by
  rw [hfields.source] at h
  exact isSome_display? (hasLongInt_givenInSymbol? hstyle _ source h)

end Writable

/-! ## Refusal -/

/-- After the shapes of the fields, all expressions are checked, then the symbol
    and its texture. -/
theorem result_eq_error_iff_of_fields {style symbol : Value} {fields : Fields} {e : StyleError}
    (hsymbol : Fields.symbol? style = some symbol)
    (hfields : Fields.ofSymbol style symbol = .ok fields) :
    (compile style).result = .error e ↔ checkAll fields = .error e ∨
      checkAll fields = .ok () ∧ (shapeOf fields = .error e ∨
        ∃ shape, shapeOf fields = .ok shape ∧ textureOf fields shape = .error e) := by
  rw [compile_result, hsymbol, Option.elim_some, compileSymbol_result hfields,
    ← forget_compileFields, forget_eq_error_iff, forget_eq_ok_iff]
  -- The last stage never fails.
  simp only [bind_eq_error_iff, pure, Except.pure, reduceCtorEq, and_false, exists_false, or_false,
    exists_and_right]

/-! The first check that fails, by how far the style has the shape of one. -/

section Rejected

variable {style symbol : Value} {e : StyleError}

theorem rejected_iff_of_no_symbol (h : Fields.symbol? style = none) :
    Rejected style e ↔ e = .noSymbol := by
  -- Without a symbol there are no fields to be wrong.
  have hfields : ∀ fields, fields? style ≠ some fields := by
    intro fields
    simp [fields?_eq_some_iff, h]
  constructor
  · intro hrejected
    cases hrejected with
    | noSymbol _ => rfl
    | components hsymbol _ => simp [h] at hsymbol
    | slot hsome _ _ _ => exact absurd hsome (hfields _)
    | symbolType hsome _ _ => exact absurd hsome (hfields _)
  · rintro rfl
    exact .noSymbol h

theorem rejected_iff_of_misshapen {cause : StyleError} (hsymbol : Fields.symbol? style = some symbol)
    (h : Fields.ofSymbol style symbol = .error cause) : Rejected style e ↔ e = cause := by
  have hfields : ∀ fields, fields? style ≠ some fields := by
    intro fields
    simp [fields?_eq_some_iff, hsymbol, h]
  constructor
  · intro hrejected
    cases hrejected with
    | noSymbol hnone => simp [hsymbol] at hnone
    | components _ hfirst =>
      have herror := (ofSymbol_eq_error_iff hsymbol).2 ⟨_, _, _, hfirst, rfl⟩
      exact Except.error.inj (herror.symm.trans h)
    | slot hsome _ _ _ => exact absurd hsome (hfields _)
    | symbolType hsome _ _ => exact absurd hsome (hfields _)
  · rintro rfl
    obtain ⟨field, count, v, hfirst, rfl⟩ := (ofSymbol_eq_error_iff hsymbol).1 h
    exact .components (by simp [hsymbol]) hfirst

theorem rejected_iff_of_fields {fields : Fields} (hsymbol : Fields.symbol? style = some symbol)
    (h : Fields.ofSymbol style symbol = .ok fields) :
    Rejected style e ↔ checkAll fields = .error e ∨
      checkAll fields = .ok () ∧ shapeOf fields = .error e := by
  have hfields : fields? style = some fields := fields?_eq_some_iff.2 ⟨symbol, hsymbol, h⟩
  rw [checkAll_eq_error_iff, checkAll_eq_ok_iff, shapeOf_eq_error_iff]
  constructor
  · intro hrejected
    cases hrejected with
    | noSymbol hnone => simp [hsymbol] at hnone
    | components _ hfirst =>
      have herror := (ofSymbol_eq_error_iff hsymbol).2 ⟨_, _, _, hfirst, rfl⟩
      rw [h] at herror
      cases herror
    | slot hsome hslots hbefore hreason =>
      obtain rfl := Option.some.inj (hfields.symm.trans hsome)
      exact .inl ⟨_, _, _, _, hslots, hbefore, hreason⟩
    | symbolType hsome hall hshape =>
      obtain rfl := Option.some.inj (hfields.symm.trans hsome)
      exact .inr ⟨hall, hshape, rfl⟩
  · rintro (⟨before, slot, v, after, hslots, hbefore, hreason⟩ | ⟨hall, hshape, rfl⟩)
    · exact .slot hfields hslots hbefore hreason
    · exact .symbolType hfields hall hshape

end Rejected

/-- An image of a style that can be written has a text for its source. -/
theorem textureOf_ne_error {style : Value} (hstyle : style.hasLongInt = false) {fields : Fields}
    (hfields : HasFields style fields) (shape : Symbol) (e : StyleError) :
    textureOf fields shape ≠ .error e := by
  intro herror
  rcases textureOf_cases fields shape with ⟨-, heq⟩ | ⟨source, -, hsource, htext⟩
  · rw [heq] at herror
    cases herror
  · have hdisplay := isSome_display?_source hstyle hfields hsource
    rcases htext with ⟨text, -, heq⟩ | ⟨hnone, -⟩
    · rw [heq] at herror
      cases herror
    · simp [hnone] at hdisplay

/-- A style whose numbers can be written is refused with an error exactly if it is
    the one of the first check that the style does not pass. -/
theorem result_eq_error_iff {style : Value} (hstyle : style.hasLongInt = false) {e : StyleError} :
    (compile style).result = .error e ↔ Rejected style e := by
  cases hsymbol : Fields.symbol? style with
  | none =>
    rw [rejected_iff_of_no_symbol hsymbol, compile_result, hsymbol, Option.elim_none,
      Except.error.injEq, eq_comm]
  | some symbol =>
    cases hfields : Fields.ofSymbol style symbol with
    | error cause =>
      have hresult : (compile style).result = .error cause := by
        rw [compile_result, hsymbol, Option.elim_some, compileSymbol, hfields]
        rfl
      rw [rejected_iff_of_misshapen hsymbol hfields, hresult, Except.error.injEq, eq_comm]
    | ok fields =>
      have hsome : fields? style = some fields :=
        fields?_eq_some_iff.2 ⟨symbol, hsymbol, hfields⟩
      have htexture := textureOf_ne_error hstyle (hasFields_of_fields? hsome)
      rw [rejected_iff_of_fields hsymbol hfields, result_eq_error_iff_of_fields hsymbol hfields]
      simp only [htexture, and_false, exists_false, or_false]

/-! ## What an error says -/

end Style

/-- The error is found by a check, and it is not about a color. -/
def StyleError.IsOfCheck : StyleError → Prop
  | noSymbol | components .. | wrongKind .. | unsupportedSymbol _ => True
  | expression e => e.IsGeneral
  | fault _ | unwritableSource _ => False

namespace Style

theorem Unacceptable.isOfCheck {slot : Slot} {v : Value} {e : StyleError}
    (h : Unacceptable slot v e) : e.IsOfCheck := by
  cases h with
  | expression h => exact (blames_of_validate_eq_error h).isGeneral
  | wrongKind _ _ => exact trivial

theorem Unacceptable.isSome_message? {slot : Slot} {v : Value} {e : StyleError}
    (h : Unacceptable slot v e) (hv : v.hasLongInt = false) : e.message?.isSome := by
  cases h with
  | expression h => exact (blames_of_validate_eq_error h).isSome_message? hv
  | wrongKind _ _ =>
    have hdescribe := isSome_describe?_iff.2 hv
    simpa [StyleError.message?, Option.isSome_bind] using hdescribe

theorem Rejected.isOfCheck {style : Value} {e : StyleError} (h : Rejected style e) :
    e.IsOfCheck := by
  cases h with
  | slot _ _ _ h => exact h.isOfCheck
  | _ => exact trivial

/-- The message for an error exists if all numbers of the style can be written. -/
theorem Rejected.isSome_message? {style : Value} {e : StyleError} (h : Rejected style e)
    (hstyle : style.hasLongInt = false) : e.message?.isSome := by
  cases h with
  | noSymbol h => rfl
  | @components field count v hsymbol h =>
    have hv : v.hasLongInt = false := hasLongInt_of_fieldIn? hstyle h.fieldIn?_eq_some
    have hdescribe := isSome_describe?_iff.2 hv
    simpa [StyleError.message?, Option.isSome_bind] using hdescribe
  | @slot fields before after slot v _ hfields hslots _ h =>
    have hmem : (slot, v) ∈ slots fields := by simp [hslots]
    exact h.isSome_message? (hasLongInt_of_mem_slots hstyle (hasFields_of_fields? hfields) hmem)
  | symbolType hfields _ _ =>
    have hv := hasLongInt_getD (hasLongInt_inSymbol? hstyle "symbolType") hasLongInt_null
    rw [← (hasFields_of_fields? hfields).symbolType] at hv
    have hplain := isSome_plain?_iff.2 hv
    simpa [StyleError.message?, Option.isSome_bind] using hplain

/-! ## The checks decide -/

/-- The style has the shape of one, all its expressions are right, and its symbol
    has a known shape. -/
def Passes (style : Value) : Prop :=
  ∃ fields, fields? style = some fields ∧
    (∀ place ∈ slots fields, Acceptable place.1 place.2) ∧
    ∃ shape : Symbol, fields.symbolType = .string shape.name

theorem Passes.not_rejected {style : Value} {e : StyleError} (h : Passes style) :
    ¬ Rejected style e := by
  obtain ⟨fields, hfields, hall, shape, hshape⟩ := h
  obtain ⟨symbol, hsymbol, hok⟩ := fields?_eq_some_iff.1 hfields
  rw [rejected_iff_of_fields hsymbol hok, checkAll_eq_ok_iff.2 hall, shapeOf_eq_ok_iff.2 hshape]
  simp

theorem Passes.of_compilation {style : Value} {compiled : CompiledStyle}
    (c : Compilation style compiled) : Passes style := by
  have hall : checkAll c.fields = .ok () := by
    rw [← forget_compileFields, forget_eq_ok_iff]
    exact ⟨c.trees, c.trees_eq⟩
  exact ⟨c.fields, c.fields?_eq, checkAll_eq_ok_iff.1 hall, c.shape,
    Symbol.ofValue?_eq_some_iff.1 c.shape_eq⟩

/-- After the checks all expressions are compiled, one after another; only the
    shape of the symbol can still be unknown. -/
theorem exists_compileAll_eq {fields : Fields} (h : checkAll fields = .ok ()) :
    ∃ codes names, compileAll fields = (shapeOf fields).map fun shape => (codes, shape, names) := by
  rw [← forget_compileFields, forget_eq_ok_iff] at h
  obtain ⟨trees, htrees⟩ := h
  exact ⟨_, _, compileAll_eq (placed_of_compileFields htrees)⟩

/-- The checks alone decide whether a style compiles. Its error is that of the
    first check that it does not pass, which can always be shown and never comes
    from making code: step by step, over whatever names are known, each
    expression that was checked is compiled. The style compiles if it passes. -/
theorem compile_checks_decide {style : Value} (hstyle : style.hasLongInt = false) :
    (∀ e, (compile style).result = .error e ↔ Rejected style e) ∧
    ((∃ compiled, (compile style).result = .ok compiled) ↔ Passes style) ∧
    (∀ e, (compile style).result = .error e → e.IsOfCheck ∧ e.message?.isSome) ∧
    assemble style = (compile style).result ∧
    ∀ fields, checkAll fields = .ok () →
      (∀ place ∈ slots fields, ∀ stem, ∃ code, place.2.HasCode stem (wantedIn place.1) code) ∧
      ∃ codes names,
        compileAll fields = (shapeOf fields).map fun shape => (codes, shape, names) := by
  have hrefused := fun e => result_eq_error_iff (e := e) hstyle
  refine ⟨hrefused, ⟨?_, ?_⟩, ?_, assemble_eq style, ?_⟩
  · rintro ⟨compiled, hcompile⟩
    obtain ⟨c⟩ := exists_compilation hcompile
    exact .of_compilation c
  · intro hpasses
    exact exists_ok_of_ne_error fun e he => hpasses.not_rejected ((hrefused e).1 he)
  · intro e he
    have hrejected := (hrefused e).1 he
    exact ⟨hrejected.isOfCheck, hrejected.isSome_message? hstyle⟩
  · intro fields hchecked
    refine ⟨?_, exists_compileAll_eq hchecked⟩
    intro place hmem stem
    exact (checkAll_eq_ok_iff.1 hchecked place hmem).exists_hasCode stem

/-- A star that a color moves. -/
def movedStar : Value :=
  .object [("symbol", .object [("symbolType", .string "star"), ("size", .int 4),
    ("offset", .sequence .list [.int 0, .string "red"])])]

/-- There is no such shape, but the color comes first. -/
theorem movedStar_refused :
    movedStar.hasLongInt = false ∧
      (compile movedStar).result
        = .error (.wrongKind ⟨.offset, some 1⟩ (.string "red") .colorOrString) ∧
      assemble movedStar = (compile movedStar).result := by
  have hstyle : movedStar.hasLongInt = false := by decide +kernel
  obtain ⟨hrefused, -, -, hassemble, -⟩ := compile_checks_decide hstyle
  have hnumber : ∀ n : Int, (Value.int n).isFiniteNumber →
      ∀ slot : Slot, slot.expected = .number → Acceptable slot (.int n) := by
    intro n hfinite slot hslot
    refine ⟨(WellTyped.number hfinite).validate_eq_ok, ?_⟩
    rw [hslot]
    rfl
  have hsize := hnumber 4 (by decide +kernel)
  have hzero := hnumber 0 (by decide +kernel)
  have hkind : (Value.string "red").kind = .colorOrString := by decide +kernel
  have hvalid : (Value.string "red").validate = .ok () :=
    (WellTyped.colorText (by decide +kernel)).validate_eq_ok
  have hreason : Unacceptable ⟨.offset, some 1⟩ (.string "red")
      (.wrongKind ⟨.offset, some 1⟩ (.string "red") .colorOrString) := by
    rw [← hkind]
    refine .wrongKind hvalid ?_
    rw [hkind]
    decide
  have hbefore : ∀ place ∈ [((⟨.size, some 0⟩ : Slot), Value.int 4), (⟨.size, some 1⟩, .int 4),
      (⟨.offset, some 0⟩, .int 0)], Acceptable place.1 place.2 := by
    simp only [List.forall_mem_cons, List.not_mem_nil, false_implies, implies_true, and_true]
    exact ⟨hsize _ rfl, hsize _ rfl, hzero _ rfl⟩
  exact ⟨hstyle, (hrefused _).2 (.slot rfl rfl hbefore hreason), hassemble⟩

end Style

end SymbolStyle

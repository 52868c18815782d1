import Mathlib.Data.List.Forall2
import SymbolStyle.Proofs.Style.Inputs
import SymbolStyle.Proofs.Style.Slots
import SymbolStyle.Style.Features

/-! # The attribute buffer

    The table of attribute values has the columns that the shaders declare.

    * `Features.table_eq_error_iff`: a table of features fails as the first of
      its entries in row order; `Features.table_append_eq_ok_iff` and
      `Features.table_append_eq_error_iff`: features can be split.
    * `Style.Supplies`: the attributes of a compiled style are those that its
      expressions read, and its program declares them in the same order.
-/

namespace SymbolStyle

/-! ## Tables of features -/

/-- Values are computed one by one if each of them is. -/
theorem mapM_eq_ok_iff {ε α β : Type} {f : α → Except ε β} {xs : List α} {ys : List β} :
    xs.mapM f = .ok ys ↔ List.Forall₂ (fun x y => f x = .ok y) xs ys := by
  induction xs generalizing ys with
  | nil => simp [pure, Except.pure, List.forall₂_nil_left_iff, eq_comm]
  | cons x xs ih =>
    rw [mapM_cons_eq_ok_iff, List.forall₂_cons_left_iff]
    simp only [ih, eq_comm, exists_and_left]

namespace Features

variable {names : List String} {features : List Value} {t : Table} {e : ConversionError}

/-- The number is the value of an attribute for a feature, in single precision:
    that of the property, or that of zero if there is none or it is vacant. -/
inductive IsEntry (feature : Value) (name : String) (x : Double) : Prop where
  | property {v : Value} (hv : feature.get? name = some v) (hgiven : v.isVacant = false)
      (hx : single v = .ok x)
  | zero (hmissing : ∀ v, feature.get? name = some v → v.isVacant) (hx : single (.int 0) = .ok x)

theorem propertyOf_of_given {feature v : Value} {name : String}
    (hv : feature.get? name = some v) (hgiven : v.isVacant = false) :
    propertyOf feature name = v := by
  simp [propertyOf, hv, Value.given?, hgiven]

theorem propertyOf_of_missing {feature : Value} {name : String}
    (hmissing : ∀ v, feature.get? name = some v → v.isVacant) :
    propertyOf feature name = .int 0 := by
  cases hget : feature.get? name with
  | none => simp [propertyOf, hget]
  | some v => simp [propertyOf, hget, Value.given?, hmissing v hget]

theorem isEntry_iff {feature : Value} {name : String} {x : Double} :
    IsEntry feature name x ↔ single (propertyOf feature name) = .ok x := by
  constructor
  · intro h
    cases h with
    | property hv hgiven hx => rwa [propertyOf_of_given hv hgiven]
    | zero hmissing hx => rwa [propertyOf_of_missing hmissing]
  · intro hx
    by_cases hgiven : ∃ v, feature.get? name = some v ∧ v.isVacant = false
    · obtain ⟨v, hv, hgiven⟩ := hgiven
      rw [propertyOf_of_given hv hgiven] at hx
      exact .property hv hgiven hx
    · have hmissing : ∀ v, feature.get? name = some v → v.isVacant := by simpa using hgiven
      rw [propertyOf_of_missing hmissing] at hx
      exact .zero hmissing hx

/-- The values behind the entries of a table, row by row. -/
def cells (names : List String) (features : List Value) : List Value :=
  features.flatMap fun feature => names.map (propertyOf feature)

theorem row_eq_mapM (feature : Value) :
    row names feature = (names.map (propertyOf feature)).mapM single := by
  rw [List.mapM_map]
  rfl

/-- The rows fail as the sequence of all values behind them does. -/
theorem rows_eq_error_iff :
    rows names features = .error e ↔ (cells names features).mapM single = .error e := by
  -- Row order is the order of the values: a row's own first, then those of the
  -- rows below it.
  induction features with
  | nil => simp [rows, cells, pure, Except.pure]
  | cons feature features ih =>
    have hcells : cells names (feature :: features)
        = names.map (propertyOf feature) ++ cells names features := rfl
    rw [hcells, mapM_append_eq_error_iff, ← ih, ← row_eq_mapM, rows, mapM_cons_eq_error_iff, rows]

theorem table_eq_ok_iff :
    table names features = .ok t ↔ t.rowCount = features.length ∧
      t.columnCount = names.length ∧ rows names features = .ok t.rows := by
  unfold table
  split
  · next values hrows =>
    obtain ⟨rowCount, columnCount, rows, _, _⟩ := t
    simp only [hrows, Except.ok.injEq, Table.mk.injEq]
    tauto
  · next e hrows => simp [hrows]

theorem table_eq_error_iff_rows :
    table names features = .error e ↔ rows names features = .error e := by
  unfold table
  split
  · next values hrows => simp [hrows]
  · next e' hrows => simp [hrows]

/-- A table fails as the first of its entries that does, in row order. -/
theorem table_eq_error_iff :
    table names features = .error e ↔ ∃ before v after,
      cells names features = before ++ v :: after ∧
        (∀ u ∈ before, ∃ x, single u = .ok x) ∧ single v = .error e := by
  rw [table_eq_error_iff_rows, rows_eq_error_iff, mapM_eq_error_iff]

/-- The table has a row for each feature and a column for each name, and its
    entries are the values of the attributes. -/
structure IsTableOf (names : List String) (features : List Value) (t : Table) : Prop where
  rowCount : t.rowCount = features.length
  columnCount : t.columnCount = names.length
  entries : List.Forall₂ (fun feature row => List.Forall₂ (IsEntry feature) names row) features
    t.rows

/-- A table of features is determined by what its entries are. -/
theorem table_eq_ok_iff_isTableOf : table names features = .ok t ↔ IsTableOf names features t := by
  have hrow : ∀ feature values, row names feature = .ok values ↔
      List.Forall₂ (IsEntry feature) names values := by
    intro feature values
    rw [row, mapM_eq_ok_iff]
    exact forall₂_congr_mem fun name x _ => isEntry_iff.symm
  rw [table_eq_ok_iff, rows, mapM_eq_ok_iff,
    forall₂_congr_mem fun feature row _ => hrow feature row]
  exact ⟨fun ⟨hrows, hcolumns, hentries⟩ => ⟨hrows, hcolumns, hentries⟩,
    fun ⟨hrows, hcolumns, hentries⟩ => ⟨hrows, hcolumns, hentries⟩⟩

/-! ### Features that are split -/

variable {first second : List Value}

theorem exists_table_of_rows {values : List (List Double)}
    (h : rows names features = .ok values) :
    ∃ t, table names features = .ok t ∧ t.rowCount = features.length ∧ t.rows = values := by
  let t : Table := ⟨features.length, names.length, values, (length_and_mem_of_mapM_eq_ok h).1,
    length_of_mem_rows h⟩
  exact ⟨t, table_eq_ok_iff.2 ⟨rfl, rfl, h⟩, rfl, rfl⟩

/-- The table of features in two parts has the rows of the tables of both. -/
theorem table_append_eq_ok_iff :
    table names (first ++ second) = .ok t ↔ ∃ top bottom, table names first = .ok top ∧
      table names second = .ok bottom ∧ t.rowCount = top.rowCount + bottom.rowCount ∧
      t.columnCount = names.length ∧ t.rows = top.rows ++ bottom.rows := by
  constructor
  · intro h
    obtain ⟨hcount, hcolumns, hrows⟩ := table_eq_ok_iff.1 h
    rw [rows, mapM_append_eq_ok_iff] at hrows
    obtain ⟨above, below, habove, hbelow, hsplit⟩ := hrows
    obtain ⟨top, htop, htopCount, rfl⟩ := exists_table_of_rows habove
    obtain ⟨bottom, hbottom, hbottomCount, rfl⟩ := exists_table_of_rows hbelow
    refine ⟨top, bottom, htop, hbottom, ?_, hcolumns, hsplit.symm⟩
    rw [hcount, htopCount, hbottomCount, List.length_append]
  · rintro ⟨top, bottom, htop, hbottom, hcount, hcolumns, hsplit⟩
    obtain ⟨htopCount, -, habove⟩ := table_eq_ok_iff.1 htop
    obtain ⟨hbottomCount, -, hbelow⟩ := table_eq_ok_iff.1 hbottom
    rw [table_eq_ok_iff, rows, mapM_append_eq_ok_iff]
    refine ⟨?_, hcolumns, top.rows, bottom.rows, habove, hbelow, hsplit.symm⟩
    rw [hcount, htopCount, hbottomCount, List.length_append]

/-- It fails if one of the tables does, and the first of them decides the
    error. -/
theorem table_append_eq_error_iff :
    table names (first ++ second) = .error e ↔ table names first = .error e ∨
      (∃ top, table names first = .ok top) ∧ table names second = .error e := by
  -- A table exists exactly if its rows do: their shape never fails.
  have hok : (∃ top, table names first = .ok top) ↔ ∃ values, rows names first = .ok values := by
    constructor
    · rintro ⟨top, htop⟩
      exact ⟨top.rows, (table_eq_ok_iff.1 htop).2.2⟩
    · rintro ⟨values, hvalues⟩
      obtain ⟨top, htop, -⟩ := exists_table_of_rows hvalues
      exact ⟨top, htop⟩
  rw [table_eq_error_iff_rows, table_eq_error_iff_rows, table_eq_error_iff_rows, hok, rows,
    mapM_append_eq_error_iff, exists_and_right]
  rfl

end Features

/-! ## Attributes of a compiled style -/

namespace Style

/-- The attributes of a compiled style are those that its expressions read, and
    its program declares them. -/
structure Supplies (fields : Fields) (compiled : CompiledStyle) : Prop where
  nodup : compiled.attributes.Nodup
  mem_iff : ∀ name, name ∈ compiled.attributes ↔
    ∃ v ∈ allExpressions fields, Reads v (.attribute name)
  /-- Those of the vertex shader come first. -/
  vertex_first : ∃ vertex rest, compiled.attributes = vertex ++ rest ∧
    ∀ name, name ∈ vertex ↔ ∃ v ∈ vertexExpressions fields, Reads v (.attribute name)
  /-- They are declared in the same order. -/
  declared : compiled.program.attributes = compiled.attributes.map ("float a_" ++ ·)
  /-- Those of the fragment shader are carried by a varying each. -/
  carried : ∃ names : List String, names.Nodup ∧
    (∀ name, name ∈ names ↔ ∃ v ∈ fragmentExpressions fields, Reads v (.attribute name)) ∧
    compiled.program.varyings = names.map fun name => ⟨"v_" ++ name, "float", "a_" ++ name⟩

theorem attributesOf_nodup (expressions : List Value) : (attributesOf expressions).Nodup :=
  (register_appendsOnce [] _).nodup .nil

end Style

namespace Compilation

variable {style : Value} {compiled : CompiledStyle} (c : Compilation style compiled)

include c

theorem supplies : Style.Supplies c.fields compiled := by
  -- Attributes of the fragment shader are appended unless they are there.
  have happends := register_appendsOnce (Style.attributesOf (Style.vertexExpressions c.fields))
    (Style.attributesOf (Style.fragmentExpressions c.fields))
  constructor
  · rw [c.attributes_eq]
    exact happends.nodup (Style.attributesOf_nodup _)
  · intro name
    rw [c.attributes_eq, c.mem_allAttributes_iff, c.readsInput_iff]
  · obtain ⟨rest, hrest, -⟩ := happends
    refine ⟨Style.attributesOf (Style.vertexExpressions c.fields), rest, ?_, ?_⟩
    · rw [c.attributes_eq, ← hrest]
      rfl
    · intro name
      exact c.mem_attributesOf_iff fun v hv => c.mem_allExpressions_of_vertex hv
  · rw [c.attributes_eq, c.program_eq]
    rfl
  · refine ⟨Style.attributesOf (Style.fragmentExpressions c.fields), Style.attributesOf_nodup _,
      ?_, c.varyings_eq⟩
    intro name
    rw [c.mem_fragmentAttributes_iff, c.fragmentReads_iff]

end Compilation

namespace Style

/-- A compiled style reads certain attributes and declares them, and the table
    of these attributes for any features has a column for each, in the same
    order. Features can be split, and the first entry that is no number decides
    the error. -/
theorem compile_supplies {style : Value} {compiled : CompiledStyle}
    (h : (compile style).result = .ok compiled) :
    (∃ fields, HasFields style fields ∧ Supplies fields compiled) ∧
      (∀ features t, Features.table compiled.attributes features = .ok t →
        Features.IsTableOf compiled.attributes features t) ∧
      (∀ first second t, Features.table compiled.attributes (first ++ second) = .ok t ↔
        ∃ top bottom, Features.table compiled.attributes first = .ok top ∧
          Features.table compiled.attributes second = .ok bottom ∧
          t.rowCount = top.rowCount + bottom.rowCount ∧
          t.columnCount = compiled.attributes.length ∧ t.rows = top.rows ++ bottom.rows) ∧
      (∀ first second e, Features.table compiled.attributes (first ++ second) = .error e ↔
        Features.table compiled.attributes first = .error e ∨
          (∃ top, Features.table compiled.attributes first = .ok top) ∧
            Features.table compiled.attributes second = .error e) ∧
      ∀ features e, Features.table compiled.attributes features = .error e ↔
        ∃ before v after, Features.cells compiled.attributes features = before ++ v :: after ∧
          (∀ u ∈ before, ∃ x, Features.single u = .ok x) ∧ Features.single v = .error e := by
  obtain ⟨c⟩ := exists_compilation h
  refine ⟨⟨c.fields, c.hasFields, c.supplies⟩, ?_, ?_, ?_, ?_⟩
  · intro features t htable
    exact Features.table_eq_ok_iff_isTableOf.1 htable
  · intro first second t
    exact Features.table_append_eq_ok_iff
  · intro first second e
    exact Features.table_append_eq_error_iff
  · intro features e
    exact Features.table_eq_error_iff

/-- A square that moves and fades as properties say. -/
def fadingSquare : Value :=
  .object [("symbol", .object [("symbolType", .string "square"), ("size", .int 4),
    ("offset", .sequence .list [.sequence .list [.string "get", .string "shift"], .int 0]),
    ("opacity", .sequence .list [.string "get", .string "fade"])])]

/-- A feature that does not say how it fades. -/
def shifted : Value := .object [("shift", .int 2)]

/-- Both properties are attributes, the fading as a varying too. The table of the
    feature has an entry for each. -/
theorem fadingSquare_supplies :
    ∃ compiled t, (compile fadingSquare).result = .ok compiled ∧
      compiled.attributes = ["shift", "fade"] ∧
      (∃ fields, HasFields fadingSquare fields ∧ Supplies fields compiled) ∧
      Features.table compiled.attributes [shifted] = .ok t ∧
      Features.IsTableOf compiled.attributes [shifted] t := by
  have hok : (compile fadingSquare).result.isOk := by decide +kernel
  obtain ⟨compiled, hcompile⟩ := exists_ok_of_isOk hok
  obtain ⟨c⟩ := exists_compilation hcompile
  have hnames : (fields? fadingSquare).map allAttributes = some ["shift", "fade"] := by
    decide +kernel
  have hattributes : compiled.attributes = ["shift", "fade"] := by
    rw [c.fields?_eq] at hnames
    rw [c.attributes_eq]
    exact Option.some.inj hnames
  have htable : (Features.table ["shift", "fade"] [shifted]).isOk := by decide +kernel
  obtain ⟨t, ht⟩ : ∃ t, Features.table compiled.attributes [shifted] = .ok t := by
    rw [hattributes]
    cases hresult : Features.table ["shift", "fade"] [shifted] with
    | error e => simp [hresult, Except.isOk, Except.toBool] at htable
    | ok t => exact ⟨t, rfl⟩
  obtain ⟨hsupplies, hentries, -⟩ := compile_supplies hcompile
  exact ⟨compiled, t, hcompile, hattributes, hsupplies, ht, hentries [shifted] t ht⟩

end Style

end SymbolStyle

import SymbolStyle.Glsl.Constant
import SymbolStyle.Sequence

/-! # Features

    The values of attributes for the features that are drawn: the buffer that
    feeds the vertex shader, a row per feature and a column per attribute, in
    single precision.

    A table has a shape of its own. It can have rows but no columns, if no
    attribute is read, or columns but no rows, if there are no features.
-/

namespace SymbolStyle.Features

/-- The value of an attribute for a feature: its property of that name, or
    zero if there is none or it is vacant. -/
def propertyOf (feature : Value) (name : String) : Value :=
  ((feature.get? name).bind Value.given?).getD (.int 0)

/-- A value in single precision. -/
def single (v : Value) : Except ConversionError Double := v.toDouble.map Double.toSingle

/-- The row of a feature. -/
def row (names : List String) (feature : Value) : Except ConversionError (List Double) :=
  names.mapM fun name => single (propertyOf feature name)

/-- The rows of features. The first value that is no number decides the
    error. -/
def rows (names : List String) (features : List Value) :
    Except ConversionError (List (List Double)) :=
  features.mapM (row names)

/-- A table of numbers, given by its rows. -/
structure Table where
  rowCount : Nat
  columnCount : Nat
  rows : List (List Double)
  length_rows : rows.length = rowCount
  length_of_mem_rows : ∀ row ∈ rows, row.length = columnCount

theorem length_of_row {names : List String} {feature : Value} {values : List Double}
    (h : row names feature = .ok values) : values.length = names.length :=
  (length_and_mem_of_mapM_eq_ok h).1

theorem length_of_mem_rows {names : List String} {features : List Value}
    {values : List (List Double)} (h : rows names features = .ok values) :
    ∀ row ∈ values, row.length = names.length := by
  intro row hrow
  obtain ⟨feature, -, hfeature⟩ := (length_and_mem_of_mapM_eq_ok h).2 row hrow
  exact length_of_row hfeature

/-- The table of features. -/
def table (names : List String) (features : List Value) : Except ConversionError Table :=
  match h : rows names features with
  | .ok values => .ok {
      rowCount := features.length
      columnCount := names.length
      rows := values
      length_rows := (length_and_mem_of_mapM_eq_ok h).1
      length_of_mem_rows := length_of_mem_rows h }
  | .error e => .error e

end SymbolStyle.Features

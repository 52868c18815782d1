import SymbolStyle.Expression.Names
import SymbolStyle.Glsl

/-! # Pieces of code

    Code as pieces: readings of names, and what is written between them. Only
    the readings of attributes depend on the stem under which the code is
    written.

    * `Expr.pieces`: the pieces of an expression. `render_eq_pieces`: one after
      another they are its text.
    * `Expr.readings`: what is read in them, from left to right.
-/

namespace SymbolStyle.Glsl

/-- A piece of code. -/
inductive Piece where
  /-- What is written under any stem. The clock is such a piece, since it is no
      name of a style. -/
  | plain (text : List Char)
  /-- A name behind its stem. -/
  | reading (r : Reading)
  deriving DecidableEq

namespace Piece

/-- The text of a piece, with `stem` in front of the name of an attribute. -/
def render (stem : String) : Piece → List Char
  | .plain text => text
  | .reading (.attribute name) => stem.toList ++ name.toList
  | .reading (.variable name) => variableStem.toList ++ name.toList

/-- What is read in pieces, in order. -/
def readings (pieces : List Piece) : List Reading :=
  pieces.filterMap fun
    | .plain _ => none
    | .reading r => some r

@[simp] theorem readings_nil : readings [] = [] := rfl

@[simp] theorem readings_plain (text : List Char) (pieces : List Piece) :
    readings (.plain text :: pieces) = readings pieces := rfl

@[simp] theorem readings_reading (r : Reading) (pieces : List Piece) :
    readings (.reading r :: pieces) = r :: readings pieces := rfl

@[simp] theorem readings_append (front back : List Piece) :
    readings (front ++ back) = readings front ++ readings back := List.filterMap_append

theorem readings_intercalate (text : List Char) (xs : List (List Piece)) :
    readings ([.plain text].intercalate xs) = xs.flatMap readings := by
  induction xs with
  | nil => rfl
  | cons x xs ih =>
    cases xs with
    | nil => simp
    | cons y xs =>
      rw [List.intercalate_cons_cons, readings_append, readings_append, ih]
      simp

end Piece

namespace Expr

mutual

/-- The pieces of the text of an expression, in order. -/
def pieces : Expr → List Piece
  | .literal number => [.plain number.text]
  | .quoted text => [.plain ('"' :: text.toList ++ ['"'])]
  | .attribute name => [.reading (.attribute name)]
  | .variable name => [.reading (.variable name)]
  | .time => [.plain timeName.toList]
  | .binary op left right =>
    pieces left ++ .plain (' ' :: op.text.toList ++ [' ']) :: pieces right
  | .choice condition yes no =>
    pieces condition ++ .plain " ? ".toList :: pieces yes ++ .plain " : ".toList :: pieces no
  | .call function arguments =>
    .plain (function.name.toList ++ ['('])
      :: [.plain [',', ' ']].intercalate (piecesOfAll arguments) ++ [.plain [')']]
  | .group inner => .plain ['('] :: pieces inner ++ [.plain [')']]

/-- The pieces of each of several expressions. -/
def piecesOfAll : List Expr → List (List Piece)
  | [] => []
  | e :: es => pieces e :: piecesOfAll es

end

/-- What is read in an expression, from left to right, repetitions included. -/
def readings (e : Expr) : List Reading := Piece.readings e.pieces

end Expr

/-! ## The text of pieces -/

theorem flatMap_intercalate {α β : Type} (f : α → List β) (between : List α)
    (xs : List (List α)) :
    (between.intercalate xs).flatMap f
      = (between.flatMap f).intercalate (xs.map (·.flatMap f)) := by
  induction xs with
  | nil => simp
  | cons x xs ih =>
    cases xs with
    | nil => simp
    | cons y xs =>
      rw [List.intercalate_cons_cons, List.flatMap_append, List.flatMap_append, ih, List.map_cons,
        List.map_cons, List.map_cons, List.intercalate_cons_cons]

namespace Expr

mutual

/-- The pieces of an expression, one after another, are its text. -/
theorem render_eq_pieces (stem : String) (e : Expr) :
    e.render stem = e.pieces.flatMap (Piece.render stem) := by
  cases e with
  | binary op left right =>
    have hleft := render_eq_pieces stem left
    have hright := render_eq_pieces stem right
    simp [render, pieces, Piece.render, hleft, hright]
  | choice condition yes no =>
    have hcondition := render_eq_pieces stem condition
    have hyes := render_eq_pieces stem yes
    have hno := render_eq_pieces stem no
    simp [render, pieces, Piece.render, hcondition, hyes, hno]
  | call function arguments =>
    have harguments := renderAll_eq_pieces stem arguments
    simp [render, pieces, Piece.render, harguments, flatMap_intercalate]
  | group inner =>
    have hinner := render_eq_pieces stem inner
    simp [render, pieces, Piece.render, hinner]
  | _ => simp [render, pieces, Piece.render]

theorem renderAll_eq_pieces (stem : String) (es : List Expr) :
    renderAll stem es = (piecesOfAll es).map (·.flatMap (Piece.render stem)) := by
  cases es with
  | nil => rfl
  | cons e es =>
    have hhead := render_eq_pieces stem e
    have htail := renderAll_eq_pieces stem es
    simp [renderAll, piecesOfAll, hhead, htail]

end

theorem text_eq_pieces (stem : String) (e : Expr) :
    e.text stem = String.ofList (e.pieces.flatMap (Piece.render stem)) := by
  rw [text, render_eq_pieces]

/-! ## What trees read -/

theorem piecesOfAll_eq_map (es : List Expr) : piecesOfAll es = es.map pieces := by
  induction es with
  | nil => rfl
  | cons e es ih => rw [piecesOfAll, ih, List.map_cons]

@[simp] theorem readings_literal (l : Literal) : (Expr.literal l).readings = [] := rfl

@[simp] theorem readings_quoted (text : String) : (Expr.quoted text).readings = [] := rfl

@[simp] theorem readings_attribute (name : String) :
    (Expr.attribute name).readings = [.attribute name] := rfl

@[simp] theorem readings_variable (name : String) :
    (Expr.variable name).readings = [.variable name] := rfl

@[simp] theorem readings_time : Expr.time.readings = [] := rfl

@[simp] theorem readings_binary (op : BinaryOperator) (left right : Expr) :
    (Expr.binary op left right).readings = left.readings ++ right.readings := by
  simp [readings, pieces]

@[simp] theorem readings_choice (condition yes no : Expr) :
    (Expr.choice condition yes no).readings
      = condition.readings ++ (yes.readings ++ no.readings) := by
  simp [readings, pieces]

@[simp] theorem readings_call (function : Function) (arguments : List Expr) :
    (Expr.call function arguments).readings = arguments.flatMap readings := by
  simp [readings, pieces, Piece.readings_intercalate, piecesOfAll_eq_map, List.flatMap_map]
  rfl

@[simp] theorem readings_group (inner : Expr) : (Expr.group inner).readings = inner.readings := by
  simp [readings, pieces]

end Expr

/-! ## Names that are read -/

namespace Piece

/-- The attribute that is read in a piece. -/
def attributeName? : Piece → Option String
  | .reading (.attribute name) => some name
  | _ => none

/-- The variable that is read in a piece. -/
def variableName? : Piece → Option String
  | .reading (.variable name) => some name
  | _ => none

theorem attributeName?_eq_some_iff (piece : Piece) (name : String) :
    piece.attributeName? = some name ↔ piece = .reading (.attribute name) := by
  rcases piece with _ | _ | _ <;> simp [attributeName?]

theorem variableName?_eq_some_iff (piece : Piece) (name : String) :
    piece.variableName? = some name ↔ piece = .reading (.variable name) := by
  rcases piece with _ | _ | _ <;> simp [variableName?]

theorem attributeNames_readings (pieces : List Piece) :
    Reading.attributeNames (readings pieces) = pieces.filterMap attributeName? := by
  unfold Reading.attributeNames readings
  rw [List.filterMap_filterMap]
  congr 1
  funext piece
  rcases piece with _ | _ | _ <;> rfl

theorem variableNames_readings (pieces : List Piece) :
    Reading.variableNames (readings pieces) = pieces.filterMap variableName? := by
  unfold Reading.variableNames readings
  rw [List.filterMap_filterMap]
  congr 1
  funext piece
  rcases piece with _ | _ | _ <;> rfl

end Piece

end SymbolStyle.Glsl

import SymbolStyle.Number.Rounding
import SymbolStyle.Terminal.Lines

/-! # Rules and tables

    Text laid out in columns of the terminal.

    * A column is as wide as its widest cell, with a blank on either side. If
      the terminal is too narrow for that, the widest columns give way.
    * A cell of several lines makes its row as high.
-/

namespace SymbolStyle.Terminal

/-- A text repeated. -/
def repeated (n : Nat) (text : Char) : String := String.ofList (List.replicate n text)

/-- A text in the middle of a line that is filled with a character; if the
    fill is uneven, the right side has one more. -/
def centered (width : Nat) (fill : Char) (text : String) : String :=
  let space := width - text.length
  repeated (space / 2) fill ++ text ++ repeated (space - space / 2) fill

/-- A rule across the terminal with a title in it. -/
def rule (title : String) : String := centered terminalWidth '─' (" " ++ title ++ " ")

/-! ### Widths of columns -/

/-- Takes cells off the columns of the greatest width: even shares of what is
    to be taken off all of them, but no more than a limit off each. `columns`
    counts those that are still to give. -/
def takeOff (greatest limit : Nat) (columns excess : Nat) : List Nat → List Nat
  | [] => []
  | w :: ws =>
    if w = greatest then
      let off := min limit (roundQuotient excess columns)
      (w - off) :: takeOff greatest limit (columns - 1) (excess - off) ws
    else w :: takeOff greatest limit columns excess ws

/-- The cells that columns take together. -/
def cells (widths : List Nat) : Nat := widths.foldl (· + ·) 0

/-- Makes columns narrower until they fit. The widest ones give way until they
    are as narrow as the next ones. Every step takes at least one cell, so as
    many steps as there are cells too many are enough. -/
def narrowed (available : Nat) : Nat → List Nat → List Nat
  | 0, widths => widths
  | steps + 1, widths =>
    let excess := cells widths - available
    if excess = 0 then widths
    else
      let greatest := widths.foldl max 0
      let next := (widths.filter (· ≠ greatest)).foldl max 0
      narrowed available steps <|
        takeOff greatest (min excess (greatest - next)) (widths.count greatest) excess widths

/-- The widths of the columns of a table, with the blanks on either side of
    the cells. One more bar than there are columns takes room, too. -/
def columnWidths (header : List (List Char)) (rows : List (List (List Char))) : List Nat :=
  let available := terminalWidth - (header.length + 1)
  let needed := fun cell => min available (widestLine cell + 2)
  let widths := rows.foldl (fun widths row => List.zipWith max widths (row.map needed))
    (header.map needed)
  narrowed available (cells widths - available) widths

/-! ### Lines of a table -/

/-- The marks of a horizontal line of a table: at the left end, as the line
    itself, between columns, and at the right end. -/
structure LineMarks where
  left : String
  line : Char
  cross : String
  right : String

/-- A horizontal line of a table with columns of the given widths. -/
def horizontal (marks : LineMarks) (widths : List Nat) : String :=
  marks.left ++ marks.cross.intercalate (widths.map fun w => repeated w marks.line)
    ++ marks.right

/-- The lines of a cell of a column, all as wide as the column. -/
def cellLines (columnWidth : Nat) (cell : List Char) : List (List Char) :=
  let inside := columnWidth - 2
  (brokenLines inside .ellipsis cell).map fun line => ' ' :: padded inside line ++ [' ']

/-- The lines of a row of cells. A cell with too few lines is filled up with
    blank ones. -/
def rowLines (bar : String) (widths : List Nat) (row : List (List Char)) : List String :=
  let columns := widths.zip (widths.zipWith cellLines row)
  let height := columns.foldl (fun height (_, lines) => max height lines.length) 1
  (List.range height).map fun n =>
    bar ++ bar.intercalate (columns.map fun (w, lines) =>
      String.ofList (lines.getD n (blanks w))) ++ bar

/-- The lines of a table under a title. -/
def table (title : String) (header : List String) (rows : List (List (List Char))) :
    List String :=
  let header := header.map String.toList
  let widths := columnWidths header rows
  let top := horizontal ⟨"┏", '━', "┳", "┓"⟩ widths
  [centered top.length ' ' title, top]
  ++ rowLines "┃" widths header
  ++ [horizontal ⟨"┡", '━', "╇", "┩"⟩ widths]
  ++ rows.flatMap (rowLines "│" widths)
  ++ [horizontal ⟨"└", '─', "┴", "┘"⟩ widths]

end SymbolStyle.Terminal

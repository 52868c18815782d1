import SymbolStyle.Terminal.CellWidth
import SymbolStyle.Text.Blank

/-! # Lines of a terminal

    A text broken into lines of a given width.

    * A line ends at a line feed. A line that is too long is broken in front
      of a word.
    * A tab reaches to the next place that is a multiple of eight.
    * A word that is wider than a line either goes on on the next line or
      loses its end; `Overflow` says which.
-/

namespace SymbolStyle.Terminal

open Text

/-- The width of the terminal. -/
def terminalWidth : Nat := 80

/-- What becomes of a word that is wider than a line. -/
inductive Overflow where
  /-- It goes on on the next line. -/
  | fold
  /-- An ellipsis stands for the end of it. -/
  | ellipsis
  deriving DecidableEq

/-- The distance between the places to which tabs reach. -/
def tabSize : Nat := 8

/-- A line with blanks in the places of tabs. -/
def withoutTabs (cs : List Char) : List Char :=
  (cs.foldl (fun (done, used) c =>
    if c = '\t' then
      let reached := (used / tabSize + 1) * tabSize
      (done ++ blanks (reached - used), reached)
    else (done ++ [c], used + cellWidth c)) ([], 0)).1

/-- The words of a line, each with the blanks behind it. Blanks in front of
    the first word belong to it. -/
def words (cs : List Char) : List (List Char) :=
  match cs.splitBy fun a b => !isBlank a || isBlank b with
  | first :: second :: rest =>
    if first.all isBlank then (first ++ second) :: rest else first :: second :: rest
  | few => few

/-- A text without the blanks at its end. -/
def withoutEnd (cs : List Char) : List Char := (cs.reverse.dropWhile isBlank).reverse

/-- Lines that are being filled. -/
structure Filling where
  /-- The lines that are full. -/
  full : List (List Char)
  /-- The line that is being filled. -/
  current : List Char
  /-- The cells that are taken on it. -/
  used : Nat

namespace Filling

/-- Nothing is written yet. -/
def start : Filling := ⟨[], [], 0⟩

/-- Starts a new line, unless nothing is written yet. -/
def newLine (f : Filling) : Filling :=
  if f.full = [] ∧ f.current = [] then f else ⟨f.full ++ [f.current], [], 0⟩

/-- Writes on the current line. -/
def write (f : Filling) (cs : List Char) : Filling :=
  { f with current := f.current ++ cs, used := f.used + width cs }

/-- Writes the characters of a word, on as many lines as it takes. -/
def writeFolded (total : Nat) (f : Filling) (cs : List Char) : Filling :=
  cs.foldl (fun f c => (if total < f.used + cellWidth c then f.newLine else f).write [c]) f

/-- Writes a word. -/
def writeWord (total : Nat) (overflow : Overflow) (f : Filling) (word : List Char) : Filling :=
  let needed := width (withoutEnd word)
  if f.used + needed ≤ total then f.write word
  else if total < needed ∧ overflow = .fold then writeFolded total f.newLine word
  else f.newLine.write word

/-- All lines. -/
def lines (f : Filling) : List (List Char) := f.full ++ [f.current]

end Filling

/-- A broken line without those blanks at its end that are more than it
    holds. -/
def trimmedEnd (total : Nat) (cs : List Char) : List Char :=
  let blanksAtEnd := cs.length - (withoutEnd cs).length
  cs.take (cs.length - min blanksAtEnd (cs.length - total))

/-- A broken line that is no wider than it may be. -/
def limited (total : Nat) (overflow : Overflow) (cs : List Char) : List Char :=
  if width cs ≤ total then cs
  else match overflow with
    | .fold => fitted total cs
    | .ellipsis => fitted (total - 1) cs ++ ['…']

/-- The lines into which one line is broken. -/
def brokenLine (total : Nat) (overflow : Overflow) (cs : List Char) : List (List Char) :=
  let filled := (words (withoutTabs cs)).foldl (Filling.writeWord total overflow) .start
  filled.lines.map fun line => limited total overflow (trimmedEnd total line)

/-- The lines into which a text is broken. -/
def brokenLines (total : Nat) (overflow : Overflow) (cs : List Char) : List (List Char) :=
  ((String.ofList cs).splitOn "\n").flatMap fun line => brokenLine total overflow line.toList

/-- Whether a character ends a line where the width of a text is measured. -/
def endsLine (c : Char) : Bool := c.toNat ∈ [0xa, 0x1c, 0x1d, 0x1e, 0x85, 0x2028, 0x2029]

/-- The width of the widest line of a text. -/
def widestLine (cs : List Char) : Nat :=
  (cs.foldl (fun (widest, used) c =>
    if endsLine c then (widest, 0)
    else (max widest (used + cellWidth c), used + cellWidth c)) (0, 0)).1

end SymbolStyle.Terminal

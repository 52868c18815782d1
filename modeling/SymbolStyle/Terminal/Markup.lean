import SymbolStyle.Terminal.Emoji
import SymbolStyle.Terminal.TagName

/-! # Marked-up texts

    A text with tags in brackets, such as `[bold]loud[/bold]`, as it shows on
    a terminal without colors.

    * A tag starts with a small letter or with `#`, `/` or `@`, has no opening
      bracket inside and ends at the first closing one. Anything else in
      brackets is text.
    * A backslash in front of a tag makes it text; two make one backslash in
      front of a tag.
    * `[/]` closes the tag opened last, and `[/name]` the one opened last
      under that name. A tag without a partner may stay open, but none may
      be closed that is not open.
    * Emoji codes are replaced piece by piece between the tags. Control
      characters that would move the cursor are left out.
-/

namespace SymbolStyle.Terminal

open Text

/-- A piece of a marked-up text. -/
inductive Piece where
  | text (cs : List Char)
  | opening (name : List Char)
  /-- Closes the tag of a name, or the last one if there is no name. -/
  | closing (name : List Char)

/-- Why a marked-up text cannot be shown. -/
inductive MarkupFault where
  /-- A tag is closed that is not open. -/
  | notOpen
  /-- A color in a tag lacks a level. -/
  | missingLevel
  deriving DecidableEq

/-! ### Pieces -/

/-- Whether a tag may start with a character. -/
def startsTag (c : Char) : Bool := ('a' ≤ c && c ≤ 'z') || c == '#' || c == '/' || c == '@'

/-- Takes a tag behind its opening bracket. -/
def takeTag? : List Char → Option (List Char × List Char)
  | [] => none
  | c :: cs =>
    match cs.dropWhile fun c => c != '[' && c != ']' with
    | ']' :: rest =>
      if startsTag c then some (c :: cs.takeWhile fun c => c != '[' && c != ']', rest) else none
    | _ => none

theorem length_lt_of_takeTag? {cs tag rest : List Char}
    (h : takeTag? cs = some (tag, rest)) : rest.length < cs.length := by
  unfold takeTag? at h
  split at h
  · simp at h
  · rename_i c cs
    have hle := (List.dropWhile_sublist (fun c => c != '[' && c != ']') (l := cs)).length_le
    split at h
    · rename_i tail heq
      rw [heq] at hle
      split at h
      · simp only [Option.some.injEq, Prod.mk.injEq] at h
        rw [← h.2]
        simp only [List.length_cons] at hle ⊢
        omega
      · simp at h
    · simp at h

/-- The piece for a tag. What follows the first `=` is no part of its name. -/
def tagPiece (tag : List Char) : Piece :=
  match tag.takeWhile (· ≠ '=') with
  | '/' :: name => .closing (trim isBlank name)
  | name => .opening name

/-- The pieces for a tag and for the backslashes in front of it. -/
def tagPieces (slashes : Nat) (tag : List Char) : List Piece :=
  [.text (List.replicate (slashes / 2) '\\'),
    if slashes % 2 = 0 then tagPiece tag else .text ('[' :: tag ++ [']'])]

/-- The pieces of a text. Passed along are the text of the current piece,
    without the backslashes at its end, and the number of these. -/
def piecesFrom (before : List Char) (slashes : Nat) (cs : List Char) : List Piece :=
  let current := before ++ List.replicate slashes '\\'
  match cs with
  | [] => [.text current]
  | '\\' :: rest => piecesFrom before (slashes + 1) rest
  | '[' :: rest =>
    match _h : takeTag? rest with
    | some (tag, behind) => .text before :: tagPieces slashes tag ++ piecesFrom [] 0 behind
    | none => piecesFrom (current ++ ['[']) 0 rest
  | c :: rest => piecesFrom (current ++ [c]) 0 rest
termination_by cs.length
decreasing_by
  · simp
  · have := length_lt_of_takeTag? _h
    simp only [List.length_cons]
    omega
  · simp
  · simp

/-- The pieces of a text. -/
def pieces (cs : List Char) : List Piece := piecesFrom [] 0 cs

/-! ### What shows -/

/-- A text with brackets in the places of brackets behind a backslash. -/
def withoutEscapes : List Char → List Char
  | '\\' :: '[' :: rest => '[' :: withoutEscapes rest
  | c :: rest => c :: withoutEscapes rest
  | [] => []

/-- The tags that are open after one has been closed, the newest one first. -/
def close? (name : List Char) (opened : List String) : Except MarkupFault (List String) :=
  if name = [] then
    match opened with
    | [] => .error .notOpen
    | _ :: older => .ok older
  else
    match canonical? name with
    | none => .error .missingLevel
    | some name => if name ∈ opened then .ok (opened.erase name) else .error .notOpen

/-- What shows of pieces behind some open tags. -/
def showPieces (opened : List String) : List Piece → Except MarkupFault (List Char)
  | [] => .ok []
  | .text cs :: rest => return withEmojis (withoutEscapes cs) ++ (← showPieces opened rest)
  | .opening name :: rest =>
    match canonical? name with
    | none => .error .missingLevel
    | some name => showPieces (name :: opened) rest
  | .closing name :: rest => do showPieces (← close? name opened) rest

/-- Whether a control character would move the cursor: a bell, a backspace, a
    vertical tab, a form feed or a carriage return. -/
def movesCursor (c : Char) : Bool := c.toNat ∈ [7, 8, 11, 12, 13]

/-- What shows of a marked-up text. -/
def shown (text : String) : Except MarkupFault (List Char) :=
  return (← showPieces [] (pieces text.toList)).filter (!movesCursor ·)

end SymbolStyle.Terminal

import SymbolStyle.Terminal.EmojiNames
import SymbolStyle.Text.Blank
import SymbolStyle.Text.LowerCase

/-! # Emoji codes

    A name between two colons, as in `:smile:`, stands for an emoji.

    * No blank and no further colon may stand between the colons. The case of
      the name does not matter.
    * Behind the name `-text` or `-emoji` may ask for one of the two ways in
      which some emojis are drawn.
    * A name that is not known stays as it is, both of its colons used up.
-/

namespace SymbolStyle.Terminal

open Text

/-- The suffixes of a name, each with the character that asks for a way of
    drawing the emoji. -/
def drawings : List (String × Char) := [("-text", '\ufe0e'), ("-emoji", '\ufe0f')]

/-- Splits a suffix off a name, if it has one. -/
def splitDrawing (name : List Char) : List Char × List Char :=
  match drawings.find? fun (suffix, _) => suffix.toList.isSuffixOf name with
  | some (suffix, mark) => (name.take (name.length - suffix.length), [mark])
  | none => (name, [])

/-- The emoji of a name. -/
def emoji? (name : List Char) : Option (List Char) :=
  let (name, mark) := splitDrawing name
  (namedEmojis.lookup (String.ofList (lower name))).map (·.toList ++ mark)

/-- Takes a name up to the colon behind it. -/
def takeName? (cs : List Char) : Option (List Char × List Char) :=
  match cs.dropWhile fun c => !isBlank c && c != ':' with
  | ':' :: rest => some (cs.takeWhile fun c => !isBlank c && c != ':', rest)
  | _ => none

theorem length_lt_of_takeName? {cs name rest : List Char}
    (h : takeName? cs = some (name, rest)) : rest.length < cs.length := by
  unfold takeName? at h
  split at h
  · rename_i tail heq
    have hle := (List.dropWhile_sublist (fun c => !isBlank c && c != ':') (l := cs)).length_le
    rw [heq] at hle
    simp only [Option.some.injEq, Prod.mk.injEq] at h
    rw [← h.2]
    simp only [List.length_cons] at hle
    omega
  · simp at h

/-- A text with emojis in the places of their names. -/
def withEmojis (cs : List Char) : List Char :=
  match cs with
  | [] => []
  | ':' :: rest =>
    match _h : takeName? rest with
    | some (name, behind) =>
      (emoji? name).getD (':' :: name ++ [':']) ++ withEmojis behind
    | none => ':' :: withEmojis rest
  | c :: rest => c :: withEmojis rest
termination_by cs.length
decreasing_by
  · have := length_lt_of_takeName? _h
    simp only [List.length_cons]
    omega
  · simp
  · simp

end SymbolStyle.Terminal

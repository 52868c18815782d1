import SymbolStyle.Text.Blank
import SymbolStyle.Text.DecimalDigit
import SymbolStyle.Text.Hexadecimal
import SymbolStyle.Text.LowerCase

/-! # Names of tags

    A tag in a marked-up text names an appearance, such as `bold red`. Names
    of the same appearance are the same name: `canonical?` gives the one by
    which tags are compared.

    * An appearance is described by words: effects, effects that are denied by
      `not`, a color, a background color behind `on`, and a target behind
      `link`. Of several colors, backgrounds or targets the last one counts.
    * A name that describes no appearance is compared as it is, apart from the
      blanks around it and the case of its letters.
-/

namespace SymbolStyle.Terminal

open Text

/-! ### Colors -/

/-- The names of colors. -/
def colorNames : List String :=
  ["black", "red", "green", "yellow", "blue", "magenta", "cyan", "white", "bright_black",
   "bright_red", "bright_green", "bright_yellow", "bright_blue", "bright_magenta", "bright_cyan",
   "bright_white", "grey0", "gray0", "navy_blue", "dark_blue", "blue3", "blue1", "dark_green",
   "deep_sky_blue4", "dodger_blue3", "dodger_blue2", "green4", "spring_green4", "turquoise4",
   "deep_sky_blue3", "dodger_blue1", "green3", "spring_green3", "dark_cyan", "light_sea_green",
   "deep_sky_blue2", "deep_sky_blue1", "spring_green2", "cyan3", "dark_turquoise", "turquoise2",
   "green1", "spring_green1", "medium_spring_green", "cyan2", "cyan1", "dark_red", "deep_pink4",
   "purple4", "purple3", "blue_violet", "orange4", "grey37", "gray37", "medium_purple4",
   "slate_blue3", "royal_blue1", "chartreuse4", "dark_sea_green4", "pale_turquoise4",
   "steel_blue", "steel_blue3", "cornflower_blue", "chartreuse3", "cadet_blue", "sky_blue3",
   "steel_blue1", "pale_green3", "sea_green3", "aquamarine3", "medium_turquoise", "chartreuse2",
   "sea_green2", "sea_green1", "aquamarine1", "dark_slate_gray2", "dark_magenta", "dark_violet",
   "purple", "light_pink4", "plum4", "medium_purple3", "slate_blue1", "yellow4", "wheat4",
   "grey53", "gray53", "light_slate_grey", "light_slate_gray", "medium_purple",
   "light_slate_blue", "dark_olive_green3", "dark_sea_green", "light_sky_blue3", "sky_blue2",
   "dark_sea_green3", "dark_slate_gray3", "sky_blue1", "chartreuse1", "light_green",
   "pale_green1", "dark_slate_gray1", "red3", "medium_violet_red", "magenta3", "dark_orange3",
   "indian_red", "hot_pink3", "medium_orchid3", "medium_orchid", "medium_purple2",
   "dark_goldenrod", "light_salmon3", "rosy_brown", "grey63", "gray63", "medium_purple1", "gold3",
   "dark_khaki", "navajo_white3", "grey69", "gray69", "light_steel_blue3", "light_steel_blue",
   "yellow3", "dark_sea_green2", "light_cyan3", "light_sky_blue1", "green_yellow",
   "dark_olive_green2", "dark_sea_green1", "pale_turquoise1", "deep_pink3", "magenta2",
   "hot_pink2", "orchid", "medium_orchid1", "orange3", "light_pink3", "pink3", "plum3", "violet",
   "light_goldenrod3", "tan", "misty_rose3", "thistle3", "plum2", "khaki3", "light_goldenrod2",
   "light_yellow3", "grey84", "gray84", "light_steel_blue1", "yellow2", "dark_olive_green1",
   "honeydew2", "light_cyan1", "red1", "deep_pink2", "deep_pink1", "magenta1", "orange_red1",
   "indian_red1", "hot_pink", "dark_orange", "salmon1", "light_coral", "pale_violet_red1",
   "orchid2", "orchid1", "orange1", "sandy_brown", "light_salmon1", "light_pink1", "pink1",
   "plum1", "gold1", "navajo_white1", "misty_rose1", "thistle1", "yellow1", "light_goldenrod1",
   "khaki1", "wheat1", "cornsilk1", "grey100", "gray100", "grey3", "gray3", "grey7", "gray7",
   "grey11", "gray11", "grey15", "gray15", "grey19", "gray19", "grey23", "gray23", "grey27",
   "gray27", "grey30", "gray30", "grey35", "gray35", "grey39", "gray39", "grey42", "gray42",
   "grey46", "gray46", "grey50", "gray50", "grey54", "gray54", "grey58", "gray58", "grey62",
   "gray62", "grey66", "gray66", "grey70", "gray70", "grey74", "gray74", "grey78", "gray78",
   "grey82", "gray82", "grey85", "gray85", "grey89", "gray89", "grey93", "gray93"]

/-- The parts of a text between commas. -/
def commaParts (cs : List Char) : List (List Char) :=
  (String.ofList cs).splitOn "," |>.map String.toList

/-- The whole number that decimal digits of any script write. -/
def wholeNumber? (cs : List Char) : Option Nat :=
  if cs = [] then none
  else cs.foldl (fun n? c => do return 10 * (← n?) + (← digitValue? c)) (some 0)

/-- What is between an opening and a closing bracket. -/
def bracketed? (opening : String) (cs : List Char) : Option (List Char) := do
  let inside ← opening.toList.isPrefixOf? cs
  if inside.getLast? = some ')' then some inside.dropLast else none

/-- The three levels of a color, which may be missing. -/
def levels? (cs : List Char) : Option (List (List Char)) := do
  let inside ← bracketed? "rgb(" cs
  let parts := commaParts inside
  if parts.length = 3 ∧ parts.all (·.all fun c => (digitValue? c).isSome) then some parts
  else none

/-- Whether a text is a number up to 255. -/
def isLevel (cs : List Char) : Bool := (wholeNumber? cs).any (· ≤ 255)

/-- Whether a text in lower case is a color: a name, six hexadecimal digits, a
    number or three levels. -/
def isColor (cs : List Char) : Bool :=
  String.ofList cs ∈ "default" :: colorNames
    || (['#'].isPrefixOf? cs).any (fun ds => ds.length = 6 ∧ ds.all (hexDigit? · |>.isSome))
    || (bracketed? "color(" cs).any (fun ds => ds.length ≤ 3 ∧ ds.all isAsciiDigit ∧ isLevel ds)
    || (levels? cs).any (·.all isLevel)

/-! ### Appearances -/

/-- What can be done to letters besides coloring them. -/
inductive Effect where
  | bold
  | dim
  | italic
  | underline
  | blink
  | blink2
  | reverse
  | conceal
  | strike
  | underline2
  | frame
  | encircle
  | overline
  deriving DecidableEq

namespace Effect

/-- The effects in the order in which a canonical name lists them. -/
def all : List Effect :=
  [.bold, .dim, .italic, .underline, .blink, .blink2, .reverse, .conceal, .strike,
    .underline2, .frame, .encircle, .overline]

/-- The words for an effect, the one in a canonical name first. -/
def words : Effect → List String
  | .bold => ["bold", "b"]
  | .dim => ["dim", "d"]
  | .italic => ["italic", "i"]
  | .underline => ["underline", "u"]
  | .blink => ["blink"]
  | .blink2 => ["blink2"]
  | .reverse => ["reverse", "r"]
  | .conceal => ["conceal", "c"]
  | .strike => ["strike", "s"]
  | .underline2 => ["underline2", "uu"]
  | .frame => ["frame"]
  | .encircle => ["encircle"]
  | .overline => ["overline", "o"]

/-- The effect of a word. -/
def ofWord? (word : String) : Option Effect := all.find? (word ∈ ·.words)

/-- The word for an effect in a canonical name. -/
def name (e : Effect) : String := e.words.headD ""

end Effect

/-- Why words describe no appearance. -/
inductive Misnomer where
  /-- One of them is no word for an appearance. -/
  | unknownWord
  /-- A color lacks one of its levels. -/
  | missingLevel
  deriving DecidableEq

/-- What words have said about the appearance of a text. -/
structure Appearance where
  /-- Effects, and whether they are wanted. The newest word comes first. -/
  effects : List (Effect × Bool)
  color : Option String
  background : Option String
  link : Option String

namespace Appearance

/-- Nothing is said. -/
def plain : Appearance := ⟨[], none, none, none⟩

/-- The words for an effect, if anything is said about it. -/
def effectWords (a : Appearance) (e : Effect) : List String :=
  match a.effects.lookup e with
  | some true => [e.name]
  | some false => ["not", e.name]
  | none => []

/-- The canonical name. -/
def name (a : Appearance) : String :=
  let words := Effect.all.flatMap a.effectWords ++ a.color.toList
    ++ (a.background.toList.flatMap (["on", ·])) ++ (a.link.toList.flatMap (["link", ·]))
  if words = [] then "none" else " ".intercalate words

/-- Reads a color, in any case of its letters. -/
def readColor (word : String) : Except Misnomer String :=
  let small := lower word.toList
  if isColor small then .ok (String.ofList small)
  else if (levels? small).any ([] ∈ ·) then .error .missingLevel
  else .error .unknownWord

/-- Reads words on top of what others have said. -/
def read (a : Appearance) : List String → Except Misnomer Appearance
  | [] => .ok a
  | word :: rest =>
    match String.ofList (lower word.toList), rest with
    | "on", next :: rest => do read { a with background := some (← readColor next) } rest
    | "not", next :: rest =>
      match Effect.ofWord? next with
      | some e => read { a with effects := (e, false) :: a.effects } rest
      | none => .error .unknownWord
    | "link", next :: rest => read { a with link := some next } rest
    | small, rest =>
      match Effect.ofWord? small with
      | some e => read { a with effects := (e, true) :: a.effects } rest
      | none => do read { a with color := some (← readColor small) } rest

end Appearance

/-- The words of a text. -/
def textWords (cs : List Char) : List String :=
  ((String.ofList cs).splitToList isBlank).filter (· ≠ "")

/-- The name by which a tag is compared with others. None if it has a color
    that lacks a level. -/
def canonical? (name : List Char) : Option String :=
  match Appearance.plain.read (textWords name) with
  | .ok a => some a.name
  | .error .unknownWord => some (String.ofList (lower (trim isBlank name)))
  | .error .missingLevel => none

end SymbolStyle.Terminal

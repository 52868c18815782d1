/-! # Lower case

    Lower case of the characters that can matter in a color, in the name of an
    emoji or in a word for a text effect: ASCII capitals and the capitals of
    other scripts whose lower case has a character up to U+00FF. The lower
    case of any other capital lies, like the capital itself, above U+00FF,
    where no color, emoji or effect has a letter in its name.
-/

namespace SymbolStyle.Text

/-- The lower case of a character. Only the capital I with a dot becomes two
    characters, an `i` and a combining dot. -/
def lowerChar (c : Char) : List Char :=
  if 'A' ≤ c ∧ c ≤ 'Z' then [Char.ofNat (c.toNat + 32)]
  else if 'À' ≤ c ∧ c ≤ 'Þ' ∧ c ≠ '×' then [Char.ofNat (c.toNat + 32)]
  else match c with
    | 'İ' => ['i', '\u0307']
    | 'Ÿ' => ['ÿ']
    | 'ẞ' => ['ß']
    | '\u212a' => ['k']
    | '\u212b' => ['å']
    | _ => [c]

/-- The lower case of a text, as far as such names go. -/
def lower (cs : List Char) : List Char := cs.flatMap lowerChar

end SymbolStyle.Text

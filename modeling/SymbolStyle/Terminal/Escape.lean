/-! # Escape sequences

    A terminal takes some texts for commands: an escape character, an opening
    bracket, digits with question marks and semicolons, and a letter. Where
    the output is not shown on a terminal, these are left out.
-/

namespace SymbolStyle.Terminal

/-- Whether a character may stand between the bracket and the letter. -/
def isParameter (c : Char) : Bool := c == ';' || c == '?' || ('0' ≤ c && c ≤ '9')

/-- What is left behind an escape sequence, given what is behind its
    bracket. -/
def dropSequence? (cs : List Char) : Option (List Char) :=
  match cs.dropWhile isParameter with
  | c :: rest => if c.isAlpha then some rest else none
  | [] => none

theorem length_lt_of_dropSequence? {cs rest : List Char}
    (h : dropSequence? cs = some rest) : rest.length < cs.length := by
  unfold dropSequence? at h
  split at h
  · rename_i c tail heq
    have hle := (List.dropWhile_sublist isParameter (l := cs)).length_le
    rw [heq] at hle
    split at h
    · simp only [Option.some.injEq] at h
      rw [← h]
      simp only [List.length_cons] at hle
      omega
    · simp at h
  · simp at h

/-- A text without escape sequences. -/
def withoutSequences (cs : List Char) : List Char :=
  match cs with
  | [] => []
  | '\x1b' :: '[' :: rest =>
    match _h : dropSequence? rest with
    | some behind => withoutSequences behind
    | none => '\x1b' :: withoutSequences ('[' :: rest)
  | c :: rest => c :: withoutSequences rest
termination_by cs.length
decreasing_by
  · have := length_lt_of_dropSequence? _h
    simp only [List.length_cons]
    omega
  · simp
  · simp

end SymbolStyle.Terminal

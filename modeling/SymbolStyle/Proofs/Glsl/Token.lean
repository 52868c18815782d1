import SymbolStyle.Glsl

/-! # Tokens of the shading language

    How the text of an expression falls into tokens.

    * Characters that stand next to each other belong to one token if they
      can: letters, digits, underscores and points make up words and numbers,
      signs make up operators. No other characters join.
    * So `--` is one token and not two minus signs. It is not a token of an
      expression as it is read here, and a text that contains it is not read
      at all.
-/

namespace SymbolStyle.Glsl

/-- A token of an expression. -/
inductive Token where
  /-- A number without a sign, as it is written. -/
  | number (text : String)
  | word (text : String)
  | operator (op : BinaryOperator)
  | opening
  | closing
  | comma
  | question
  | colon
  deriving DecidableEq

/-! ## Runs of characters -/

/-- Whether a character can belong to a name. -/
def isNameChar (c : Char) : Bool := c.isAlphanum || c = '_'

/-- Whether a character can belong to a word or number. -/
def isWordChar (c : Char) : Bool := isNameChar c || c = '.'

/-- Whether a character can belong to an operator. -/
def isSign (c : Char) : Bool :=
  c ∈ ['+', '-', '*', '/', '%', '<', '>', '=', '!', '&', '|', '^', '~']

/-- Whether two characters that stand next to each other belong together. -/
def joins (c d : Char) : Bool := isWordChar c && isWordChar d || isSign c && isSign d

/-- The longest runs of characters that belong together. -/
def runs : List Char → List (List Char)
  | [] => []
  | c :: cs =>
    match runs cs with
    | (d :: run) :: rest => if joins c d then (c :: d :: run) :: rest else [c] :: (d :: run) :: rest
    | rest => [c] :: rest

/-- The first run starts with the first character. -/
theorem runs_cons (c : Char) (cs : List Char) :
    ∃ run rest, runs (c :: cs) = (c :: run) :: rest := by
  unfold runs
  split
  · split
    · exact ⟨_, _, rfl⟩
    · exact ⟨_, _, rfl⟩
  · exact ⟨_, _, rfl⟩

/-- Texts fall into runs separately if the characters at their border do not
    belong together. -/
theorem runs_append {xs ys : List Char}
    (h : ∀ c ∈ xs.getLast?, ∀ d ∈ ys.head?, joins c d = false) :
    runs (xs ++ ys) = runs xs ++ runs ys := by
  induction xs with
  | nil => rfl
  | cons c xs ih =>
    -- Whether the first character joins the second is decided on either side
    -- alike, unless the border is between them.
    cases xs with
    | nil =>
      cases ys with
      | nil => rfl
      | cons d ys =>
        obtain ⟨run, rest, hrun⟩ := runs_cons d ys
        have hborder : joins c d = false := h c rfl d rfl
        rw [List.singleton_append, runs, hrun]
        simp [runs, hborder]
    | cons d xs =>
      obtain ⟨run, rest, hrun⟩ := runs_cons d xs
      have htail : runs (d :: xs ++ ys) = (d :: run) :: (rest ++ runs ys) := by
        rw [ih (by simpa using h), hrun, List.cons_append]
      rw [List.cons_append, runs, htail]
      rw [runs, hrun]
      by_cases hjoins : joins c d
      · simp [hjoins]
      · simp [hjoins]

/-- Characters of words and numbers that stand together are one run. -/
theorem runs_of_isWordChar {word : List Char} (hne : word ≠ []) (h : ∀ c ∈ word, isWordChar c) :
    runs word = [word] := by
  induction word with
  | nil => exact absurd rfl hne
  | cons c word ih =>
    cases word with
    | nil => rfl
    | cons d word =>
      have htail := ih (by simp) fun e he => h e (List.mem_cons_of_mem _ he)
      have hjoins : joins c d := by simp [joins, h c (by simp), h d (by simp)]
      rw [runs, htail]
      simp [hjoins]

/-! ## Tokens of runs -/

/-- Whether a run that starts with a digit writes a number: whole, or with
    digits on both sides of a point. -/
def isNumeral (run : List Char) : Bool :=
  match run.dropWhile Char.isDigit with
  | [] => true
  | '.' :: places => !places.isEmpty && places.all Char.isDigit
  | _ => false

/-- The token of a run of characters of words and numbers. -/
def wordToken? (run : List Char) : Option Token :=
  if run.head?.any Char.isDigit then
    if isNumeral run then some (.number (String.ofList run)) else none
  else if '.' ∈ run then none
  else some (.word (String.ofList run))

/-- The binary operators of the language. -/
def BinaryOperator.all : List BinaryOperator :=
  [.multiply, .divide, .add, .subtract, .greater, .greaterOrEqual, .less, .lessOrEqual, .equal,
    .and]

/-- The tokens of any other run: one, or none for a blank. -/
def signTokens? : List Char → Option (List Token)
  | [' '] => some []
  | ['('] => some [.opening]
  | [')'] => some [.closing]
  | [','] => some [.comma]
  | ['?'] => some [.question]
  | [':'] => some [.colon]
  | run => (BinaryOperator.all.find? (·.text.toList = run)).map fun op => [.operator op]

/-- The tokens of a run. -/
def tokensOfRun? (run : List Char) : Option (List Token) :=
  if run.all isWordChar then (wordToken? run).map ([·]) else signTokens? run

/-- The tokens of a text, if it consists of tokens. -/
def tokens? (text : List Char) : Option (List Token) :=
  ((runs text).mapM tokensOfRun?).map List.flatten

/-! ## Tokens of composed texts -/

@[simp] theorem tokens?_nil : tokens? [] = some [] := rfl

theorem tokens?_append {xs ys : List Char} {as bs : List Token} (hxs : tokens? xs = some as)
    (hys : tokens? ys = some bs) (h : ∀ c ∈ xs.getLast?, ∀ d ∈ ys.head?, joins c d = false) :
    tokens? (xs ++ ys) = some (as ++ bs) := by
  simp only [tokens?, Option.map_eq_some_iff] at hxs hys ⊢
  obtain ⟨as, has, rfl⟩ := hxs
  obtain ⟨bs, hbs, rfl⟩ := hys
  refine ⟨as ++ bs, ?_, List.flatten_append⟩
  rw [runs_append h, List.mapM_append, has, hbs]
  rfl

/-- Whether a character joins no other one. -/
def isSeparator (c : Char) : Bool := !isWordChar c && !isSign c

theorem joins_separator {s : Char} (hs : isSeparator s) (c : Char) : joins c s = false := by
  simp only [isSeparator, Bool.and_eq_true, Bool.not_eq_true'] at hs
  simp [joins, hs]

theorem separator_joins {s : Char} (hs : isSeparator s) (c : Char) : joins s c = false := by
  simp only [isSeparator, Bool.and_eq_true, Bool.not_eq_true'] at hs
  simp [joins, hs]

/-- Between two texts, a character that joins none is a token of its own. -/
theorem tokens?_separated {s : Char} {middle : List Token} {xs ys : List Char}
    {as bs : List Token} (hs : isSeparator s) (hmiddle : tokens? [s] = some middle)
    (hxs : tokens? xs = some as) (hys : tokens? ys = some bs) :
    tokens? (xs ++ s :: ys) = some (as ++ (middle ++ bs)) := by
  have hright : tokens? ([s] ++ ys) = some (middle ++ bs) := by
    apply tokens?_append hmiddle hys
    simp [separator_joins hs]
  rw [← List.singleton_append, ← List.append_assoc, List.append_assoc]
  apply tokens?_append hxs hright
  simp [joins_separator hs]

theorem tokens?_blank : tokens? [' '] = some [] := by decide

/-- Blanks separate tokens and are none. -/
theorem tokens?_spaced {xs ys : List Char} {as bs : List Token} (hxs : tokens? xs = some as)
    (hys : tokens? ys = some bs) : tokens? (xs ++ ' ' :: ys) = some (as ++ bs) :=
  tokens?_separated (by decide) tokens?_blank hxs hys

theorem tokens?_operator (op : BinaryOperator) : tokens? op.text.toList = some [.operator op] := by
  cases op <;> decide

/-- A text in round brackets. -/
theorem tokens?_bracketed {xs : List Char} {as : List Token} (hxs : tokens? xs = some as) :
    tokens? ('(' :: xs ++ [')']) = some (.opening :: as ++ [.closing]) := by
  have hopened : tokens? ([] ++ '(' :: xs) = some ([] ++ ([.opening] ++ as)) :=
    tokens?_separated (by decide) (by decide) tokens?_nil hxs
  have hclosed : tokens? ('(' :: xs ++ ')' :: []) = some (.opening :: as ++ ([.closing] ++ [])) :=
    tokens?_separated (by decide) (by decide) hopened tokens?_nil
  simpa using hclosed

/-! ## Words and numbers -/

theorem isWordChar_of_isDigit {c : Char} (h : c.isDigit) : isWordChar c := by
  simp [isWordChar, isNameChar, Char.isAlphanum, h]

/-- A minus and a digit are two tokens. -/
theorem not_joins_minus_of_isDigit {c : Char} (h : c.isDigit) : joins '-' c = false := by
  have hsign : isSign c = false := by
    cases hc : isSign c with
    | false => rfl
    | true =>
      simp only [isSign, List.mem_cons, List.not_mem_nil, or_false, decide_eq_true_eq] at hc
      rcases hc with rfl | rfl | rfl | rfl | rfl | rfl | rfl | rfl | rfl | rfl | rfl | rfl | rfl
      all_goals exact absurd h (by decide)
  have hminus : isWordChar '-' = false := by decide
  simp [joins, hsign, hminus]

/-- A run of characters of words and numbers is one token, if it is any. -/
theorem tokens?_of_isWordChar {run : List Char} {token : Token} (hne : run ≠ [])
    (h : ∀ c ∈ run, isWordChar c) (htoken : wordToken? run = some token) :
    tokens? run = some [token] := by
  have hrun : tokensOfRun? run = some [token] := by
    rw [tokensOfRun?, if_pos (List.all_eq_true.2 h), htoken]
    rfl
  rw [tokens?, runs_of_isWordChar hne h]
  simp [hrun]

/-- A run of letters, digits and underscores that starts with no digit is a
    word. -/
theorem tokens?_word {c : Char} {name : List Char} (hc : isNameChar c) (hdigit : c.isDigit = false)
    (hname : ∀ d ∈ name, isNameChar d) :
    tokens? (c :: name) = some [.word (String.ofList (c :: name))] := by
  have hchars : ∀ d ∈ c :: name, isNameChar d := by
    intro d hd
    rcases List.mem_cons.1 hd with rfl | hd
    · exact hc
    · exact hname d hd
  have hpoint : '.' ∉ c :: name := by
    intro hd
    exact absurd (hchars '.' hd) (by decide)
  apply tokens?_of_isWordChar (by simp)
  · intro d hd
    simp [isWordChar, hchars d hd]
  · simp [wordToken?, hdigit, hpoint]

/-- Digits on both sides of a point are a number. -/
theorem tokens?_numeral {whole places : List Char} (hwhole : whole ≠ []) (hplaces : places ≠ [])
    (hdigits : ∀ c ∈ whole ++ places, c.isDigit) :
    tokens? (whole ++ '.' :: places) = some [.number (String.ofList (whole ++ '.' :: places))] := by
  have hdrop : (whole ++ '.' :: places).dropWhile Char.isDigit = '.' :: places := by
    rw [List.dropWhile_append_of_pos]
    · rfl
    · intro c hc
      exact hdigits c (by simp [hc])
  have hnumeral : isNumeral (whole ++ '.' :: places) := by
    have hall : ∀ c ∈ places, c.isDigit := fun c hc => hdigits c (by simp [hc])
    simp [isNumeral, hdrop, hplaces, List.all_eq_true.2 hall]
  apply tokens?_of_isWordChar (by simp)
  · intro c hc
    simp only [List.mem_append, List.mem_cons] at hc
    rcases hc with hc | rfl | hc
    · exact isWordChar_of_isDigit (hdigits c (by simp [hc]))
    · rfl
    · exact isWordChar_of_isDigit (hdigits c (by simp [hc]))
  · obtain ⟨first, rest, rfl⟩ := List.exists_cons_of_ne_nil hwhole
    have hfirst : first.isDigit := hdigits first (by simp)
    rw [wordToken?, hnumeral]
    simp [hfirst]

end SymbolStyle.Glsl

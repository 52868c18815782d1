import Mathlib.Data.List.Infix
import SymbolStyle.Operator
import SymbolStyle.Proofs.Glsl.Token

/-! # Brackets

    When a text can stand as one operand among others.

    * `openAfter?`: a text is scanned for round brackets, from some number of
      them that are open before it. A balanced text closes just what it opens,
      so it can be put anywhere without a change to what is open around it.
    * `outside`: what stands outside all brackets, and the brackets themselves.
    * `IsSelfContained`: a balanced text without a separator outside its
      brackets. A number may have a minus in front.
-/

namespace SymbolStyle.Glsl

/-! ## Open brackets -/

/-- How many brackets are open after a character, if `depth` of them are open
    before it. There is no such number if the character closes one too many. -/
def turn? (depth : Nat) (c : Char) : Option Nat :=
  if c = '(' then some (depth + 1)
  else if c = ')' then if depth = 0 then none else some (depth - 1)
  else some depth

/-- How many brackets are open after a text. -/
def openAfter? (depth : Nat) : List Char → Option Nat
  | [] => some depth
  | c :: cs => (turn? depth c).bind (openAfter? · cs)

/-- What a text has outside all brackets, with the outermost brackets
    themselves: before or after such a character none is open. -/
def outside (depth : Nat) : List Char → List Char
  | [] => []
  | c :: cs =>
    (if depth = 0 ∨ turn? depth c = some 0 then [c] else [])
      ++ outside ((turn? depth c).getD depth) cs

/-- The text closes the brackets that it opens, and no others. -/
def IsBalanced (text : List Char) : Prop := openAfter? 0 text = some 0

instance decidableIsBalanced (text : List Char) : Decidable (IsBalanced text) :=
  inferInstanceAs (Decidable (openAfter? 0 text = some 0))

section Scan

variable {depth after : Nat} {c : Char} {xs ys text : List Char}

/-- More brackets that are open before a character are open after it too. -/
theorem turn?_add (h : turn? depth c = some after) (more : Nat) :
    turn? (depth + more) c = some (after + more) := by
  unfold turn? at h ⊢
  by_cases hopening : c = '('
  · rw [if_pos hopening, Option.some.injEq] at h ⊢
    omega
  · rw [if_neg hopening] at h ⊢
    by_cases hclosing : c = ')'
    · by_cases hzero : depth = 0
      · simp [hclosing, hzero] at h
      · have hmore : depth + more ≠ 0 := by omega
        rw [if_pos hclosing, if_neg hzero, Option.some.injEq] at h
        rw [if_pos hclosing, if_neg hmore, Option.some.injEq]
        omega
    · rw [if_neg hclosing, Option.some.injEq] at h ⊢
      omega

theorem turn?_of_ne (h : c ≠ '(' ∧ c ≠ ')') : turn? depth c = some depth := by
  rw [turn?, if_neg h.1, if_neg h.2]

theorem openAfter?_cons_eq_some_iff : openAfter? depth (c :: xs) = some after ↔
    ∃ next, turn? depth c = some next ∧ openAfter? next xs = some after :=
  Option.bind_eq_some_iff

theorem openAfter?_append :
    openAfter? depth (xs ++ ys) = (openAfter? depth xs).bind (openAfter? · ys) := by
  induction xs generalizing depth with
  | nil => rfl
  | cons c xs ih =>
    rw [List.cons_append, openAfter?, openAfter?, Option.bind_assoc]
    simp only [ih]

theorem openAfter?_add (h : openAfter? depth xs = some after) (more : Nat) :
    openAfter? (depth + more) xs = some (after + more) := by
  induction xs generalizing depth with
  | nil =>
    obtain rfl : depth = after := Option.some.inj h
    rfl
  | cons c xs ih =>
    rw [openAfter?_cons_eq_some_iff] at h ⊢
    obtain ⟨next, hturn, hrest⟩ := h
    exact ⟨next + more, turn?_add hturn more, ih hrest⟩

theorem outside_append (h : openAfter? depth xs = some after) :
    outside depth (xs ++ ys) = outside depth xs ++ outside after ys := by
  induction xs generalizing depth with
  | nil =>
    obtain rfl : depth = after := Option.some.inj h
    rfl
  | cons c xs ih =>
    obtain ⟨next, hturn, hrest⟩ := openAfter?_cons_eq_some_iff.1 h
    rw [List.cons_append, outside, outside, hturn, Option.getD_some, ih hrest, List.append_assoc]

/-- Within a bracket, nothing is outside. -/
theorem outside_succ (h : openAfter? depth xs = some after) : outside (depth + 1) xs = [] := by
  -- The bracket around the text stays open all along, since the text alone
  -- never closes one too many.
  induction xs generalizing depth with
  | nil => rfl
  | cons c xs ih =>
    obtain ⟨next, hturn, hrest⟩ := openAfter?_cons_eq_some_iff.1 h
    have hinside : ¬ (depth + 1 = 0 ∨ some (next + 1) = some 0) := by simp
    rw [outside, turn?_add hturn 1, if_neg hinside, Option.getD_some, ih hrest]
    rfl

/-- A text without brackets is scanned without effect. -/
theorem scan_of_unbracketed (h : ∀ c ∈ text, c ≠ '(' ∧ c ≠ ')') :
    openAfter? 0 text = some 0 ∧ outside 0 text = text := by
  induction text with
  | nil => exact ⟨rfl, rfl⟩
  | cons c text ih =>
    rw [List.forall_mem_cons] at h
    obtain ⟨hbalanced, houtside⟩ := ih h.2
    rw [openAfter?_cons_eq_some_iff, outside, turn?_of_ne h.1, Option.getD_some, houtside]
    exact ⟨⟨0, rfl, hbalanced⟩, rfl⟩

end Scan

/-! ## Balanced texts -/

namespace IsBalanced

variable {xs ys : List Char}

/-- A balanced text leaves the brackets around it as they are. -/
theorem openAfter?_append (h : IsBalanced xs) (depth : Nat) :
    openAfter? depth (xs ++ ys) = openAfter? depth ys := by
  have hxs := openAfter?_add h depth
  rw [Nat.zero_add] at hxs
  rw [Glsl.openAfter?_append, hxs, Option.bind_some]

theorem append (hxs : IsBalanced xs) (hys : IsBalanced ys) : IsBalanced (xs ++ ys) := by
  rw [IsBalanced, hxs.openAfter?_append]
  exact hys

theorem bracketed (h : IsBalanced xs) : IsBalanced ('(' :: xs ++ [')']) := by
  -- After the opening bracket one is open, and it still is after the text.
  show openAfter? 1 (xs ++ [')']) = some 0
  rw [h.openAfter?_append]
  rfl

theorem intercalate {between : List Char} {texts : List (List Char)} (hbetween : IsBalanced between)
    (h : ∀ text ∈ texts, IsBalanced text) : IsBalanced (between.intercalate texts) := by
  induction texts with
  | nil => rfl
  | cons text texts ih =>
    rw [List.forall_mem_cons] at h
    cases texts with
    | nil => simpa using h.1
    | cons next texts =>
      rw [List.intercalate_cons_cons]
      exact (h.1.append hbetween).append (ih h.2)

theorem outside_bracketed (h : IsBalanced xs) : outside 0 ('(' :: xs ++ [')']) = ['(', ')'] := by
  have hinside : openAfter? 1 xs = some 1 := openAfter?_add h 1
  show '(' :: outside 1 (xs ++ [')']) = _
  rw [outside_append hinside, outside_succ h]
  rfl

end IsBalanced

/-! ## Texts that can stand as one operand -/

/-- The texts that end an operand: blanks, marks between expressions, and the
    operators of arithmetic and comparisons. -/
def separators : List String :=
  [" ", ",", ";", "?"] ++
    (Operator.all.filter fun op => op.isArithmetic || op.isComparison).map Operator.tag

/-- The text is balanced, and no separator stands outside its brackets. -/
structure IsClosed (text : List Char) : Prop where
  balanced : IsBalanced text
  unseparated : ∀ separator ∈ separators, ¬ separator.toList <:+: outside 0 text

instance decidableIsClosed (text : List Char) : Decidable (IsClosed text) :=
  decidable_of_iff
    (IsBalanced text ∧ ∀ separator ∈ separators, ¬ separator.toList <:+: outside 0 text)
    ⟨fun h => ⟨h.1, h.2⟩, fun h => ⟨h.balanced, h.unseparated⟩⟩

/-- The text can stand as one operand: it is closed, or it is a number with a
    minus in front. -/
def IsSelfContained (text : List Char) : Prop :=
  IsClosed text ∨ ∃ number, text = '-' :: number ∧ IsClosed number ∧
    tokens? number = some [.number (String.ofList number)]

theorem IsSelfContained.isBalanced {text : List Char} (h : IsSelfContained text) :
    IsBalanced text := by
  rcases h with hclosed | ⟨number, rfl, hnumber, -⟩
  · exact hclosed.balanced
  · have hminus : IsBalanced ['-'] := by decide
    exact hminus.append hnumber.balanced

/-! ### Characters of names and numbers -/

theorem not_bracket_of_isWordChar {c : Char} (h : isWordChar c) : c ≠ '(' ∧ c ≠ ')' := by
  constructor
  · rintro rfl
    exact absurd h (by decide)
  · rintro rfl
    exact absurd h (by decide)

/-- A separator starts with a character that belongs to no name and is no
    bracket. -/
theorem exists_head_of_mem_separators {separator : String} (h : separator ∈ separators) :
    ∃ c ∈ separator.toList.head?, isWordChar c = false ∧ c ∉ ['(', ')'] := by
  have hall : separators.all fun separator => separator.toList.head?.any fun c =>
      !isWordChar c && decide (c ∉ ['(', ')']) := by decide +kernel
  obtain ⟨c, hhead, hc⟩ := (Option.any_eq_true _ _).1 (List.all_eq_true.1 hall separator h)
  rw [Bool.and_eq_true, Bool.not_eq_true', decide_eq_true_eq] at hc
  exact ⟨c, hhead, hc.1, hc.2⟩

section Word

variable {word text : List Char}

/-- What begins outside a word and is found in the word and a text after it is
    found in the text. -/
theorem infix_of_infix_append {separator : List Char} {c : Char} (hc : c ∈ separator.head?)
    (hword : c ∉ word) (h : separator <:+: word ++ text) : separator <:+: text := by
  induction word with
  | nil => exact h
  | cons d word ih =>
    rw [List.mem_cons, not_or] at hword
    rw [List.cons_append, List.infix_cons_iff] at h
    rcases h with hprefix | hinfix
    · obtain ⟨rest, rfl⟩ := List.head?_eq_some_iff.1 hc
      rw [List.cons_prefix_cons] at hprefix
      exact absurd hprefix.1 hword.1
    · exact ih hword.2 hinfix

theorem unseparated_of_isWordChar (h : ∀ c ∈ word, isWordChar c ∨ c ∈ ['(', ')']) :
    ∀ separator ∈ separators, ¬ separator.toList <:+: word := by
  intro separator hseparator hinfix
  obtain ⟨c, hc, hnot, hbracket⟩ := exists_head_of_mem_separators hseparator
  have hmem : c ∈ word := hinfix.subset (List.mem_of_mem_head? hc)
  rcases h c hmem with hword | hmem
  · rw [hnot] at hword
    cases hword
  · exact hbracket hmem

/-- A word does not matter to what comes after it. -/
theorem isClosed_append_iff (hword : word.all isWordChar) :
    IsClosed (word ++ text) ↔ IsClosed text := by
  rw [List.all_eq_true] at hword
  obtain ⟨hbalanced, houtside⟩ :=
    scan_of_unbracketed fun c hc => not_bracket_of_isWordChar (hword c hc)
  have hscan : IsBalanced (word ++ text) ↔ IsBalanced text := by
    rw [IsBalanced, IsBalanced.openAfter?_append hbalanced]
    rfl
  have hsplit : outside 0 (word ++ text) = word ++ outside 0 text := by
    rw [outside_append hbalanced, houtside]
  constructor
  · intro h
    refine ⟨hscan.1 h.balanced, ?_⟩
    intro separator hseparator hinfix
    apply h.unseparated separator hseparator
    rw [hsplit]
    exact hinfix.trans (List.suffix_append _ _).isInfix
  · intro h
    refine ⟨hscan.2 h.balanced, ?_⟩
    intro separator hseparator hinfix
    rw [hsplit] at hinfix
    -- A separator cannot begin within the word, so it stands in the text.
    obtain ⟨c, hc, hnot, -⟩ := exists_head_of_mem_separators hseparator
    have hmem : c ∉ word := by
      intro hmem
      rw [hword c hmem] at hnot
      cases hnot
    exact h.unseparated separator hseparator (infix_of_infix_append hc hmem hinfix)

theorem isClosed_word (hword : word.all isWordChar) : IsClosed word := by
  have hnil : IsClosed [] := by decide +kernel
  have h := (isClosed_append_iff hword).2 hnil
  rwa [List.append_nil] at h

/-- A balanced text in brackets, with a word in front or not. -/
theorem isClosed_bracketed (hword : word.all isWordChar) (h : IsBalanced text) :
    IsClosed (word ++ ('(' :: text ++ [')'])) := by
  rw [isClosed_append_iff hword]
  refine ⟨h.bracketed, ?_⟩
  rw [h.outside_bracketed]
  exact unseparated_of_isWordChar (by simp)

/-- A text behind a word that is not empty can stand as one operand only if it
    is closed. -/
theorem isSelfContained_append_iff (hword : word.all isWordChar) (hne : word ≠ []) :
    IsSelfContained (word ++ text) ↔ IsClosed text := by
  rw [← isClosed_append_iff hword]
  constructor
  · rintro (hclosed | ⟨number, heq, -, -⟩)
    · exact hclosed
    · -- A word does not start with a minus.
      obtain ⟨first, rest, rfl⟩ := List.exists_cons_of_ne_nil hne
      obtain rfl : first = '-' := (List.cons.inj heq).1
      exact absurd (List.all_eq_true.1 hword '-' (by simp)) (by decide)
  · exact .inl

end Word

end SymbolStyle.Glsl

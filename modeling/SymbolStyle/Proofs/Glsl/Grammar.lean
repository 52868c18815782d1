import SymbolStyle.Proofs.Glsl.Token

/-! # Grammar of expressions

    Which tokens are an expression of the shading language, and which tree it
    is. The rules are those of the language for the operators that compiled
    code consists of, from the tightest category to the loosest: calls, the
    unary minus, the levels of binary operators, the choice.

    * `Derives` gives the rules as they stand in the language, with operators
      of one level grouped to the left by left recursion.
    * `readTerm` goes through tokens once, from left to right, and is used only
      to show that the rules leave no choice.
    * `Derives.unique`: tokens are at most one tree.
-/

namespace SymbolStyle.Glsl

/-- The tree of an expression as it is read. Brackets are not part of it. -/
inductive Term where
  /-- A number without a sign, as it is written. -/
  | number (text : String)
  | name (text : String)
  | call (function : String) (arguments : List Term)
  | negate (operand : Term)
  | binary (op : BinaryOperator) (left right : Term)
  | choice (condition yes no : Term)

/-! ## Rules -/

/-- The categories of expressions. -/
inductive Category where
  /-- Numbers, names and what stands in brackets. -/
  | primary
  /-- Calls, and what is no call. -/
  | call
  | unary
  | multiplicative
  | additive
  | relational
  | equality
  | conjunction
  /-- Choices, and what is no choice. -/
  | expression
  /-- A call up to its closing bracket. -/
  | header
  deriving DecidableEq

namespace Category

/-- The binary operators of a category. -/
def operators : Category → List BinaryOperator
  | .multiplicative => [.multiply, .divide]
  | .additive => [.add, .subtract]
  | .relational => [.less, .greater, .lessOrEqual, .greaterOrEqual]
  | .equality => [.equal]
  | .conjunction => [.and]
  | _ => []

/-- The next tighter category, to which the operands belong. -/
def operand? : Category → Option Category
  | .primary | .header => none
  | .call => some .primary
  | .unary => some .call
  | .multiplicative => some .unary
  | .additive => some .multiplicative
  | .relational => some .additive
  | .equality => some .relational
  | .conjunction => some .equality
  | .expression => some .conjunction

/-- The place of a category, from the tightest one on. -/
def rank : Category → Nat
  | .primary => 0
  | .call => 1
  | .unary => 2
  | .multiplicative => 3
  | .additive => 4
  | .relational => 5
  | .equality => 6
  | .conjunction => 7
  | .expression => 8
  | .header => 9

theorem rank_operand {c d : Category} (h : c.operand? = some d) : d.rank < c.rank := by
  cases c <;> simp [operand?] at h <;> subst h <;> decide

end Category

/-- The tokens are an expression of the category, and the term is its tree. -/
inductive Derives : Category → List Token → Term → Prop where
  | number {text : String} : Derives .primary [.number text] (.number text)
  | name {text : String} : Derives .primary [.word text] (.name text)
  | group {tokens : List Token} {t : Term} (h : Derives .expression tokens t) :
      Derives .primary (.opening :: tokens ++ [.closing]) t
  | firstArgument {function : String} {tokens : List Token} {t : Term}
      (h : Derives .expression tokens t) :
      Derives .header (.word function :: .opening :: tokens) (.call function [t])
  | nextArgument {function : String} {before tokens : List Token} {arguments : List Term}
      {t : Term} (hbefore : Derives .header before (.call function arguments))
      (h : Derives .expression tokens t) :
      Derives .header (before ++ .comma :: tokens) (.call function (arguments ++ [t]))
  | call {tokens : List Token} {t : Term} (h : Derives .header tokens t) :
      Derives .call (tokens ++ [.closing]) t
  | negate {tokens : List Token} {t : Term} (h : Derives .unary tokens t) :
      Derives .unary (.operator .subtract :: tokens) (.negate t)
  | binary {c d : Category} {op : BinaryOperator} {left right : List Token} {a b : Term}
      (hop : op ∈ c.operators) (hc : c.operand? = some d) (ha : Derives c left a)
      (hb : Derives d right b) : Derives c (left ++ .operator op :: right) (.binary op a b)
  | choice {condition yes no : List Token} {a b c : Term} (ha : Derives .conjunction condition a)
      (hb : Derives .expression yes b) (hc : Derives .expression no c) :
      Derives .expression (condition ++ .question :: (yes ++ .colon :: no)) (.choice a b c)
  | operand {c d : Category} {tokens : List Token} {t : Term} (hc : c.operand? = some d)
      (h : Derives d tokens t) : Derives c tokens t

/-- The text falls into tokens that are an expression, and the term is its
    tree. -/
def ReadsAs (text : List Char) (c : Category) (t : Term) : Prop :=
  ∃ tokens, tokens? text = some tokens ∧ Derives c tokens t

/-! ## Reading from left to right -/

mutual

/-- Reads one expression of a category, and yields what is left of the
    tokens. The number bounds the steps. -/
@[simp] def readTerm : Nat → Category → List Token → Option (Term × List Token)
  | 0, _, _ => none
  | _ + 1, .primary, .number text :: rest => some (.number text, rest)
  | _ + 1, .primary, .word text :: rest => some (.name text, rest)
  | steps + 1, .primary, .opening :: rest =>
    match readTerm steps .expression rest with
    | some (t, .closing :: rest) => some (t, rest)
    | _ => none
  | steps + 1, .header, .word function :: .opening :: rest => do
    let (t, rest) ← readTerm steps .expression rest
    resumeTerm steps .header (.call function [t]) rest
  | steps + 1, .call, .word function :: .opening :: rest =>
    match readTerm steps .header (.word function :: .opening :: rest) with
    | some (t, .closing :: rest) => some (t, rest)
    | _ => none
  | steps + 1, .unary, .operator .subtract :: rest => do
    let (t, rest) ← readTerm steps .unary rest
    return (.negate t, rest)
  | steps + 1, c, tokens => do
    let (t, rest) ← readTerm steps (← c.operand?) tokens
    resumeTerm steps c t rest

/-- Goes on with an expression of a category after its first part was read. -/
def resumeTerm : Nat → Category → Term → List Token → Option (Term × List Token)
  | 0, _, _, _ => none
  | steps + 1, .header, .call function arguments, .comma :: rest => do
    let (t, rest) ← readTerm steps .expression rest
    resumeTerm steps .header (.call function (arguments ++ [t])) rest
  | steps + 1, .expression, a, .question :: rest =>
    match readTerm steps .expression rest with
    | some (b, .colon :: rest) => do
      let (c, rest) ← readTerm steps .expression rest
      return (.choice a b c, rest)
    | _ => none
  | steps + 1, c, a, .operator op :: rest =>
    if op ∈ c.operators then do
      let (b, rest) ← readTerm steps (← c.operand?) rest
      resumeTerm steps c (.binary op a b) rest
    else some (a, .operator op :: rest)
  | _ + 1, _, a, tokens => some (a, tokens)

end

/-! ### Enough steps -/

/-- With enough steps, the result is reached. -/
def Settles (f : Nat → Option (Term × List Token)) (r : Term × List Token) : Prop :=
  ∃ n, ∀ steps, n ≤ steps → f steps = some r

namespace Settles

variable {f g : Nat → Option (Term × List Token)} {r r' : Term × List Token}

theorem unique (h : Settles f r) (h' : Settles f r') : r = r' := by
  obtain ⟨n, hn⟩ := h
  obtain ⟨n', hn'⟩ := h'
  -- With the larger number of steps both results are reached.
  have hr := hn (max n n') (by omega)
  have hr' := hn' (max n n') (by omega)
  exact Option.some.inj (hr.symm.trans hr')

theorem const (h : ∀ steps, f (steps + 1) = some r) : Settles f r := by
  refine ⟨1, fun steps hsteps => ?_⟩
  obtain ⟨m, rfl⟩ : ∃ m, steps = m + 1 := ⟨steps - 1, by omega⟩
  exact h m

/-- One step more than another computation. -/
theorem step (h : Settles g r') (hstep : ∀ steps, g steps = some r' → f (steps + 1) = some r) :
    Settles f r := by
  obtain ⟨n, hn⟩ := h
  refine ⟨n + 1, fun steps hsteps => ?_⟩
  obtain ⟨m, rfl⟩ : ∃ m, steps = m + 1 := ⟨steps - 1, by omega⟩
  exact hstep m (hn m (by omega))

/-- One step more than two other computations. -/
theorem step_two {g' : Nat → Option (Term × List Token)} {r'' : Term × List Token}
    (h : Settles g r') (h' : Settles g' r'')
    (hstep : ∀ steps, g steps = some r' → g' steps = some r'' → f (steps + 1) = some r) :
    Settles f r := by
  obtain ⟨n, hn⟩ := h
  obtain ⟨n', hn'⟩ := h'
  refine ⟨max n n' + 1, fun steps hsteps => ?_⟩
  obtain ⟨m, rfl⟩ : ∃ m, steps = m + 1 := ⟨steps - 1, by omega⟩
  exact hstep m (hn m (by omega)) (hn' m (by omega))

end Settles

/-- Reading the tokens yields the result. -/
def ReadsTo (c : Category) (tokens : List Token) (r : Term × List Token) : Prop :=
  Settles (readTerm · c tokens) r

/-- Going on through the tokens yields the result. -/
def ResumesTo (c : Category) (a : Term) (tokens : List Token) (r : Term × List Token) : Prop :=
  Settles (resumeTerm · c a tokens) r

/-! ### Going on -/

namespace Category

/-- Whether an expression of the category goes on with the token. -/
def goesOn : Category → Token → Bool
  | .primary, .opening => true
  | .expression, .question => true
  | .header, .comma => true
  | c, .operator op => op ∈ c.operators
  | _, _ => false

/-- An expression of the category ends before the tokens. -/
def EndsBefore (c : Category) (tokens : List Token) : Prop :=
  ∀ token ∈ tokens.head?, c.goesOn token = false

theorem endsBefore_nil (c : Category) : c.EndsBefore [] := by
  simp [EndsBefore]

theorem endsBefore_cons {c : Category} {token : Token} {tokens : List Token} :
    c.EndsBefore (token :: tokens) ↔ c.goesOn token = false := by
  simp [EndsBefore]

end Category

namespace ResumesTo

variable {c d : Category} {a b t : Term} {tokens rest : List Token} {r : Term × List Token}

/-- An expression ends before what it does not go on with. -/
theorem stop (h : c.EndsBefore tokens) : ResumesTo c a tokens (a, tokens) := by
  apply Settles.const
  intro steps
  cases tokens with
  | nil => rw [resumeTerm] <;> simp
  | cons token tokens =>
    rw [Category.endsBefore_cons] at h
    -- Only operators, question marks and commas have branches of their own.
    cases token with
    | operator op =>
      have hop : op ∉ c.operators := by
        cases c <;> simpa [Category.goesOn] using h
      rw [resumeTerm, if_neg hop]
    | question =>
      rw [resumeTerm]
      · simp
      · rintro _ rfl
        simp [Category.goesOn] at h
      · simp
    | comma =>
      rw [resumeTerm]
      · simp
      · simp
      · rintro _ _ _ rfl
        simp [Category.goesOn] at h
    | _ => rw [resumeTerm] <;> simp

theorem operator {op : BinaryOperator} (hop : op ∈ c.operators) (hc : c.operand? = some d)
    (hb : ReadsTo d tokens (b, rest)) (h : ResumesTo c (.binary op a b) rest r) :
    ResumesTo c a (.operator op :: tokens) r := by
  apply Settles.step_two hb h
  intro steps hread hresume
  rw [resumeTerm, if_pos hop, hc]
  simpa [hread] using hresume

theorem argument {function : String} {arguments : List Term}
    (ht : ReadsTo .expression tokens (t, rest))
    (h : ResumesTo .header (.call function (arguments ++ [t])) rest r) :
    ResumesTo .header (.call function arguments) (.comma :: tokens) r := by
  apply Settles.step_two ht h
  intro steps hread hresume
  rw [resumeTerm, hread]
  exact hresume

theorem choice {yes no : Term} (hyes : ReadsTo .expression tokens (yes, .colon :: rest))
    {left : List Token} (hno : ReadsTo .expression rest (no, left)) :
    ResumesTo .expression a (.question :: tokens) (.choice a yes no, left) := by
  apply Settles.step_two hyes hno
  intro steps hread hread'
  rw [resumeTerm, hread]
  simp [hread']

/-- A category without operators does not go on, calls and choices apart. -/
theorem eq_of_operators_eq_nil (hc : c.operators = []) (hheader : c ≠ .header)
    (hchoice : c = .expression → c.EndsBefore tokens) (h : ResumesTo c a tokens r) :
    r = (a, tokens) := by
  apply Settles.unique h
  by_cases hexpression : c = .expression
  · exact stop (hchoice hexpression)
  · apply Settles.const
    intro steps
    cases tokens with
    | nil => rw [resumeTerm] <;> simp
    | cons token tokens =>
      cases token with
      | operator op => simp [resumeTerm, hc]
      | _ => rw [resumeTerm] <;> simp [hheader, hexpression]

end ResumesTo

/-! ### Reading -/

namespace ReadsTo

variable {rest : List Token} {t : Term} {r : Term × List Token}

theorem number {text : String} : ReadsTo .primary (.number text :: rest) (.number text, rest) := by
  apply Settles.const
  intro steps
  rw [readTerm]

theorem name {text : String} : ReadsTo .primary (.word text :: rest) (.name text, rest) := by
  apply Settles.const
  intro steps
  rw [readTerm]

theorem group {tokens : List Token} (h : ReadsTo .expression tokens (t, .closing :: rest)) :
    ReadsTo .primary (.opening :: tokens) (t, rest) := by
  apply Settles.step h
  intro steps hread
  rw [readTerm, hread]

theorem header {function : String} {tokens : List Token}
    (ht : ReadsTo .expression tokens (t, rest))
    (h : ResumesTo .header (.call function [t]) rest r) :
    ReadsTo .header (.word function :: .opening :: tokens) r := by
  apply Settles.step_two ht h
  intro steps hread hresume
  rw [readTerm, hread]
  exact hresume

theorem call {function : String} {tokens : List Token}
    (h : ReadsTo .header (.word function :: .opening :: tokens) (t, .closing :: rest)) :
    ReadsTo .call (.word function :: .opening :: tokens) (t, rest) := by
  apply Settles.step h
  intro steps hread
  rw [readTerm, hread]

theorem negate {tokens : List Token} (h : ReadsTo .unary tokens (t, rest)) :
    ReadsTo .unary (.operator .subtract :: tokens) (.negate t, rest) := by
  apply Settles.step h
  intro steps hread
  rw [readTerm, hread]
  rfl

/-- Where no form of its own starts, an expression of a category starts with
    one of the next tighter category. -/
theorem operand {c d : Category} {tokens : List Token} (hc : c.operand? = some d)
    (hcall : c = .call → ∀ function left, tokens ≠ .word function :: .opening :: left)
    (hunary : c = .unary → ∀ left, tokens ≠ .operator .subtract :: left)
    (ht : ReadsTo d tokens (t, rest)) (h : ResumesTo c t rest r) : ReadsTo c tokens r := by
  apply Settles.step_two ht h
  intro steps hread hresume
  have hprimary : c ≠ .primary := by
    rintro rfl
    simp [Category.operand?] at hc
  have hheader : c ≠ .header := by
    rintro rfl
    simp [Category.operand?] at hc
  rw [readTerm, hc]
  · simpa [hread] using hresume
  -- The other branches of the reader are ruled out one by one.
  · exact fun _ _ heq => absurd heq hprimary
  · exact fun _ _ heq => absurd heq hprimary
  · exact fun _ heq => absurd heq hprimary
  · exact fun _ _ heq => absurd heq hheader
  · exact fun function left heq => hcall heq function left
  · exact fun left heq => hunary heq left

end ReadsTo

/-! ## The rules leave no choice -/

namespace Category

/-- Nothing stands before the tokens that belongs to a tighter category, or to
    the choice that the category is. -/
structure Ready (c : Category) (tokens : List Token) : Prop where
  tighter : ∀ d : Category, d.rank < c.rank → d.EndsBefore tokens
  choice : c = .expression → c.EndsBefore tokens

theorem ready_nil (c : Category) : c.Ready [] :=
  ⟨fun d _ => d.endsBefore_nil, fun _ => c.endsBefore_nil⟩

/-- A token with which only looser categories go on, and no choice. -/
theorem ready_cons {c : Category} {token : Token} (tokens : List Token)
    (h : ∀ d : Category, d.rank < c.rank → d.goesOn token = false)
    (hchoice : c = .expression → c.goesOn token = false) : c.Ready (token :: tokens) :=
  ⟨fun d hd => endsBefore_cons.2 (h d hd), fun hc => endsBefore_cons.2 (hchoice hc)⟩

/-- The operands of a category end where its expressions do. -/
theorem Ready.operand {c d : Category} {tokens : List Token} (h : c.Ready tokens)
    (hd : c.operand? = some d) : d.Ready tokens ∧ d.EndsBefore tokens := by
  have hrank := rank_operand hd
  refine ⟨⟨?_, ?_⟩, h.tighter d hrank⟩
  · intro other hother
    exact h.tighter other (by omega)
  · intro _
    exact h.tighter d hrank

/-- An operator belongs to one category. -/
theorem goesOn_operator_of_ne {c d : Category} {op : BinaryOperator} (hop : op ∈ c.operators)
    (hne : d ≠ c) : d.goesOn (.operator op) = false := by
  cases op <;> cases c <;> simp [operators] at hop <;> cases d
  all_goals first | rfl | exact absurd rfl hne

end Category

namespace Derives

/-- What a call starts with up to its closing bracket. -/
theorem exists_of_header {tokens : List Token} {t : Term} (h : Derives .header tokens t) :
    ∃ function left, tokens = .word function :: .opening :: left := by
  generalize hc : Category.header = c at h
  induction h with
  | firstArgument h => exact ⟨_, _, rfl⟩
  | nextArgument hbefore h ihbefore ih =>
    obtain ⟨function, left, rfl⟩ := ihbefore hc
    exact ⟨_, _, rfl⟩
  | binary hop hd ha hb => subst hc; simp [Category.operators] at hop
  | operand hd h => subst hc; simp [Category.operand?] at hd
  | _ => contradiction

/-- A primary expression is no start of a call, unless a bracket follows it. -/
theorem ne_call_of_primary {tokens rest : List Token} {t : Term} (h : Derives .primary tokens t)
    (hrest : Category.EndsBefore .primary rest) (function : String) (left : List Token) :
    tokens ++ rest ≠ .word function :: .opening :: left := by
  intro heq
  generalize hc : Category.primary = c at h
  cases h with
  | name =>
    simp only [List.singleton_append, List.cons.injEq] at heq
    obtain ⟨-, rfl⟩ := heq
    simp [Category.EndsBefore, Category.goesOn] at hrest
  | binary hop hd ha hb => subst hc; simp [Category.operators] at hop
  | operand hd h => subst hc; simp [Category.operand?] at hd
  | number => simp at heq
  | group h => simp at heq
  | _ => contradiction

/-- A call starts with no sign. -/
theorem ne_operator_of_call {tokens : List Token} {t : Term} (h : Derives .call tokens t)
    (rest : List Token) (op : BinaryOperator) (left : List Token) :
    tokens ++ rest ≠ .operator op :: left := by
  intro heq
  generalize hc : Category.call = c at h
  cases h with
  | call h =>
    obtain ⟨function, left, rfl⟩ := h.exists_of_header
    simp at heq
  | binary hop hd ha hb => subst hc; simp [Category.operators] at hop
  | operand hd h =>
    subst hc
    obtain rfl : Category.primary = _ := by simpa [Category.operand?] using hd
    generalize hc : Category.primary = c at h
    cases h with
    | binary hop hd ha hb => subst hc; simp [Category.operators] at hop
    | operand hd h => subst hc; simp [Category.operand?] at hd
    | number => simp at heq
    | name => simp at heq
    | group h => simp at heq
    | _ => contradiction
  | _ => contradiction

/-- Reading finds what the rules derive, whatever follows it and does not
    belong to it: reading its tokens is going on after it. -/
theorem readsTo {c : Category} {tokens : List Token} {t : Term} (h : Derives c tokens t) :
    ∀ rest, c.Ready rest → ∀ r, ResumesTo c t rest r → ReadsTo c (tokens ++ rest) r := by
  -- The induction is on the derivation. What follows and the result stay
  -- open, since the left part of an operation is read on through the right one.
  induction h with
  | number =>
    intro rest hready r hr
    obtain rfl := hr.eq_of_operators_eq_nil rfl (by simp) (by simp)
    exact .number
  | name =>
    intro rest hready r hr
    obtain rfl := hr.eq_of_operators_eq_nil rfl (by simp) (by simp)
    exact .name
  | @group tokens t h ih =>
    intro rest hready r hr
    obtain rfl := hr.eq_of_operators_eq_nil rfl (by simp) (by simp)
    -- No category goes on with a closing bracket.
    have hclosing : Category.Ready .expression (.closing :: rest) :=
      Category.ready_cons rest (by intro d _; cases d <;> rfl) (fun _ => rfl)
    have hinner := ih (.closing :: rest) hclosing _ (.stop (Category.endsBefore_cons.2 rfl))
    simpa using hinner.group
  | @firstArgument function tokens t h ih =>
    intro rest hready r hr
    have hready' : Category.Ready .expression rest :=
      ⟨fun d hd => hready.tighter d (Nat.lt_succ_of_lt hd), fun _ => hready.tighter _ (by decide)⟩
    exact (ih rest hready' _ (.stop (hready.tighter _ (by decide)))).header hr
  | @nextArgument function before tokens arguments t hbefore h ihbefore ih =>
    intro rest hready r hr
    have hready' : Category.Ready .expression rest :=
      ⟨fun d hd => hready.tighter d (Nat.lt_succ_of_lt hd), fun _ => hready.tighter _ (by decide)⟩
    have hlast := ih rest hready' _ (.stop (hready.tighter _ (by decide)))
    -- The arguments before were read by going on to the comma.
    have hcomma : Category.Ready .header (.comma :: (tokens ++ rest)) := by
      apply Category.ready_cons _ _ (by simp)
      intro d hd
      cases d <;> first | rfl | exact absurd hd (by decide)
    simpa using ihbefore _ hcomma r (.argument hlast hr)
  | @call tokens t h ih =>
    intro rest hready r hr
    obtain rfl := hr.eq_of_operators_eq_nil rfl (by simp) (by simp)
    have hclosing : Category.Ready .header (.closing :: rest) :=
      Category.ready_cons rest (by intro d _; cases d <;> rfl) (by simp)
    have hinner := ih (.closing :: rest) hclosing _ (.stop (Category.endsBefore_cons.2 rfl))
    -- The reader decides for a call by the first two tokens.
    obtain ⟨function, left, rfl⟩ := h.exists_of_header
    simpa using hinner.call
  | @negate tokens t h ih =>
    intro rest hready r hr
    obtain rfl := hr.eq_of_operators_eq_nil rfl (by simp) (by simp)
    have hends : Category.EndsBefore .unary rest := by
      intro token _
      cases token <;> rfl
    exact (ih rest hready _ (.stop hends)).negate
  | @binary c d op left right a b hop hd ha hb iha ihb =>
    intro rest hready r hr
    have hoperand := hready.operand hd
    have hright := ihb rest hoperand.1 _ (.stop hoperand.2)
    have hne : c ≠ .expression := by
      rintro rfl
      simp [Category.operators] at hop
    have hsign : c.Ready (.operator op :: (right ++ rest)) := by
      apply Category.ready_cons _ _ (fun hc => absurd hc hne)
      intro other hother
      apply Category.goesOn_operator_of_ne hop
      rintro rfl
      exact absurd hother (Nat.lt_irrefl _)
    -- The left operand was read by going on to the operator.
    simpa using iha _ hsign r (.operator hop hd hright hr)
  | @choice condition yes no a b c ha hb hc iha ihb ihc =>
    intro rest hready r hr
    obtain rfl := hr.eq_of_operators_eq_nil rfl (by simp) hready.choice
    -- From the last part to the first, each ends where the next one starts.
    have hno := ihc rest hready _ (.stop (hready.choice rfl))
    have hcolon : Category.Ready .expression (.colon :: (no ++ rest)) :=
      Category.ready_cons _ (by intro d _; cases d <;> rfl) (fun _ => rfl)
    have hyes := ihb _ hcolon _ (.stop (Category.endsBefore_cons.2 rfl))
    have hquestion :
        Category.Ready .conjunction (.question :: (yes ++ .colon :: (no ++ rest))) := by
      apply Category.ready_cons _ _ (by simp)
      intro d hd
      cases d <;> first | rfl | exact absurd hd (by decide)
    have hcondition := iha _ hquestion _ (.stop (Category.endsBefore_cons.2 rfl))
    have hchoice := ReadsTo.operand rfl (by simp) (by simp) hcondition (.choice hyes hno)
    simpa using hchoice
  | @operand c d tokens t hd h ih =>
    intro rest hready r hr
    have hoperand := hready.operand hd
    have ht := ih rest hoperand.1 _ (.stop hoperand.2)
    -- What is no call and no negation is not taken for one either.
    apply ReadsTo.operand hd _ _ ht hr
    · rintro rfl function left
      obtain rfl : Category.primary = d := by simpa [Category.operand?] using hd
      exact h.ne_call_of_primary hoperand.2 function left
    · rintro rfl left
      obtain rfl : Category.call = d := by simpa [Category.operand?] using hd
      exact h.ne_operator_of_call rest .subtract left

/-- The rules are unambiguous: tokens are at most one tree. -/
theorem unique {c : Category} {tokens : List Token} {t t' : Term} (h : Derives c tokens t)
    (h' : Derives c tokens t') : t = t' := by
  -- The reader yields both trees, and it yields one result.
  have hread := h.readsTo [] c.ready_nil _ (.stop c.endsBefore_nil)
  have hread' := h'.readsTo [] c.ready_nil _ (.stop c.endsBefore_nil)
  exact congrArg Prod.fst (hread.unique hread')

end Derives

/-- A text is at most one tree. -/
theorem ReadsAs.unique {text : List Char} {c : Category} {t t' : Term} (h : ReadsAs text c t)
    (h' : ReadsAs text c t') : t = t' := by
  obtain ⟨tokens, htokens, hderives⟩ := h
  obtain ⟨tokens', htokens', hderives'⟩ := h'
  obtain rfl := Option.some.inj (htokens.symm.trans htokens')
  exact hderives.unique hderives'

/-- A text that is read as a tree is read as no other one. -/
theorem ReadsAs.iff_eq {text : List Char} {c : Category} {t : Term} (h : ReadsAs text c t)
    (t' : Term) : ReadsAs text c t' ↔ t' = t := by
  constructor
  · intro h'
    exact h'.unique h
  · rintro rfl
    exact h

end SymbolStyle.Glsl

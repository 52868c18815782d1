import Mathlib.Data.List.Forall2
import SymbolStyle.Proofs.Glsl.Grammar
import SymbolStyle.Proofs.Number.Positional
import SymbolStyle.Sequence

/-! # Reading rendered expressions

    What the text of an expression tree is read as, from what the texts of
    its parts are read as. Each form of trees has one lemma, which says in
    which category the whole is if the parts are in categories that are tight
    enough.
-/

namespace SymbolStyle.Glsl

/-! ## Categories -/

theorem Category.eq_of_rank {c d : Category} (h : c.rank = d.rank) : c = d := by
  cases c <;> cases d <;> first | rfl | exact absurd h (by decide)

/-- Every category of expressions but the tightest one has a next tighter
    one. -/
theorem Category.exists_operand {d : Category} (hpos : 0 < d.rank)
    (hexpression : d.rank ≤ Category.expression.rank) :
    ∃ d', d.operand? = some d' ∧ d'.rank + 1 = d.rank := by
  cases d <;> first
    | exact ⟨_, rfl, rfl⟩
    | exact absurd hpos (by decide)
    | exact absurd hexpression (by decide)

/-- An expression of a category is one of each looser category. -/
theorem Derives.loosen {c d : Category} {tokens : List Token} {t : Term} (h : Derives c tokens t)
    (hle : c.rank ≤ d.rank) (hexpression : d.rank ≤ Category.expression.rank) :
    Derives d tokens t := by
  obtain ⟨n, hn⟩ : ∃ n, d.rank = c.rank + n := ⟨d.rank - c.rank, by omega⟩
  induction n generalizing d with
  | zero => exact Category.eq_of_rank hn ▸ h
  | succ n ih =>
    obtain ⟨d', hoperand, hrank⟩ := d.exists_operand (by omega) hexpression
    exact .operand hoperand (ih (by omega) (by omega) (by omega))

namespace ReadsAs

variable {x y z : List Char} {a b t : Term} {c d : Category}

theorem loosen (h : ReadsAs x c t) (hle : c.rank ≤ d.rank)
    (hexpression : d.rank ≤ Category.expression.rank) : ReadsAs x d t := by
  obtain ⟨tokens, htokens, hderives⟩ := h
  exact ⟨tokens, htokens, hderives.loosen hle hexpression⟩

/-- Any category of expressions is one. -/
theorem expression (h : ReadsAs x c t) (hexpression : c.rank ≤ Category.expression.rank) :
    ReadsAs x .expression t :=
  h.loosen hexpression (by decide)

/-! ## Forms of trees -/

theorem group (h : ReadsAs x .expression t) : ReadsAs ('(' :: x ++ [')']) .primary t := by
  obtain ⟨tokens, htokens, hderives⟩ := h
  exact ⟨_, tokens?_bracketed htokens, hderives.group⟩

theorem binary {op : BinaryOperator} {left right : Category} (hop : op ∈ c.operators)
    (ha : ReadsAs x left a) (hleft : left.rank ≤ c.rank) (hb : ReadsAs y right b)
    (hright : right.rank < c.rank) (hexpression : c.rank ≤ Category.expression.rank) :
    ReadsAs (x ++ ' ' :: op.text.toList ++ ' ' :: y) c (.binary op a b) := by
  obtain ⟨xs, hxs, ha⟩ := ha
  obtain ⟨ys, hys, hb⟩ := hb
  -- On the left the category itself is allowed, on the right only tighter ones.
  obtain ⟨d, hoperand, hrank⟩ := c.exists_operand (by omega) hexpression
  refine ⟨_, tokens?_spaced (tokens?_spaced hxs (tokens?_operator op)) hys, ?_⟩
  rw [List.append_assoc]
  exact .binary hop hoperand (ha.loosen hleft hexpression) (hb.loosen (by omega) (by omega))

theorem choice {condition : Category} {p q r : Term} (hp : ReadsAs x condition p)
    (hcondition : condition.rank < Category.expression.rank) (hq : ReadsAs y .expression q)
    (hr : ReadsAs z .expression r) :
    ReadsAs (x ++ " ? ".toList ++ y ++ " : ".toList ++ z) .expression (.choice p q r) := by
  obtain ⟨xs, hxs, hp⟩ := hp
  obtain ⟨ys, hys, hq⟩ := hq
  obtain ⟨zs, hzs, hr⟩ := hr
  -- From right to left: the colon, then the question mark.
  have hno : tokens? ([] ++ ' ' :: z) = some ([] ++ zs) := tokens?_spaced tokens?_nil hzs
  have hyes : tokens? (y ++ ' ' :: []) = some (ys ++ []) := tokens?_spaced hys tokens?_nil
  have hcolon : tokens? ((y ++ ' ' :: []) ++ ':' :: ([] ++ ' ' :: z))
      = some ((ys ++ []) ++ ([.colon] ++ ([] ++ zs))) :=
    tokens?_separated (by decide) (by decide) hyes hno
  have hbranches := tokens?_spaced tokens?_nil hcolon
  have hquestion := tokens?_separated (by decide) (by decide : tokens? ['?'] = some [.question])
    (tokens?_spaced hxs tokens?_nil) hbranches
  refine ⟨xs ++ .question :: (ys ++ .colon :: zs), ?_, .choice (hp.loosen ?_ (by decide)) hq hr⟩
  · simpa using hquestion
  · exact Nat.le_of_lt_succ hcondition

/-- More arguments after those that were read. -/
theorem header_append {function : String} {arguments ts : List Term} {xs : List (List Char)}
    (hx : ReadsAs x .header (.call function arguments))
    (hxs : List.Forall₂ (fun y t => ReadsAs y .expression t) xs ts) :
    ReadsAs (x ++ (xs.map ([',', ' '] ++ ·)).flatten) .header
      (.call function (arguments ++ ts)) := by
  induction hxs generalizing x arguments with
  | nil => simpa using hx
  | @cons y t xs ts hy _ ih =>
    -- One more argument is read, and the others come after it.
    obtain ⟨before, hbefore, hx⟩ := hx
    obtain ⟨tokens, htokens, hy⟩ := hy
    have hlast : tokens? ([] ++ ' ' :: y) = some ([] ++ tokens) :=
      tokens?_spaced tokens?_nil htokens
    have hcomma : tokens? (x ++ ',' :: ([] ++ ' ' :: y))
        = some (before ++ ([.comma] ++ ([] ++ tokens))) :=
      tokens?_separated (by decide) (by decide) hbefore hlast
    have hnext : ReadsAs (x ++ [',', ' '] ++ y) .header (.call function (arguments ++ [t])) :=
      ⟨before ++ .comma :: tokens, by simpa using hcomma, hx.nextArgument hy⟩
    simpa using ih hnext

/-- A function and one argument or more, with commas between them. -/
theorem call {function : Function} {xs : List (List Char)} {ts : List Term}
    (h : List.Forall₂ (fun y t => ReadsAs y .expression t) xs ts) (hne : xs ≠ []) :
    ReadsAs (function.name.toList ++ '(' :: [',', ' '].intercalate xs ++ [')']) .call
      (.call function.name ts) := by
  have hname : tokens? function.name.toList = some [.word function.name] := by
    cases function <;> decide
  cases h with
  | nil => exact absurd rfl hne
  | @cons y t xs ts hy hys =>
    obtain ⟨tokens, htokens, hy⟩ := hy
    have hfirst : ReadsAs (function.name.toList ++ '(' :: y) .header (.call function.name [t]) :=
      ⟨_, tokens?_separated (by decide) (by decide : tokens? ['('] = some [.opening]) hname htokens,
        hy.firstArgument⟩
    obtain ⟨header, hheader, hderives⟩ := hfirst.header_append hys
    have hclosing := tokens?_separated (by decide) (by decide : tokens? [')'] = some [.closing])
      hheader tokens?_nil
    refine ⟨header ++ [.closing], ?_, hderives.call⟩
    simpa [intercalate_cons] using hclosing

end ReadsAs

/-! ## Literals -/

/-- The term of a literal: a negative one is the negation of a number. -/
def Literal.term (l : Literal) : Term :=
  let number := .number (String.ofList l.magnitude.shortest.positional)
  if l.negative then .negate number else number

theorem readsAs_positional (d : Decimal) :
    ReadsAs d.positional .unary (.number (String.ofList d.positional)) := by
  obtain ⟨whole, places, heq, hwhole, hplaces, hdigits⟩ := exists_digits_of_positional d
  have htokens := tokens?_numeral hwhole hplaces hdigits
  rw [← heq] at htokens
  exact ⟨_, htokens, Derives.number.loosen (by decide) (by decide)⟩

/-- A literal is read as it stands, the minus of a negative one as a sign of
    its own. -/
theorem readsAs_literal (l : Literal) : ReadsAs l.text .unary l.term := by
  cases hnegative : l.negative with
  | false =>
    have htext : l.text = l.magnitude.shortest.positional := by
      simp [Literal.text, Double.signed, hnegative]
    simpa [htext, Literal.term, hnegative] using readsAs_positional l.magnitude.shortest
  | true =>
    have htext : l.text = ['-'] ++ l.magnitude.shortest.positional := by
      simp [Literal.text, Double.signed, hnegative]
    obtain ⟨tokens, htokens, hderives⟩ := readsAs_positional l.magnitude.shortest
    -- What follows the minus is a digit, so the two stay apart.
    have hborder : ∀ c ∈ ['-'].getLast?, ∀ d ∈ l.magnitude.shortest.positional.head?,
        joins c d = false := by
      obtain ⟨whole, places, heq, hwhole, -, hdigits⟩ :=
        exists_digits_of_positional l.magnitude.shortest
      obtain ⟨first, rest, rfl⟩ := List.exists_cons_of_ne_nil hwhole
      intro c hc d hd
      obtain rfl : '-' = c := by simpa using hc
      obtain rfl : first = d := by simpa [heq] using hd
      exact not_joins_minus_of_isDigit (hdigits first (by simp))
    refine ⟨[.operator .subtract] ++ tokens, ?_, ?_⟩
    · rw [htext]
      exact tokens?_append (by decide) htokens hborder
    · simpa [Literal.term, hnegative] using hderives.negate

end SymbolStyle.Glsl

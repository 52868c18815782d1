import Mathlib.Algebra.Order.Field.Rat
import Mathlib.Tactic.FieldSimp
import Mathlib.Tactic.Linarith
import SymbolStyle.Proofs.Emission
import SymbolStyle.Proofs.Number.Positional

/-! # Evaluating code

    What the trees that code is read as compute, over the rational numbers.

    * `Arithmetic`: what is left open, namely remainders, powers and quotients
      by zero.
    * `Arithmetic.stretch`: a range of numbers stretched to another one, with
      the laws that it obeys.
    * `Term.eval`: the value of a tree, if all its parts are of the types that
      they should have.
-/

namespace SymbolStyle

/-- What arithmetic leaves open. -/
structure Arithmetic where
  mod : ℚ → ℚ → ℚ
  pow : ℚ → ℚ → ℚ
  /-- What a number divided by zero gives. -/
  overZero : ℚ → ℚ

/-- The number in a range that is nearest to another one. -/
def clamp (x low high : ℚ) : ℚ := min (max x low) high

/-- The mixture of two numbers. -/
def mix (start stop ratio : ℚ) : ℚ := start * (1 - ratio) + stop * ratio

namespace Arithmetic

variable (A : Arithmetic)

/-- A quotient. -/
def divide (x y : ℚ) : ℚ := if y = 0 then A.overZero x else x / y

/-- The number that is as far along a new range as the given one is along an old
    one. -/
def stretch (x low high newLow newHigh : ℚ) : ℚ :=
  (clamp x low high - low) * A.divide (newHigh - newLow) (high - low) + newLow

/-! ### Laws of stretching -/

section Stretch

variable {low high newLow newHigh : ℚ}

theorem divide_of_lt (h : low < high) (x : ℚ) : A.divide x (high - low) = x / (high - low) := by
  unfold divide
  rw [if_neg]
  intro hzero
  linarith

/-- Up to the start of the old range stands the start of the new one. -/
theorem stretch_of_le (h : low < high) {x : ℚ} (hx : x ≤ low) :
    A.stretch x low high newLow newHigh = newLow := by
  have hclamp : clamp x low high = low := by
    unfold clamp
    rw [max_eq_right hx, min_eq_left h.le]
  rw [stretch, hclamp, sub_self, zero_mul, zero_add]

/-- From the end of the old range on stands the end of the new one. -/
theorem stretch_of_ge (h : low < high) {x : ℚ} (hx : high ≤ x) :
    A.stretch x low high newLow newHigh = newHigh := by
  have hclamp : clamp x low high = high := by
    unfold clamp
    rw [max_eq_left (h.le.trans hx), min_eq_right hx]
  have hne : high - low ≠ 0 := by
    intro hzero
    linarith
  rw [stretch, hclamp, A.divide_of_lt h, mul_div_cancel₀ _ hne]
  ring

/-- Between them the new range is gone along evenly. -/
theorem stretch_of_mem (h : low < high) {x : ℚ} (hlow : low ≤ x) (hhigh : x ≤ high) :
    A.stretch x low high newLow newHigh
      = newLow + (x - low) * ((newHigh - newLow) / (high - low)) := by
  have hclamp : clamp x low high = x := by
    unfold clamp
    rw [max_eq_left hlow, min_eq_left hhigh]
  rw [stretch, hclamp, A.divide_of_lt h]
  ring

theorem clamp_mono {x y : ℚ} (hxy : x ≤ y) : clamp x low high ≤ clamp y low high :=
  min_le_min_right high (max_le_max_right low hxy)

/-- Larger numbers are not stretched to smaller ones. -/
theorem stretch_mono (h : low < high) (hnew : newLow ≤ newHigh) {x y : ℚ} (hxy : x ≤ y) :
    A.stretch x low high newLow newHigh ≤ A.stretch y low high newLow newHigh := by
  have hclamp : clamp x low high ≤ clamp y low high := clamp_mono hxy
  have hfactor : 0 ≤ (newHigh - newLow) / (high - low) :=
    div_nonneg (by linarith) (by linarith)
  rw [stretch, stretch, A.divide_of_lt h]
  have hproduct := mul_le_mul_of_nonneg_right (sub_le_sub_right hclamp low) hfactor
  linarith

/-- No number is stretched beyond the new range. -/
theorem stretch_mem (h : low < high) (hnew : newLow ≤ newHigh) (x : ℚ) :
    newLow ≤ A.stretch x low high newLow newHigh ∧
      A.stretch x low high newLow newHigh ≤ newHigh := by
  constructor
  · rcases le_total x low with hx | hx
    · rw [A.stretch_of_le h hx]
    · have hstart := A.stretch_mono h hnew hx
      rwa [A.stretch_of_le h le_rfl] at hstart
  · rcases le_total high x with hx | hx
    · rw [A.stretch_of_ge h hx]
    · have hend := A.stretch_mono h hnew hx
      rwa [A.stretch_of_ge h le_rfl] at hend

/-- The function stretches the first range to the second one. -/
structure Stretches (low high newLow newHigh : ℚ) (f : ℚ → ℚ) : Prop where
  start : ∀ x, x ≤ low → f x = newLow
  stop : ∀ x, high ≤ x → f x = newHigh
  between : ∀ x, low ≤ x → x ≤ high →
    f x = newLow + (x - low) * ((newHigh - newLow) / (high - low))
  mono : newLow ≤ newHigh → ∀ x y, x ≤ y → f x ≤ f y
  mem : newLow ≤ newHigh → ∀ x, newLow ≤ f x ∧ f x ≤ newHigh

theorem stretches (h : low < high) :
    Stretches low high newLow newHigh fun x => A.stretch x low high newLow newHigh where
  start _ := A.stretch_of_le h
  stop _ := A.stretch_of_ge h
  between _ := A.stretch_of_mem h
  mono hnew _ _ := A.stretch_mono h hnew
  mem hnew := A.stretch_mem h hnew

end Stretch

end Arithmetic

/-! ## Values -/

/-- What a tree computes. -/
inductive Datum where
  | number (x : ℚ)
  | truth (b : Bool)
  | color (r g b a : ℚ)
  deriving DecidableEq

namespace Datum

/-- A mixture of colors, channel by channel. -/
def mix (r g b a r' g' b' a' ratio : ℚ) : Datum :=
  .color (SymbolStyle.mix r r' ratio) (SymbolStyle.mix g g' ratio) (SymbolStyle.mix b b' ratio)
    (SymbolStyle.mix a a' ratio)

/-- The number that stands for a truth value. -/
def ofTruth (b : Bool) : Datum := .number (if b then 1 else 0)

end Datum

namespace Glsl

open Datum (number truth color)

/-- An operator between two values. -/
def BinaryOperator.apply (A : Arithmetic) : BinaryOperator → Datum → Datum → Option Datum
  | .multiply, .number x, .number y => some (.number (x * y))
  | .divide, .number x, .number y => some (.number (A.divide x y))
  | .add, .number x, .number y => some (.number (x + y))
  | .subtract, .number x, .number y => some (.number (x - y))
  | .greater, .number x, .number y => some (.truth (x > y))
  | .greaterOrEqual, .number x, .number y => some (.truth (x ≥ y))
  | .less, .number x, .number y => some (.truth (x < y))
  | .lessOrEqual, .number x, .number y => some (.truth (x ≤ y))
  | .equal, .number x, .number y => some (.truth (x = y))
  | .and, .truth p, .truth q => some (.truth (p && q))
  | _, _, _ => none

/-- A function of values. -/
def applyFunction (A : Arithmetic) : String → List Datum → Option Datum
  | "clamp", [.number x, .number low, .number high] => some (.number (clamp x low high))
  | "mod", [.number x, .number y] => some (.number (A.mod x y))
  | "pow", [.number x, .number y] => some (.number (A.pow x y))
  | "mix", [.color r g b a, .color r' g' b' a', .number ratio] =>
    some (.mix r g b a r' g' b' a' ratio)
  | "vec4", [.number r, .number g, .number b, .number a] => some (.color r g b a)
  | _, _ => none

namespace Term

mutual

/-- The value of a tree where names have the given values. -/
def eval (A : Arithmetic) (env : String → ℚ) : Term → Option Datum
  | .number text => some (.number (denoted text.toList))
  | .name text => some (.number (env text))
  | .negate t =>
    match eval A env t with
    | some (.number x) => some (.number (-x))
    | _ => none
  | .binary op left right => do op.apply A (← eval A env left) (← eval A env right)
  | .choice condition yes no =>
    match eval A env condition with
    | some (.truth b) => if b then eval A env yes else eval A env no
    | _ => none
  | .call function arguments => do applyFunction A function (← evalAll A env arguments)

/-- The values of several trees. -/
def evalAll (A : Arithmetic) (env : String → ℚ) : List Term → Option (List Datum)
  | [] => some []
  | t :: ts => do return (← eval A env t) :: (← evalAll A env ts)

end

variable {A : Arithmetic} {env : String → ℚ}

theorem evalAll_eq_some_iff {ts : List Term} {ds : List Datum} :
    evalAll A env ts = some ds ↔ List.Forall₂ (fun t d => t.eval A env = some d) ts ds := by
  induction ts generalizing ds with
  | nil => cases ds <;> simp [evalAll]
  | cons t ts ih =>
    cases ds with
    | nil => simp [evalAll, Option.bind_eq_some_iff]
    | cons d ds => simp [evalAll, Option.bind_eq_some_iff, ih]

theorem eval_binary (op : BinaryOperator) {a b : Term} {d d' : Datum}
    (ha : a.eval A env = some d) (hb : b.eval A env = some d') :
    (Term.binary op a b).eval A env = op.apply A d d' := by
  rw [eval, ha, hb]
  rfl

theorem eval_call {function : String} {ts : List Term} {ds : List Datum}
    (h : List.Forall₂ (fun t d => t.eval A env = some d) ts ds) :
    (Term.call function ts).eval A env = applyFunction A function ds := by
  rw [eval, evalAll_eq_some_iff.2 h]
  rfl

theorem eval_one : one.eval A env = some (.number 1) := by
  have hone : denoted "1.0".toList = 1 := by decide +kernel
  rw [one, eval, hone]

theorem eval_zero : zero.eval A env = some (.number 0) := by
  have hzero : denoted "0.0".toList = 0 := by decide +kernel
  rw [zero, eval, hzero]

/-- A decision between one and zero. -/
theorem eval_decision {condition : Term} {b : Bool} (h : condition.eval A env = some (.truth b)) :
    (Term.choice condition one zero).eval A env = some (.ofTruth b) := by
  rw [eval, h]
  cases b with
  | true =>
    show one.eval A env = _
    exact eval_one
  | false =>
    show zero.eval A env = _
    exact eval_zero

/-- A decision between zero and one. -/
theorem eval_negation {condition : Term} {b : Bool} (h : condition.eval A env = some (.truth b)) :
    (Term.choice condition zero one).eval A env = some (.ofTruth !b) := by
  rw [eval, h]
  cases b with
  | true =>
    show zero.eval A env = _
    exact eval_zero
  | false =>
    show one.eval A env = _
    exact eval_one

end Term

end Glsl

end SymbolStyle

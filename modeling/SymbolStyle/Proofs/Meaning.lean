import SymbolStyle.Proofs.Glsl.Evaluation

/-! # The meaning of expressions

    What an expression computes, by recursion on the expression itself.

    * `Operator.meaning`: what an operator makes of its operands.
    * `Value.meaning`: the value of an expression, from those of its operands.
    * `Datum.IsOf`: the kinds that values are of.
-/

namespace SymbolStyle

open Value
open Glsl (Expr Literal Term ReadsAs)

/-- The inputs of an expression. -/
structure Inputs where
  «attribute» : String → ℚ
  «variable» : String → ℚ
  time : ℚ

/-- The number that a literal stands for. -/
def Glsl.Literal.value (l : Literal) : ℚ :=
  if l.negative then -l.magnitude.shortest.value else l.magnitude.shortest.value

/-- The value of a constant. -/
def Glsl.Expr.constant? : Expr → Option Datum
  | .literal l => some (.number l.value)
  | .call .vec4 [.literal r, .literal g, .literal b, .literal a] =>
    some (.color r.value g.value b.value a.value)
  | _ => none

/-! ## Operators -/

/-- What an operator makes of its operands. Conditions hold if they are
    positive, and their outcome is one or zero. -/
def Operator.meaning (A : Arithmetic) (time : ℚ) : Operator → List Datum → Option Datum
  | .time, [] => some (.number time)
  | .multiply, [.number x, .number y] => some (.number (x * y))
  | .divide, [.number x, .number y] => some (.number (A.divide x y))
  | .add, [.number x, .number y] => some (.number (x + y))
  | .subtract, [.number x, .number y] => some (.number (x - y))
  | .clamp, [.number x, .number low, .number high] => some (.number (SymbolStyle.clamp x low high))
  | .mod, [.number x, .number y] => some (.number (A.mod x y))
  | .pow, [.number x, .number y] => some (.number (A.pow x y))
  | .stretch, [.number x, .number low, .number high, .number newLow, .number newHigh] =>
    some (.number (A.stretch x low high newLow newHigh))
  | .interpolate, [.number ratio, .color r g b a, .color r' g' b' a'] =>
    some (.mix r g b a r' g' b' a' ratio)
  | .greater, [.number x, .number y] => some (.ofTruth (x > y))
  | .greaterOrEqual, [.number x, .number y] => some (.ofTruth (x ≥ y))
  | .less, [.number x, .number y] => some (.ofTruth (x < y))
  | .lessOrEqual, [.number x, .number y] => some (.ofTruth (x ≤ y))
  | .equal, [.number x, .number y] => some (.ofTruth (x = y))
  | .not, [.number x] => some (.ofTruth (¬ x > 0))
  | .between, [.number x, .number low, .number high] => some (.ofTruth (low ≤ x ∧ x ≤ high))
  | _, _ => none

namespace Value

/-- The value of an expression that is no application: a number, or a color. -/
def constantMeaning (v : Value) : Option Datum :=
  if v.isNumber then ((Glsl.literalOf v).toOption).map fun l => .number l.value
  else (Glsl.colorOf v).toOption.bind Expr.constant?

mutual

/-- The value of an expression. -/
def meaning (A : Arithmetic) (inputs : Inputs) : Value → Option Datum
  | .sequence form (.string tag :: operands) =>
    match Operator.ofTag? tag, operands with
    | some .get, [.string name] => some (.number (inputs.attribute name))
    | some .var, [.string name] => some (.number (inputs.variable name))
    | some op, operands => do op.meaning A inputs.time (← meanings A inputs operands)
    | none, _ => constantMeaning (.sequence form (.string tag :: operands))
  | v => constantMeaning v

/-- The values of several expressions. -/
def meanings (A : Arithmetic) (inputs : Inputs) : List Value → Option (List Datum)
  | [] => some []
  | v :: vs => do return (← meaning A inputs v) :: (← meanings A inputs vs)

end

end Value

/-! ## Kinds of values -/

/-- The value is of the given kind. Truth values are of none. -/
inductive Datum.IsOf : Datum → Kind → Prop where
  | number (x : ℚ) : IsOf (.number x) .number
  | color (r g b a : ℚ) {k : Kind} (hk : Kind.color.accepts k) : IsOf (.color r g b a) k

namespace Datum

theorem isOf_number_iff {d : Datum} : d.IsOf .number ↔ ∃ x, d = .number x := by
  constructor
  · intro h
    cases h with
    | number x => exact ⟨x, rfl⟩
    | color r g b a hk => exact absurd hk (by decide)
  · rintro ⟨x, rfl⟩
    exact .number x

theorem isOf_color_iff {d : Datum} : d.IsOf .color ↔ ∃ r g b a, d = .color r g b a := by
  constructor
  · intro h
    cases h with
    | color r g b a hk => exact ⟨r, g, b, a, rfl⟩
  · rintro ⟨r, g, b, a, rfl⟩
    exact .color r g b a (by decide)

/-- No value is a text. -/
theorem not_isOf_string {d : Datum} : ¬ d.IsOf .string := by
  intro h
  cases h with
  | color r g b a hk => exact absurd hk (by decide)

/-- A place that takes no text gets what it wants. -/
theorem IsOf.of_accepts {d : Datum} {expected actual : Kind} (h : d.IsOf actual)
    (haccepts : expected.accepts actual) (hexpected : expected ≠ .string) : d.IsOf expected := by
  cases h with
  | number x =>
    cases expected with
    | number => exact .number x
    | _ => exact absurd haccepts (by decide)
  | color r g b a hk =>
    rcases Kind.color_accepts_iff.1 hk with rfl | rfl
    · cases expected with
      | color => exact .color r g b a hk
      | _ => exact absurd haccepts (by decide)
    · cases expected with
      | color => exact .color r g b a (by decide)
      | colorOrString => exact .color r g b a hk
      | string => exact absurd rfl hexpected
      | _ => exact absurd haccepts (by decide)

end Datum

/-! ## Meanings of the forms of expressions -/

namespace Value

variable {A : Arithmetic} {inputs : Inputs} {form : SequenceForm}

/-- A value that is no application is a constant. -/
theorem meaning_of_not_application {v : Value}
    (hv : ∀ form tag operands, v ≠ .sequence form (.string tag :: operands)) :
    v.meaning A inputs = v.constantMeaning := by
  rw [meaning]
  intro form tag operands heq
  exact hv form tag operands heq

theorem constantMeaning_number {v : Value} {l : Literal} (hv : v.isNumber)
    (hl : Glsl.literalOf v = .ok l) : v.constantMeaning = some (.number l.value) := by
  rw [constantMeaning, if_pos hv, hl]
  rfl

theorem constantMeaning_color {v : Value} {r g b a : Literal}
    (hcolor : Glsl.colorOf v = .ok (Glsl.colorConstant r g b a)) :
    v.constantMeaning = some (.color r.value g.value b.value a.value) := by
  have hv : ¬ v.isNumber := fun hv => colorOf_ne_ok_of_isNumber hv _ hcolor
  rw [constantMeaning, if_neg hv, hcolor]
  rfl

theorem meanings_eq_some_iff {vs : List Value} {ds : List Datum} :
    meanings A inputs vs = some ds ↔
      List.Forall₂ (fun v d => v.meaning A inputs = some d) vs ds := by
  induction vs generalizing ds with
  | nil => cases ds <;> simp [meanings]
  | cons v vs ih =>
    cases ds with
    | nil => simp [meanings, Option.bind_eq_some_iff]
    | cons d ds => simp [meanings, Option.bind_eq_some_iff, ih]

/-- An application means what its operator makes of the operands. -/
theorem meaning_application {op : Operator} {operands : List Value} {ds : List Datum}
    (hop : Kind.string ∉ op.signature)
    (hoperands : List.Forall₂ (fun v d => v.meaning A inputs = some d) operands ds) :
    (Value.sequence form (.string op.tag :: operands)).meaning A inputs
      = op.meaning A inputs.time ds := by
  have hmeanings := meanings_eq_some_iff.2 hoperands
  cases op with
  | get | var => exact absurd hop (by decide)
  | _ =>
    unfold meaning
    rw [Operator.ofTag?_tag]
    simp only [hmeanings, Option.bind_eq_bind, Option.bind_some]

theorem meaning_get {name : String} :
    (Value.sequence form [.string "get", .string name]).meaning A inputs
      = some (.number (inputs.attribute name)) := by
  have htag : Operator.ofTag? "get" = some .get := Operator.ofTag?_tag .get
  unfold meaning
  rw [htag]

theorem meaning_var {name : String} :
    (Value.sequence form [.string "var", .string name]).meaning A inputs
      = some (.number (inputs.variable name)) := by
  have htag : Operator.ofTag? "var" = some .var := Operator.ofTag?_tag .var
  unfold meaning
  rw [htag]

end Value

end SymbolStyle

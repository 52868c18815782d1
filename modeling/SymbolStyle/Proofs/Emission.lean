import SymbolStyle.Proofs.Compilation
import SymbolStyle.Proofs.Glsl.Rendering

/-! # The code of an expression

    What the code of an expression is read as by the rules of the shading
    language.

    * `Instantiates stem v t`: the tree `t` is the template of the operator of
      `v`, filled in with the trees of its operands.
    * `HasType t τ`: the tree is well typed, where all names are those of
      single numbers.
    * `Value.compile_readsAs`: the code of a valid number or color is read as
      exactly its instantiated template, and that is well typed.
-/

namespace SymbolStyle

open Value
open Glsl (Expr Literal Term BinaryOperator ReadsAs Category)

/-! ## Templates -/

namespace Glsl.Term

/-- The number that stands for true. -/
def one : Term := .number "1.0"

/-- The number that stands for false. -/
def zero : Term := .number "0.0"

/-- The templates of the operators: the tree of an application, by the tag of
    its operator and from the trees of its operands. -/
def template? : String → List Term → Option Term
  | "time", [] => some (.name "u_time")
  | "*", [a, b] => some (.binary .multiply a b)
  | "/", [a, b] => some (.binary .divide a b)
  | "+", [a, b] => some (.binary .add a b)
  | "-", [a, b] => some (.binary .subtract a b)
  | "clamp", [x, low, high] => some (.call "clamp" [x, low, high])
  | "stretch", [x, low, high, newLow, newHigh] =>
    let along := .binary .subtract (.call "clamp" [x, low, high]) low
    let factor := .binary .divide (.binary .subtract newHigh newLow) (.binary .subtract high low)
    some (.binary .add (.binary .multiply along factor) newLow)
  | "mod", [a, b] => some (.call "mod" [a, b])
  | "pow", [a, b] => some (.call "pow" [a, b])
  | "interpolate", [ratio, start, stop] => some (.call "mix" [start, stop, ratio])
  | ">", [a, b] => some (.choice (.binary .greater a b) one zero)
  | ">=", [a, b] => some (.choice (.binary .greaterOrEqual a b) one zero)
  | "<", [a, b] => some (.choice (.binary .less a b) one zero)
  | "<=", [a, b] => some (.choice (.binary .lessOrEqual a b) one zero)
  | "==", [a, b] => some (.choice (.binary .equal a b) one zero)
  | "!", [a] => some (.choice (.binary .greater a zero) zero one)
  | "between", [x, low, high] =>
    some (.choice (.binary .and (.binary .greaterOrEqual x low) (.binary .lessOrEqual x high))
      one zero)
  | _, _ => none

end Glsl.Term

/-- The tree is the template of the value, filled in with the trees of the
    operands. Names of attributes stand behind a stem. -/
inductive Instantiates (stem : String) : Value → Term → Prop where
  | number {v : Value} {l : Literal} (hv : v.isNumber) (hl : Glsl.literalOf v = .ok l) :
      Instantiates stem v l.term
  /-- A color, as a text or as channels. -/
  | color {v : Value} {r g b a : Literal}
      (hcolor : Glsl.colorOf v = .ok (Glsl.colorConstant r g b a)) :
      Instantiates stem v (.call "vec4" [r.term, g.term, b.term, a.term])
  | get {form : SequenceForm} {name : String} :
      Instantiates stem (.sequence form [.string "get", .string name]) (.name (stem ++ name))
  | var {form : SequenceForm} {name : String} :
      Instantiates stem (.sequence form [.string "var", .string name]) (.name ("u_" ++ name))
  | application {form : SequenceForm} {tag : String} {operands : List Value} {ts : List Term}
      {t : Term} (hoperands : List.Forall₂ (Instantiates stem) operands ts)
      (ht : Term.template? tag ts = some t) :
      Instantiates stem (.sequence form (.string tag :: operands)) t

/-- A number is no color. -/
theorem colorOf_ne_ok_of_isNumber {v : Value} (h : v.isNumber) (e : Expr) :
    Glsl.colorOf v ≠ .ok e := by
  cases v with
  | int n => simp [Glsl.colorOf, channels, bind, Except.bind, Except.mapError]
  | float x => simp [Glsl.colorOf, channels, bind, Except.bind, Except.mapError]
  | _ => simp [isNumber] at h

/-- An application is no color constant. -/
theorem colorOf_ne_ok_of_string_cons {form : SequenceForm} {tag : String} {items : List Value}
    (e : Expr) : Glsl.colorOf (.sequence form (.string tag :: items)) ≠ .ok e := by
  simp [Glsl.colorOf, channels, isNumber, bind, Except.bind, Except.mapError]

/-- The names that are read are no operands, so `get` and `var` have no
    template to fill in. -/
theorem template?_get (ts : List Term) : Term.template? "get" ts = none := rfl

theorem template?_var (ts : List Term) : Term.template? "var" ts = none := rfl

/-- A value instantiates one tree. -/
theorem Instantiates.unique {stem : String} {v : Value} {t t' : Term} (h : Instantiates stem v t)
    (h' : Instantiates stem v t') : t = t' := by
  -- At most one rule applies to a value: no number is a color, and the tag of
  -- an application tells whether it reads a name.
  induction v using Value.induction_on_items generalizing t t' with
  | step v ih =>
    cases h with
    | number hv hl =>
      cases h' with
      | number _ hl' =>
        obtain rfl := Except.ok.inj (hl.symm.trans hl')
        rfl
      | color hcolor => exact absurd hcolor (colorOf_ne_ok_of_isNumber hv _)
      | _ => simp [isNumber] at hv
    | color hcolor =>
      cases h' with
      | number hv hl => exact absurd hcolor (colorOf_ne_ok_of_isNumber hv _)
      | color hcolor' =>
        have heq := Except.ok.inj (hcolor.symm.trans hcolor')
        simp only [Glsl.colorConstant, Expr.call.injEq, List.cons.injEq, Expr.literal.injEq]
          at heq
        obtain ⟨-, rfl, rfl, rfl, rfl, -⟩ := heq
        rfl
      | _ => exact absurd hcolor (colorOf_ne_ok_of_string_cons _)
    | get =>
      generalize htag : "get" = tag at h'
      cases h' with
      | number hv => simp [isNumber] at hv
      | color hcolor => exact absurd hcolor (colorOf_ne_ok_of_string_cons _)
      | get => rfl
      | var => simp at htag
      | application _ ht => simp [← htag, template?_get] at ht
    | var =>
      generalize htag : "var" = tag at h'
      cases h' with
      | number hv => simp [isNumber] at hv
      | color hcolor => exact absurd hcolor (colorOf_ne_ok_of_string_cons _)
      | get => simp at htag
      | var => rfl
      | application _ ht => simp [← htag, template?_var] at ht
    | @application form tag operands ts t hoperands ht =>
      cases h' with
      | number hv => simp [isNumber] at hv
      | color hcolor => exact absurd hcolor (colorOf_ne_ok_of_string_cons _)
      | get => simp [template?_get] at ht
      | var => simp [template?_var] at ht
      | @application _ _ _ ts' _ hoperands' ht' =>
        -- The operands instantiate the same trees, and the template is a function.
        have hts : ts = ts' := by
          apply List.ext_getElem (hoperands.length_eq.symm.trans hoperands'.length_eq)
          intro i hi hi'
          have hoperand : i < operands.length := hoperands.length_eq ▸ hi
          exact ih form _ rfl operands[i] (by simp) (hoperands.get hoperand hi)
            (hoperands'.get hoperand hi')
        subst hts
        exact Option.some.inj (ht.symm.trans ht')

/-! ## Types -/

namespace Glsl

/-- A type of the shading language. -/
inductive TermType where
  | float
  | int
  | bool
  | vec4
  deriving DecidableEq

/-- The tree is well typed. Names are those of single numbers, as attributes,
    variables and the clock are. -/
inductive HasType : Term → TermType → Prop where
  /-- A number with a point. -/
  | float {text : String} (hpoint : '.' ∈ text.toList) : HasType (.number text) .float
  /-- A number without one. -/
  | int {text : String} (hpoint : '.' ∉ text.toList) : HasType (.number text) .int
  | name {text : String} : HasType (.name text) .float
  | negate {t : Term} (h : HasType t .float) : HasType (.negate t) .float
  | arithmetic {op : BinaryOperator} {a b : Term}
      (hop : op ∈ [.multiply, .divide, .add, .subtract]) (ha : HasType a .float)
      (hb : HasType b .float) : HasType (.binary op a b) .float
  | comparison {op : BinaryOperator} {a b : Term}
      (hop : op ∈ [.greater, .greaterOrEqual, .less, .lessOrEqual, .equal])
      (ha : HasType a .float) (hb : HasType b .float) : HasType (.binary op a b) .bool
  | and {a b : Term} (ha : HasType a .bool) (hb : HasType b .bool) :
      HasType (.binary .and a b) .bool
  | choice {c a b : Term} {τ : TermType} (hc : HasType c .bool) (ha : HasType a τ)
      (hb : HasType b τ) : HasType (.choice c a b) τ
  | mod {a b : Term} (ha : HasType a .float) (hb : HasType b .float) :
      HasType (.call "mod" [a, b]) .float
  | pow {a b : Term} (ha : HasType a .float) (hb : HasType b .float) :
      HasType (.call "pow" [a, b]) .float
  | clamp {x low high : Term} (hx : HasType x .float) (hlow : HasType low .float)
      (hhigh : HasType high .float) : HasType (.call "clamp" [x, low, high]) .float
  | mix {start stop ratio : Term} (hstart : HasType start .vec4) (hstop : HasType stop .vec4)
      (hratio : HasType ratio .float) : HasType (.call "mix" [start, stop, ratio]) .vec4
  | vec4 {r g b a : Term} (hr : HasType r .float) (hg : HasType g .float) (hb : HasType b .float)
      (ha : HasType a .float) : HasType (.call "vec4" [r, g, b, a]) .vec4

theorem hasType_literal (l : Literal) : HasType l.term .float := by
  obtain ⟨whole, places, heq, -⟩ := exists_digits_of_positional l.magnitude.shortest
  have hnumber : HasType (.number (String.ofList l.magnitude.shortest.positional)) .float := by
    apply HasType.float
    simp [heq]
  cases hnegative : l.negative with
  | false => simpa [Literal.term, hnegative] using hnumber
  | true => simpa [Literal.term, hnegative] using hnumber.negate

end Glsl

/-- The type of the code of an expression that is no text. -/
def Kind.termType (k : Kind) : Glsl.TermType := if k = .number then .float else .vec4

/-! ## Reading templates -/

/-- Every binary operator belongs to a category that is looser than the unary
    one and tighter than the choice. -/
theorem Glsl.BinaryOperator.exists_category (op : BinaryOperator) :
    ∃ c : Category, op ∈ c.operators ∧ Category.unary.rank < c.rank
      ∧ c.rank < Category.expression.rank := by
  cases op <;> first
    | exact ⟨.multiplicative, by decide⟩
    | exact ⟨.additive, by decide⟩
    | exact ⟨.relational, by decide⟩
    | exact ⟨.equality, by decide⟩
    | exact ⟨.conjunction, by decide⟩

section Templates

variable {stem : String} {ea eb : Expr} {a b : Term}

/-- An operator between two operands of categories that are tight enough. -/
theorem readsAs_binary (c : Category) (op : BinaryOperator) {left right : Category}
    (hop : op ∈ c.operators) (ha : ReadsAs (ea.render stem) left a) (hleft : left.rank ≤ c.rank)
    (hb : ReadsAs (eb.render stem) right b) (hright : right.rank < c.rank)
    (hc : c.rank ≤ Category.expression.rank) :
    ReadsAs ((Expr.binary op ea eb).render stem) c (.binary op a b) := by
  rw [Expr.render]
  exact .binary hop ha hleft hb hright hc

/-- Any operator between operands that hold together like the unary minus. -/
theorem readsAs_operation (op : BinaryOperator) (ha : ReadsAs (ea.render stem) .unary a)
    (hb : ReadsAs (eb.render stem) .unary b) :
    ∃ c : Category, c.rank < Category.expression.rank
      ∧ ReadsAs ((Expr.binary op ea eb).render stem) c (.binary op a b) := by
  obtain ⟨c, hop, hunary, hexpression⟩ := op.exists_category
  exact ⟨c, hexpression, readsAs_binary c op hop ha hunary.le hb hunary hexpression.le⟩

/-- Brackets hold anything together. -/
theorem readsAs_group {e : Expr} {c : Category} {t : Term} (h : ReadsAs (e.render stem) c t)
    (hc : c.rank ≤ Category.expression.rank) :
    ReadsAs ((Expr.group e).render stem) .primary t := by
  rw [Expr.render]
  exact (h.expression hc).group

/-- An operator between operands, in brackets. -/
theorem readsAs_grouped (op : BinaryOperator) (ha : ReadsAs (ea.render stem) .unary a)
    (hb : ReadsAs (eb.render stem) .unary b) :
    ReadsAs ((Expr.grouped op ea eb).render stem) .unary (.binary op a b) := by
  obtain ⟨c, hexpression, h⟩ := readsAs_operation op ha hb
  exact (readsAs_group h hexpression.le).loosen (by decide) (by decide)

/-- A function of operands. -/
theorem readsAs_call (function : Glsl.Function) {arguments : List Expr} {ts : List Term}
    (h : List.Forall₂ (fun e t => ReadsAs (Expr.render stem e) .unary t) arguments ts)
    (hne : arguments ≠ []) :
    ReadsAs ((Expr.call function arguments).render stem) .unary (.call function.name ts) := by
  have hall : List.Forall₂ (fun y t => ReadsAs y .expression t)
      (Expr.renderAll stem arguments) ts := by
    clear hne
    induction h with
    | nil => exact .nil
    | cons he _ ih => exact .cons (he.expression (by decide)) ih
  have hne' : Expr.renderAll stem arguments ≠ [] := by
    cases h with
    | nil => exact absurd rfl hne
    | cons => simp [Expr.renderAll]
  rw [Expr.render]
  exact (ReadsAs.call hall hne').loosen (by decide) (by decide)

/-- The literals of truth values are written as their templates have them. -/
theorem literal_one_term : Literal.term ⟨false, .one⟩ = .one := by
  have hshortest : Magnitude.one.shortest = ⟨1, 0⟩ := by decide +kernel
  simp only [Literal.term, hshortest]
  rfl

theorem literal_zero_term : Literal.term ⟨false, .zero⟩ = .zero := by
  have hshortest : Magnitude.zero.shortest = ⟨0, 0⟩ := by decide +kernel
  simp only [Literal.term, hshortest]
  rfl

/-- The number that stands for a truth value. -/
def truthTerm (b : Bool) : Term := if b then .one else .zero

theorem readsAs_truth (b : Bool) : ReadsAs ((Expr.truth b).render stem) .unary (truthTerm b) := by
  cases b with
  | true =>
    have h := Glsl.readsAs_literal ⟨false, .one⟩
    rw [literal_one_term] at h
    simpa [Expr.truth, Expr.render, truthTerm] using h
  | false =>
    have h := Glsl.readsAs_literal ⟨false, .zero⟩
    rw [literal_zero_term] at h
    simpa [Expr.truth, Expr.render, truthTerm] using h

/-- A decision upon a condition that is no choice itself. -/
theorem readsAs_decision {condition : Expr} {c : Category} {p : Term}
    (h : ReadsAs (condition.render stem) c p) (hc : c.rank < Category.expression.rank)
    (yes no : Bool) :
    ReadsAs ((Expr.decision condition yes no).render stem) .unary
      (.choice p (truthTerm yes) (truthTerm no)) := by
  have hchoice : ReadsAs ((Expr.choice condition (.truth yes) (.truth no)).render stem) .expression
      (.choice p (truthTerm yes) (truthTerm no)) := by
    rw [Expr.render]
    exact .choice h hc ((readsAs_truth yes).expression (by decide))
      ((readsAs_truth no).expression (by decide))
  exact (readsAs_group hchoice (by decide)).loosen (by decide) (by decide)

end Templates

/-! ## The code of values -/

/-- Whether a text consists of ASCII letters, digits and underscores. -/
def isPlainName (name : String) : Bool := name.toList.all Glsl.isNameChar

/-- A plain name behind a stem is a name. -/
theorem readsAs_name {stem name : String} (hstem : stem = "a_" ∨ stem = "v_" ∨ stem = "u_")
    (hname : isPlainName name) :
    ReadsAs (stem.toList ++ name.toList) .unary (.name (stem ++ name)) := by
  have htext : stem ++ name = String.ofList (stem.toList ++ name.toList) := by
    rw [String.ofList_append, String.ofList_toList, String.ofList_toList]
  have hrest : ∀ d ∈ '_' :: name.toList, Glsl.isNameChar d := by
    intro d hd
    rcases List.mem_cons.1 hd with rfl | hd
    · decide
    · exact List.all_eq_true.1 hname d hd
  rw [htext]
  refine ⟨_, ?_, Glsl.Derives.name.loosen (by decide) (by decide)⟩
  rcases hstem with rfl | rfl | rfl
  · exact Glsl.tokens?_word (by decide) (by decide) hrest
  · exact Glsl.tokens?_word (by decide) (by decide) hrest
  · exact Glsl.tokens?_word (by decide) (by decide) hrest

/-- The constant of a color is a vector of four numbers. -/
theorem readsAs_colorConstant (stem : String) (r g b a : Literal) :
    ReadsAs ((Glsl.colorConstant r g b a).render stem) .unary
      (.call "vec4" [r.term, g.term, b.term, a.term]) := by
  have hliteral : ∀ l : Literal, ReadsAs ((Expr.literal l).render stem) .unary l.term := by
    intro l
    rw [Expr.render]
    exact Glsl.readsAs_literal l
  exact readsAs_call .vec4 (.cons (hliteral r) (.cons (hliteral g) (.cons (hliteral b)
    (.cons (hliteral a) .nil)))) (by simp)

theorem hasType_colorConstant (r g b a : Literal) :
    Glsl.HasType (.call "vec4" [r.term, g.term, b.term, a.term]) .vec4 :=
  .vec4 (Glsl.hasType_literal r) (Glsl.hasType_literal g) (Glsl.hasType_literal b)
    (Glsl.hasType_literal a)

theorem hasType_truthTerm (b : Bool) : Glsl.HasType (truthTerm b) .float := by
  cases b <;> exact .float (by decide)

/-- The tree is read as the instantiated template of the value, and that is
    well typed. -/
def Emits (stem : String) (v : Value) (k : Kind) (tree : Expr) : Prop :=
  ∃ t, ReadsAs (tree.render stem) .unary t ∧ Instantiates stem v t ∧ Glsl.HasType t k.termType

/-- The operators of two numbers by the form of their templates. -/
theorem Operator.two_cases {op : Operator} (hop : op.signature = [.number, .number]) :
    (∃ sign, sign ∈ [.multiply, .divide, .add, .subtract] ∧
      (∀ a b, op.template? [a, b] = some (.grouped sign a b)) ∧
      ∀ a b, Term.template? op.tag [a, b] = some (.binary sign a b)) ∨
    (∃ sign, sign ∈ [.greater, .greaterOrEqual, .less, .lessOrEqual, .equal] ∧
      (∀ a b, op.template? [a, b] = some (.decision (.binary sign a b) true false)) ∧
      ∀ a b, Term.template? op.tag [a, b] = some (.choice (.binary sign a b) .one .zero)) ∨
    op = .mod ∨ op = .pow := by
  cases op <;> first
    | exact .inr (.inr (.inl rfl))
    | exact .inr (.inr (.inr rfl))
    | exact .inl ⟨_, by decide, fun _ _ => rfl, fun _ _ => rfl⟩
    | exact .inr (.inl ⟨_, by decide, fun _ _ => rfl, fun _ _ => rfl⟩)
    | simp [signature] at hop

theorem Operator.three_cases {op : Operator} (hop : op.signature = [.number, .number, .number]) :
    op = .clamp ∨ op = .between := by
  cases op <;> simp [signature] at hop <;> simp

section Operators

variable {stem : String} {form : SequenceForm} {a b c : Value} {ta tb tc tree : Expr}

/-- Arithmetic, comparisons and functions of two numbers. -/
theorem emits_two {op : Operator} (hop : op.signature = [.number, .number])
    (ha : Emits stem a .number ta) (hb : Emits stem b .number tb)
    (htree : op.template? [ta, tb] = some tree) :
    Emits stem (.sequence form [.string op.tag, a, b]) .number tree := by
  obtain ⟨ua, hra, hia, hta⟩ := ha
  obtain ⟨ub, hrb, hib, htb⟩ := hb
  rcases op.two_cases hop with ⟨sign, hsign, htemplate, hterm⟩ | ⟨sign, hsign, htemplate, hterm⟩
    | rfl | rfl
  · -- arithmetic
    obtain rfl := Option.some.inj ((htemplate ta tb).symm.trans htree)
    exact ⟨_, readsAs_grouped sign hra hrb, .application (.cons hia (.cons hib .nil)) (hterm ua ub),
      .arithmetic hsign hta htb⟩
  · -- comparisons
    obtain rfl := Option.some.inj ((htemplate ta tb).symm.trans htree)
    obtain ⟨category, hcategory, hcondition⟩ := readsAs_operation sign hra hrb
    exact ⟨_, readsAs_decision hcondition hcategory true false,
      .application (.cons hia (.cons hib .nil)) (hterm ua ub),
      .choice (.comparison hsign hta htb) (hasType_truthTerm true) (hasType_truthTerm false)⟩
  · -- functions
    obtain rfl := Option.some.inj htree
    exact ⟨_, readsAs_call .mod (.cons hra (.cons hrb .nil)) (by simp),
      .application (.cons hia (.cons hib .nil)) rfl, .mod hta htb⟩
  · obtain rfl := Option.some.inj htree
    exact ⟨_, readsAs_call .pow (.cons hra (.cons hrb .nil)) (by simp),
      .application (.cons hia (.cons hib .nil)) rfl, .pow hta htb⟩

/-- The operand of a negation is compared with zero. -/
theorem emits_not (ha : Emits stem a .number ta) (htree : Operator.not.template? [ta] = some tree) :
    Emits stem (.sequence form [.string Operator.not.tag, a]) .number tree := by
  obtain ⟨ua, hra, hia, hta⟩ := ha
  obtain rfl := Option.some.inj htree
  obtain ⟨category, hcategory, hcondition⟩ := readsAs_operation .greater hra (readsAs_truth false)
  exact ⟨_, readsAs_decision hcondition hcategory false true, .application (.cons hia .nil) rfl,
    .choice (.comparison (by decide) hta (hasType_truthTerm false)) (hasType_truthTerm false)
      (hasType_truthTerm true)⟩

/-- Functions and comparisons of three numbers. -/
theorem emits_three {op : Operator} (hop : op.signature = [.number, .number, .number])
    (ha : Emits stem a .number ta) (hb : Emits stem b .number tb) (hc : Emits stem c .number tc)
    (htree : op.template? [ta, tb, tc] = some tree) :
    Emits stem (.sequence form [.string op.tag, a, b, c]) .number tree := by
  obtain ⟨ua, hra, hia, hta⟩ := ha
  obtain ⟨ub, hrb, hib, htb⟩ := hb
  obtain ⟨uc, hrc, hic, htc⟩ := hc
  rcases op.three_cases hop with rfl | rfl
  · obtain rfl := Option.some.inj htree
    exact ⟨_, readsAs_call .clamp (.cons hra (.cons hrb (.cons hrc .nil))) (by simp),
      .application (.cons hia (.cons hib (.cons hic .nil))) rfl, .clamp hta htb htc⟩
  · obtain rfl := Option.some.inj htree
    -- Both comparisons are tighter than the conjunction of them.
    have hlow := readsAs_binary .relational .greaterOrEqual (by decide) hra (by decide) hrb
      (by decide) (by decide)
    have hhigh := readsAs_binary .relational .lessOrEqual (by decide) hra (by decide) hrc
      (by decide) (by decide)
    have hboth := readsAs_binary .conjunction .and (by decide) hlow (by decide) hhigh (by decide)
      (by decide)
    exact ⟨_, readsAs_decision hboth (by decide) true false,
      .application (.cons hia (.cons hib (.cons hic .nil))) rfl,
      .choice (.and (.comparison (by decide) hta htb) (.comparison (by decide) hta htc))
        (hasType_truthTerm true) (hasType_truthTerm false)⟩

/-- A stretch is the only template in which a product is not in brackets. -/
theorem emits_stretch {x low high newLow newHigh : Value} {tx tlow thigh tnewLow tnewHigh : Expr}
    (hx : Emits stem x .number tx) (hlow : Emits stem low .number tlow)
    (hhigh : Emits stem high .number thigh) (hnewLow : Emits stem newLow .number tnewLow)
    (hnewHigh : Emits stem newHigh .number tnewHigh)
    (htree : Operator.stretch.template? [tx, tlow, thigh, tnewLow, tnewHigh] = some tree) :
    Emits stem (.sequence form [.string Operator.stretch.tag, x, low, high, newLow, newHigh])
      .number tree := by
  obtain ⟨ux, hrx, hix, htx⟩ := hx
  obtain ⟨ulow, hrlow, hilow, htlow⟩ := hlow
  obtain ⟨uhigh, hrhigh, hihigh, hthigh⟩ := hhigh
  obtain ⟨unewLow, hrnewLow, hinewLow, htnewLow⟩ := hnewLow
  obtain ⟨unewHigh, hrnewHigh, hinewHigh, htnewHigh⟩ := hnewHigh
  obtain rfl := Option.some.inj htree
  have hclamp := readsAs_call .clamp (.cons hrx (.cons hrlow (.cons hrhigh .nil))) (by simp)
  have halong := readsAs_grouped .subtract hclamp hrlow
  have hfactor := readsAs_grouped .divide (readsAs_grouped .subtract hrnewHigh hrnewLow)
    (readsAs_grouped .subtract hrhigh hrlow)
  -- The product stands without brackets to the left of the sum.
  have hproduct := readsAs_binary .multiplicative .multiply (by decide) halong (by decide) hfactor
    (by decide) (by decide)
  have hsum := readsAs_binary .additive .add (by decide) hproduct (by decide) hrnewLow (by decide)
    (by decide)
  -- The lower bound and the new lower bound occur twice, with the same type.
  have htalong : Glsl.HasType (.binary .subtract (.call "clamp" [ux, ulow, uhigh]) ulow) .float :=
    .arithmetic (by decide) (.clamp htx htlow hthigh) htlow
  have htfactor : Glsl.HasType (.binary .divide (.binary .subtract unewHigh unewLow)
      (.binary .subtract uhigh ulow)) .float :=
    .arithmetic (by decide) (.arithmetic (by decide) htnewHigh htnewLow)
      (.arithmetic (by decide) hthigh htlow)
  exact ⟨_, (readsAs_group hsum (by decide)).loosen (by decide) (by decide),
    .application (.cons hix (.cons hilow (.cons hihigh (.cons hinewLow
      (.cons hinewHigh .nil))))) rfl,
    .arithmetic (by decide) (.arithmetic (by decide) htalong htfactor) htnewLow⟩

/-- A mixture of colors, where each color may also be a text. -/
theorem emits_interpolate {ratio start stop : Value} {k k' : Kind} {tratio tstart tstop : Expr}
    (hratio : Emits stem ratio .number tratio) (hk : Kind.color.accepts k)
    (hstart : Emits stem start k tstart) (hk' : Kind.color.accepts k')
    (hstop : Emits stem stop k' tstop)
    (htree : Operator.interpolate.template? [tratio, tstart, tstop] = some tree) :
    Emits stem (.sequence form [.string Operator.interpolate.tag, ratio, start, stop]) .color
      tree := by
  have hvec4 : ∀ {k : Kind}, Kind.color.accepts k → k.termType = .vec4 := by
    intro k hk
    rcases Kind.color_accepts_iff.1 hk with rfl | rfl <;> rfl
  obtain ⟨uratio, hrratio, hiratio, htratio⟩ := hratio
  obtain ⟨ustart, hrstart, histart, htstart⟩ := hstart
  obtain ⟨ustop, hrstop, histop, htstop⟩ := hstop
  rw [hvec4 hk] at htstart
  rw [hvec4 hk'] at htstop
  obtain rfl := Option.some.inj htree
  exact ⟨_, readsAs_call .mix (.cons hrstart (.cons hrstop (.cons hrratio .nil))) (by simp),
    .application (.cons hiratio (.cons histart (.cons histop .nil))) rfl,
    .mix htstart htstop htratio⟩

end Operators

/-! ## The code of expressions -/

/-- All names that the value reads are plain. -/
def ReadsPlainNames (v : Value) : Prop :=
  ∀ name, Reads v (.attribute name) ∨ Reads v (.variable name) → isPlainName name

theorem ReadsPlainNames.item {form : SequenceForm} {items : List Value} {item : Value}
    (h : ReadsPlainNames (.sequence form items)) (hmem : item ∈ items) : ReadsPlainNames item := by
  intro name hname
  apply h name
  rcases hname with hattribute | hvariable
  · exact .inl (.item hmem hattribute)
  · exact .inr (.item hmem hvariable)

/-- Lowering emits the instantiated template of the value, unless it is a text
    that stays one. -/
theorem Lowers.emits {stem : String} (hstem : stem = "a_" ∨ stem = "v_") {v : Value} {k : Kind}
    {wanted : Option Kind} {tree : Expr} (h : Lowers v k wanted tree)
    (hnames : ReadsPlainNames v) (hk : k = .number ∨ k = .color ∨ wanted = some .color) :
    Emits stem v k tree := by
  -- The induction is on the rules of lowering, so each operand comes with its
  -- own tree; what is known of names passes on to the operands.
  induction h with
  | number hv hl =>
    refine ⟨_, ?_, .number hv hl, Glsl.hasType_literal _⟩
    rw [Expr.render]
    exact Glsl.readsAs_literal _
  | text htyped hw =>
    -- No text is a number, and where a color is wanted a text does not stay one.
    rcases htyped.kind_of_text with rfl | rfl <;> rcases hw with rfl | rfl <;> simp at hk
  | colorText hw hreads hcolor =>
    exact ⟨_, readsAs_colorConstant stem _ _ _ _, .color hcolor, hasType_colorConstant _ _ _ _⟩
  | channels hitems hcolor =>
    exact ⟨_, readsAs_colorConstant stem _ _ _ _, .color hcolor, hasType_colorConstant _ _ _ _⟩
  | @get form name wanted =>
    have hname := hnames name (.inl .get)
    refine ⟨_, ?_, .get, .name⟩
    rw [Expr.render]
    exact readsAs_name (hstem.imp_right .inl) hname
  | @var form name wanted =>
    have hname := hnames name (.inr .var)
    refine ⟨_, ?_, .var, .name⟩
    rw [Expr.render]
    exact readsAs_name (.inr (.inr rfl)) hname
  | time =>
    refine ⟨_, ?_, .application .nil rfl, .name⟩
    rw [Expr.render]
    have htime : isPlainName "time" := by decide
    exact readsAs_name (.inr (.inr rfl)) htime
  | not ha htree iha =>
    exact emits_not (iha (hnames.item (by simp)) (.inl rfl)) htree
  | two hop ha hb htree iha ihb =>
    exact emits_two hop (iha (hnames.item (by simp)) (.inl rfl))
      (ihb (hnames.item (by simp)) (.inl rfl)) htree
  | three hop ha hb hc htree iha ihb ihc =>
    exact emits_three hop (iha (hnames.item (by simp)) (.inl rfl))
      (ihb (hnames.item (by simp)) (.inl rfl)) (ihc (hnames.item (by simp)) (.inl rfl)) htree
  | stretch hx hlow hhigh hnewLow hnewHigh htree ihx ihlow ihhigh ihnewLow ihnewHigh =>
    exact emits_stretch (ihx (hnames.item (by simp)) (.inl rfl))
      (ihlow (hnames.item (by simp)) (.inl rfl)) (ihhigh (hnames.item (by simp)) (.inl rfl))
      (ihnewLow (hnames.item (by simp)) (.inl rfl)) (ihnewHigh (hnames.item (by simp)) (.inl rfl))
      htree
  | interpolate hratio hkstart hstart hkstop hstop htree ihratio ihstart ihstop =>
    exact emits_interpolate (ihratio (hnames.item (by simp)) (.inl rfl)) hkstart
      (ihstart (hnames.item (by simp)) (.inr (.inr rfl))) hkstop
      (ihstop (hnames.item (by simp)) (.inr (.inr rfl))) htree

/-- The code of a valid number or color reads back. Its text is an expression of
    the shading language by exactly one tree, the instantiated template of the
    value, which is well typed: a single number for a number and a vector for a
    color. -/
theorem Value.compile_readsAs {v : Value} (hvalid : v.validate = .ok ())
    (hkind : v.kind = .number ∨ v.kind = .color) {stem : String}
    (hstem : stem = "a_" ∨ stem = "v_") (hnames : ReadsPlainNames v) (wanted : Option Kind)
    (names : Names) :
    ∃ code after t, v.compile stem wanted names = .ok (code, after) ∧
      (∀ t', ReadsAs code.toList .expression t' ↔ t' = t) ∧
      (∀ t', Instantiates stem v t' ↔ t' = t) ∧
      Glsl.HasType t (if v.kind = .number then .float else .vec4) := by
  -- A misplaced text is neither a number nor a color.
  have hplace : ¬ v.IsMisplacedText wanted := by
    rintro ⟨text, rfl, hreads, -⟩
    simp [kind, hreads] at hkind
  obtain ⟨tree, hlowers⟩ := (v.validate_eq_ok_iff.1 hvalid).exists_lowers hplace
  obtain ⟨t, hreads, hinstantiates, htype⟩ :=
    hlowers.emits hstem hnames (hkind.imp_right .inl)
  refine ⟨_, _, t, compile_of_lowers hvalid hlowers stem names, ?_, ?_, htype⟩
  · intro t'
    have hcode : ReadsAs (tree.text stem).toList .expression t := by
      rw [Expr.text, String.toList_ofList]
      exact hreads.expression (by decide)
    constructor
    · intro h
      exact h.unique hcode
    · rintro rfl
      exact hcode
  · intro t'
    constructor
    · intro h
      exact h.unique hinstantiates
    · rintro rfl
      exact hinstantiates

/-- A negative number behind a minus is read as the negation that it is. -/
theorem compile_readsAs_difference :
    ∃ code after,
      (Value.sequence .list [.string "-", .sequence .list [.string "get", .string "size"],
        .int (-2)]).compile "a_" none .empty = .ok (code, after) ∧
      ∀ t, ReadsAs code.toList .expression t ↔
        t = .binary .subtract (.name "a_size") (.negate (.number "2.0")) := by
  have hget : WellTyped (.sequence .list [.string "get", .string "size"]) .number :=
    @WellTyped.application .list .get _ [.string] (.cons (.text (by decide +kernel)) .nil)
      (by decide)
  have hdifference : WellTyped (.sequence .list [.string "-",
      .sequence .list [.string "get", .string "size"], .int (-2)]) .number :=
    @WellTyped.application .list .subtract _ [.number, .number]
      (.cons hget (.cons (.number (by decide +kernel)) .nil)) (by decide)
  have hnames : ReadsPlainNames (.sequence .list [.string "-",
      .sequence .list [.string "get", .string "size"], .int (-2)]) := by
    have hint : ∀ reading, ¬ Reads (.int (-2)) reading := fun reading h => by cases h
    rintro name (h | h)
    · simp [Reads.sequence_iff, Reads.not_string, hint] at h
      subst h
      decide
    · simp [Reads.sequence_iff, Reads.not_string, hint] at h
  obtain ⟨code, after, t, hcompile, hreads, hinstantiates, -⟩ :=
    Value.compile_readsAs hdifference.validate_eq_ok (.inl hdifference.kind_eq.symm) (.inl rfl)
      hnames none .empty
  have hliteral : Glsl.literalOf (.int (-2)) = .ok ⟨true, ⟨1024 * 2 ^ 52, by decide⟩⟩ :=
    Glsl.literalOf_of_toDouble (by decide +kernel)
  have hshortest : (⟨1024 * 2 ^ 52, by decide⟩ : Magnitude).shortest = ⟨2, 0⟩ := by decide +kernel
  have hterm : (⟨true, ⟨1024 * 2 ^ 52, by decide⟩⟩ : Literal).term = .negate (.number "2.0") := by
    simp only [Literal.term, hshortest]
    rfl
  have hfilled := (hinstantiates (.binary .subtract (.name "a_size") (.negate (.number "2.0")))).1
    (.application (.cons .get (.cons (hterm ▸ .number rfl hliteral) .nil)) rfl)
  subst hfilled
  exact ⟨code, after, hcompile, hreads⟩

end SymbolStyle

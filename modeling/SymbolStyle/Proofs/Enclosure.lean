import SymbolStyle.Proofs.Glsl.Bracket
import SymbolStyle.Proofs.Inputs
import SymbolStyle.Proofs.Refusal

/-! # Enclosed code

    When the code of an expression can stand as one operand in other code.

    Every template puts its code in brackets, so the only way out of them leads
    through names, which are written as they are.

    * `Glsl.Expr.IsOperand`: the trees to which numbers and colors are lowered,
      from outside.
    * `ReadsOnly.isBalanced_render`, `IsOperand.isSelfContained_render`: their
      texts, if the names in them are closed.
    * `Value.compile_isSelfContained_iff`: code of all parts of an expression
      can stand as one operand exactly if all names that it reads are closed.
-/

namespace SymbolStyle

open Value
open Glsl (Expr Literal IsBalanced IsClosed IsSelfContained isWordChar isSelfContained_append_iff)

/-- What is read has a closed name. -/
def Reading.IsClosed (reading : Reading) : Prop := Glsl.IsClosed reading.name.toList

/-! ## Texts of trees -/

namespace Glsl

/-- A literal is a number, or one with a minus in front. -/
theorem isSelfContained_literal (l : Literal) : IsSelfContained l.text := by
  obtain ⟨whole, places, heq, hwhole, hplaces, hdigits⟩ :=
    exists_digits_of_positional l.magnitude.shortest
  have hnumber : IsClosed (whole ++ '.' :: places) := by
    apply isClosed_word
    rw [List.all_eq_true]
    intro c hc
    rw [List.mem_append, List.mem_cons] at hc
    rcases hc with hc | rfl | hc
    · exact isWordChar_of_isDigit (hdigits c (by simp [hc]))
    · decide
    · exact isWordChar_of_isDigit (hdigits c (by simp [hc]))
  unfold Literal.text Double.signed
  rw [heq]
  split
  · exact .inr ⟨_, rfl, hnumber, tokens?_numeral hwhole hplaces hdigits⟩
  · exact .inl hnumber

namespace Expr

variable {e : Expr} {stem : String}

theorem all_isWordChar_name (function : Function) : function.name.toList.all isWordChar := by
  cases function <;> decide

/-- Balanced texts with commas between them. -/
theorem isBalanced_arguments {arguments : List Expr}
    (h : ∀ e ∈ arguments, IsBalanced (e.render stem)) :
    IsBalanced ([',', ' '].intercalate (renderAll stem arguments)) := by
  have hbetween : IsBalanced [',', ' '] := by decide
  apply hbetween.intercalate
  rw [renderAll_eq_map]
  intro text htext
  obtain ⟨argument, hmem, rfl⟩ := List.mem_map.1 htext
  exact h argument hmem

/-- The text of a tree that reads closed names is balanced. -/
theorem ReadsOnly.isBalanced_render (h : e.ReadsOnly Reading.IsClosed)
    (hstem : stem.toList.all isWordChar) : IsBalanced (e.render stem) := by
  -- On the structure of the tree: its text consists of the texts of its parts
  -- and of signs without brackets, except for groups and calls.
  induction h with
  | @literal l => exact (isSelfContained_literal l).isBalanced
  | «attribute» h => exact ((isClosed_append_iff hstem).2 h).balanced
  | «variable» h => exact ((isClosed_append_iff (by decide)).2 h).balanced
  | time =>
    rw [render]
    decide
  | @binary op left right _ _ ihleft ihright =>
    have hsign : IsBalanced (' ' :: op.text.toList ++ [' ']) := by cases op <;> decide
    have htext : render stem (.binary op left right)
        = render stem left ++ (' ' :: op.text.toList ++ [' ']) ++ render stem right := by
      simp [render]
    rw [htext]
    exact (ihleft.append hsign).append ihright
  | choice _ _ _ ihcondition ihyes ihno =>
    have hquestion : IsBalanced " ? ".toList := by decide
    have hcolon : IsBalanced " : ".toList := by decide
    rw [render]
    exact (((ihcondition.append hquestion).append ihyes).append hcolon).append ihno
  | @call function arguments _ ih =>
    have hname : IsBalanced function.name.toList :=
      (isClosed_word (all_isWordChar_name function)).balanced
    rw [render, List.append_assoc]
    exact hname.append (isBalanced_arguments ih).bracketed
  | group _ ih => exact ih.bracketed

/-- The tree is an operand as a whole: nothing stands next to it outside of
    brackets. -/
inductive IsOperand : Expr → Prop where
  | literal {l : Literal} : IsOperand (.literal l)
  | «attribute» {name : String} : IsOperand (.attribute name)
  | «variable» {name : String} : IsOperand (.variable name)
  | time : IsOperand .time
  | call {function : Function} {arguments : List Expr} : IsOperand (.call function arguments)
  | group {inner : Expr} : IsOperand (.group inner)

/-- The text of an operand that reads closed names can stand as one. -/
theorem IsOperand.isSelfContained_render (h : e.IsOperand) (hreads : e.ReadsOnly Reading.IsClosed)
    (hstem : stem.toList.all isWordChar) : IsSelfContained (e.render stem) := by
  cases h with
  | literal => exact isSelfContained_literal _
  | «attribute» =>
    cases hreads with
    | «attribute» hname => exact .inl ((isClosed_append_iff hstem).2 hname)
  | «variable» =>
    cases hreads with
    | «variable» hname => exact .inl ((isClosed_append_iff (by decide)).2 hname)
  | time =>
    rw [render]
    exact .inl (isClosed_word (by decide))
  | @call function arguments =>
    cases hreads with
    | call harguments =>
      have hbalanced := isBalanced_arguments fun e he => (harguments e he).isBalanced_render hstem
      rw [render, List.append_assoc]
      exact .inl (isClosed_bracketed (all_isWordChar_name function) hbalanced)
  | group =>
    cases hreads with
    | group hinner =>
      have hnone : ([] : List Char).all isWordChar := rfl
      exact .inl (isClosed_bracketed hnone (hinner.isBalanced_render hstem))

end Expr

end Glsl

/-! ## Trees of expressions -/

theorem Operator.isOperand_template? {op : Operator} {trees : List Expr} {tree : Expr}
    (h : op.template? trees = some tree) : tree.IsOperand := by
  unfold template? at h
  split at h
  case h_20 => cases h
  all_goals
    obtain rfl := Option.some.inj h
    constructor

/-- A number or color is lowered to an operand. -/
theorem Lowers.isOperand {v : Value} {k : Kind} {wanted : Option Kind} {tree : Expr}
    (h : Lowers v k wanted tree) (hk : k = .number ∨ k = .color) : tree.IsOperand := by
  cases h with
  | text htyped =>
    rcases htyped.kind_of_text with rfl | rfl <;> simp at hk
  | not _ htree | two _ _ _ htree | three _ _ _ _ htree | stretch _ _ _ _ _ htree
  | interpolate _ _ _ _ _ htree => exact Operator.isOperand_template? htree
  | _ => constructor

namespace Value

variable {v : Value} {stem : String}

theorem all_isWordChar_stem (hstem : stem = "a_" ∨ stem = "v_") : stem.toList.all isWordChar := by
  rcases hstem with rfl | rfl <;> decide

/-- A number or color compiles, to the text of the tree to which it is lowered. -/
theorem exists_compile_of_kind (hvalid : v.validate = .ok ())
    (hkind : v.kind = .number ∨ v.kind = .color) (stem : String) (wanted : Option Kind)
    (names : Names) : ∃ tree after, Lowers v v.kind wanted tree ∧
      v.compile stem wanted names = .ok (tree.text stem, after) := by
  have htyped := v.validate_eq_ok_iff.1 hvalid
  -- Only a text that is no color is misplaced, and it is no number either.
  have hplace : ¬ v.IsMisplacedText wanted := by
    rintro ⟨text, rfl, hreads, -, -⟩
    rcases hkind with hkind | hkind <;> simp [kind, hreads] at hkind
  obtain ⟨tree, hlowers⟩ := htyped.exists_lowers hplace
  exact ⟨tree, _, hlowers, compile_of_lowers hvalid hlowers stem names⟩

/-- Code of a number or color that reads closed names can stand as one operand. -/
theorem isSelfContained_of_compile (hstem : stem = "a_" ∨ stem = "v_")
    (hvalid : v.validate = .ok ()) (hkind : v.kind = .number ∨ v.kind = .color)
    (hnames : ∀ reading, Reads v reading → reading.IsClosed) {wanted : Option Kind}
    {names after : Names} {code : String} (h : v.compile stem wanted names = .ok (code, after)) :
    IsSelfContained code.toList := by
  obtain ⟨tree, after', hlowers, hcompile⟩ := exists_compile_of_kind hvalid hkind stem wanted names
  obtain rfl : tree.text stem = code := by
    rw [hcompile] at h
    exact (Prod.mk.inj (Except.ok.inj h)).1
  have hreads : tree.ReadsOnly Reading.IsClosed :=
    (hlowers.readsOnly (hkind.imp_right .inl)).mono hnames
  rw [Expr.text, String.toList_ofList]
  exact (hlowers.isOperand hkind).isSelfContained_render hreads (all_isWordChar_stem hstem)

/-! ## Names that stay enclosed -/

theorem IsPart.reads {part : Value} {reading : Reading} (h : part.IsPart v)
    (hreads : Reads part reading) : Reads v reading := by
  induction h with
  | refl => exact hreads
  | item hmem _ ih => exact .item hmem ih

/-- An application of an operator that reads a name is valid, whatever the name
    is: any text is one. -/
theorem validate_name {op : Operator} (hop : op.signature = [.string]) (form : SequenceForm)
    (name : String) : (Value.sequence form [.string op.tag, .string name]).validate = .ok () := by
  rw [validate_application_eq_ok_iff, hop]
  have hname : (Value.string name).validate = .ok () ∧
      Kind.string.accepts (Value.string name).kind := by
    by_cases hreads : isColorText name
    · exact ⟨(WellTyped.colorText hreads).validate_eq_ok, by simp [kind, hreads, Kind.accepts]⟩
    · rw [Bool.not_eq_true] at hreads
      exact ⟨(WellTyped.text hreads).validate_eq_ok, by simp [kind, hreads, Kind.accepts]⟩
  exact .cons hname .nil

/-- The code of every part that is a number or a color can stand as one
    operand. -/
def PartsAreSelfContained (stem : String) (v : Value) : Prop :=
  ∀ part : Value, part.IsPart v → part.validate = .ok () →
    (part.kind = .number ∨ part.kind = .color) → ∀ wanted names code after,
      part.compile stem wanted names = .ok (code, after) → IsSelfContained code.toList

/-- A name that is written behind a word is closed if its code can stand as one
    operand. -/
theorem isClosed_of_lowers {op : Operator} (hop : op.signature = [.string]) {form : SequenceForm}
    {name : String} {tree : Expr} {word : List Char}
    (hparts : PartsAreSelfContained stem (.sequence form [.string op.tag, .string name]))
    (hlowers : Lowers (.sequence form [.string op.tag, .string name]) .number none tree)
    (htext : tree.render stem = word ++ name.toList) (hword : word.all isWordChar)
    (hne : word ≠ []) : IsClosed name.toList := by
  have hvalid := validate_name hop form name
  have hkind : (Value.sequence form [.string op.tag, .string name]).kind = .number := by
    rw [kind_application]
    exact Operator.returns_eq_number (by simp [hop])
  have hself := hparts _ .refl hvalid (.inl hkind) none .empty _ _
    (compile_of_lowers hvalid hlowers stem .empty)
  rw [Expr.text, String.toList_ofList, htext] at hself
  exact (isSelfContained_append_iff hword hne).1 hself

/-- A name is closed if the code of what reads it can stand as one operand. -/
theorem isClosed_of_reads (hstem : stem = "a_" ∨ stem = "v_") {reading : Reading}
    (h : Reads v reading) (hparts : PartsAreSelfContained stem v) : reading.IsClosed := by
  -- Along the items down to the application that reads the name.
  induction h with
  | get =>
    have hne : stem.toList ≠ [] := by rcases hstem with rfl | rfl <;> decide
    exact isClosed_of_lowers rfl hparts .get rfl (all_isWordChar_stem hstem) hne
  | var => exact isClosed_of_lowers rfl hparts .var rfl (by decide) (by decide)
  | item hmem _ ih => exact ih fun part hpart => hparts part (.item hmem hpart)

/-- A number or a color compiles. Its code and that of all its parts can stand
    as one operand, so that it can be put into any code without a change to how
    the rest is read, exactly if all names in it are closed. -/
theorem compile_isSelfContained_iff (hstem : stem = "a_" ∨ stem = "v_")
    (hvalid : v.validate = .ok ()) (hkind : v.kind = .number ∨ v.kind = .color) :
    (∀ wanted names, ∃ code after, v.compile stem wanted names = .ok (code, after)) ∧
      ((∀ reading, Reads v reading → reading.IsClosed) ↔ PartsAreSelfContained stem v) := by
  constructor
  · intro wanted names
    obtain ⟨tree, after, -, hcompile⟩ := exists_compile_of_kind hvalid hkind stem wanted names
    exact ⟨tree.text stem, after, hcompile⟩
  · constructor
    · intro hnames part hpart hvalid hkind wanted names code after hcompile
      apply isSelfContained_of_compile hstem hvalid hkind _ hcompile
      intro reading hreading
      exact hnames reading (hpart.reads hreading)
    · intro hparts reading hreading
      exact isClosed_of_reads hstem hreading hparts

/-- Twice a width. -/
def doubledWidth : Value :=
  .sequence .list [.string "*", .sequence .list [.string "get", .string "width"], .int 2]

/-- The name of the property is closed, and so is the code. -/
theorem doubledWidth_isSelfContained :
    doubledWidth.validate = .ok () ∧ doubledWidth.kind = .number ∧
      ∃ code after, doubledWidth.compile "a_" none .empty = .ok (code, after) ∧
        IsSelfContained code.toList := by
  have hvalid : doubledWidth.validate = .ok () := validate_eq_ok_of_isOk (by decide +kernel)
  have hkind : doubledWidth.kind = .number := by decide +kernel
  have htyped := doubledWidth.validate_eq_ok_iff.1 hvalid
  have hreadings : doubledWidth.readings = [.attribute "width"] := by decide +kernel
  have hnames : ∀ reading, Reads doubledWidth reading → reading.IsClosed := by
    intro reading hreading
    rw [← htyped.mem_readings_iff, hreadings] at hreading
    obtain rfl := List.mem_singleton.1 hreading
    show IsClosed "width".toList
    decide +kernel
  obtain ⟨hcompiles, hclosed⟩ := compile_isSelfContained_iff (.inl rfl) hvalid (.inl hkind)
  obtain ⟨code, after, hcompile⟩ := hcompiles none .empty
  exact ⟨hvalid, hkind, code, after, hcompile,
    hclosed.1 hnames doubledWidth .refl hvalid (.inl hkind) none .empty code after hcompile⟩

/-- A width, under a name that is no identifier. -/
def roadWidth : Value := .sequence .list [.string "get", .string "road-width"]

/-- The name falls apart into a difference. -/
theorem roadWidth_not_isSelfContained :
    roadWidth.validate = .ok () ∧ roadWidth.kind = .number ∧
      (∃ after, roadWidth.compile "a_" none .empty = .ok ("a_road-width", after)) ∧
      ¬ IsSelfContained "a_road-width".toList := by
  have hget : Operator.get.signature = [.string] := rfl
  have hvalid : roadWidth.validate = .ok () := validate_name hget .list "road-width"
  have hlowers : Lowers roadWidth .number none (.attribute "road-width") := .get
  refine ⟨hvalid, kind_application .list .get _, ⟨_, compile_of_lowers hvalid hlowers _ _⟩, ?_⟩
  have hsplit : "a_road-width".toList = "a_".toList ++ "road-width".toList := by decide
  rw [hsplit, isSelfContained_append_iff (all_isWordChar_stem (.inl rfl)) (by decide)]
  decide +kernel

end Value

end SymbolStyle

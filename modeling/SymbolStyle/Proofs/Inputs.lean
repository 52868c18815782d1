import SymbolStyle.Proofs.Emission
import SymbolStyle.Proofs.Glsl.Identifier

/-! # Inputs of compiled expressions

    What the code of an expression reads.

    * `Expr.ReadsOnly`: a tree without texts whose attributes and variables
      have a property. A tree to which a number or a color is lowered reads
      only what the expression reads.
    * `ReadsOnly.of_mem_inputs_render`: the inputs that are named in the text
      of such a tree are the readings behind their stems, and the clock.
    * `ReadsOnly.forall_mem_render`: its characters are those of code and of
      the names that are read.
-/

namespace SymbolStyle

open Glsl (Expr Literal isNameChar inputs)

/-- The name that is read. -/
def Reading.name : Reading → String
  | .attribute name => name
  | .variable name => name

/-! ## Trees that read only some inputs -/

namespace Glsl.Expr

/-- The tree shows no text, and what it reads besides the clock has a
    property. -/
inductive ReadsOnly (property : Reading → Prop) : Expr → Prop where
  | literal {l : Literal} : ReadsOnly property (.literal l)
  | «attribute» {name : String} (h : property (.attribute name)) :
      ReadsOnly property (.attribute name)
  | «variable» {name : String} (h : property (.variable name)) :
      ReadsOnly property (.variable name)
  | time : ReadsOnly property .time
  | binary {op : BinaryOperator} {left right : Expr} (hleft : ReadsOnly property left)
      (hright : ReadsOnly property right) : ReadsOnly property (.binary op left right)
  | choice {condition yes no : Expr} (hcondition : ReadsOnly property condition)
      (hyes : ReadsOnly property yes) (hno : ReadsOnly property no) :
      ReadsOnly property (.choice condition yes no)
  | call {function : Function} {arguments : List Expr}
      (h : ∀ e ∈ arguments, ReadsOnly property e) : ReadsOnly property (.call function arguments)
  | group {inner : Expr} (h : ReadsOnly property inner) : ReadsOnly property (.group inner)

namespace ReadsOnly

variable {property other : Reading → Prop} {e : Expr} {stem : String}

theorem mono (h : e.ReadsOnly property) (himp : ∀ reading, property reading → other reading) :
    e.ReadsOnly other := by
  induction h with
  | literal => exact .literal
  | «attribute» h => exact .attribute (himp _ h)
  | «variable» h => exact .variable (himp _ h)
  | time => exact .time
  | binary _ _ ihleft ihright => exact .binary ihleft ihright
  | choice _ _ _ ihcondition ihyes ihno => exact .choice ihcondition ihyes ihno
  | call _ ih => exact .call ih
  | group _ ih => exact .group ih

/-! What a tree reads is what its parts read. -/

@[simp] theorem literal_iff {l : Literal} : (Expr.literal l).ReadsOnly property ↔ True :=
  iff_true_intro .literal

@[simp] theorem time_iff : Expr.time.ReadsOnly property ↔ True := iff_true_intro .time

@[simp] theorem binary_iff {op : BinaryOperator} {left right : Expr} :
    (Expr.binary op left right).ReadsOnly property
      ↔ left.ReadsOnly property ∧ right.ReadsOnly property := by
  constructor
  · intro h
    cases h with
    | binary hleft hright => exact ⟨hleft, hright⟩
  · rintro ⟨hleft, hright⟩
    exact .binary hleft hright

@[simp] theorem choice_iff {condition yes no : Expr} :
    (Expr.choice condition yes no).ReadsOnly property
      ↔ condition.ReadsOnly property ∧ yes.ReadsOnly property ∧ no.ReadsOnly property := by
  constructor
  · intro h
    cases h with
    | choice hcondition hyes hno => exact ⟨hcondition, hyes, hno⟩
  · rintro ⟨hcondition, hyes, hno⟩
    exact .choice hcondition hyes hno

@[simp] theorem call_iff {function : Function} {arguments : List Expr} :
    (Expr.call function arguments).ReadsOnly property ↔ ∀ e ∈ arguments, e.ReadsOnly property := by
  constructor
  · intro h
    cases h with
    | call h => exact h
  · exact .call

@[simp] theorem group_iff {inner : Expr} :
    (Expr.group inner).ReadsOnly property ↔ inner.ReadsOnly property := by
  constructor
  · intro h
    cases h with
    | group h => exact h
  · exact .group

end ReadsOnly

end Glsl.Expr

open Glsl.Expr (ReadsOnly)

theorem readsOnly_colorConstant {property : Reading → Prop} (r g b a : Literal) :
    (Glsl.colorConstant r g b a).ReadsOnly property := by
  unfold Glsl.colorConstant
  simp

/-- A template adds no inputs to those of its parts, apart from the clock. -/
theorem Operator.readsOnly_template? {property : Reading → Prop} {op : Operator}
    {trees : List Expr} {tree : Expr} (hop : Kind.string ∉ op.signature)
    (h : op.template? trees = some tree) (htrees : ∀ e ∈ trees, e.ReadsOnly property) :
    tree.ReadsOnly property := by
  unfold template? at h
  split at h
  case h_1 | h_2 => simp [signature] at hop
  case h_20 => simp at h
  all_goals
    obtain rfl := Option.some.inj h
    simp only [List.forall_mem_cons, List.not_mem_nil, false_implies, implies_true, and_true]
      at htrees
    simp [Expr.grouped, Expr.decision, Expr.truth, htrees]

/-- A number or color is lowered to a tree that reads only what it reads. -/
theorem Lowers.readsOnly {v : Value} {k : Kind} {wanted : Option Kind} {tree : Expr}
    (h : Lowers v k wanted tree) (hk : k = .number ∨ k = .color ∨ wanted = some .color) :
    tree.ReadsOnly (Reads v) := by
  -- What an operand reads is read by the application.
  have happlication : ∀ {form : SequenceForm} {op : Operator} {operands : List Value}
      {trees : List Expr} {tree : Expr}, Kind.string ∉ op.signature →
      op.template? trees = some tree →
      List.Forall₂ (fun operand e => ReadsOnly (Reads operand) e) operands trees →
      tree.ReadsOnly (Reads (.sequence form (.string op.tag :: operands))) := by
    intro form op operands trees tree hop htree hoperands
    apply Operator.readsOnly_template? hop htree
    intro e he
    obtain ⟨i, hi, rfl⟩ := List.getElem_of_mem he
    have hoperand : i < operands.length := hoperands.length_eq ▸ hi
    apply (hoperands.get hoperand hi).mono
    intro reading hreading
    exact .item (by simp) hreading
  induction h with
  | number => exact .literal
  | text htyped hw =>
    -- No text is a number, and where a color is wanted a text does not stay one.
    rcases htyped.kind_of_text with rfl | rfl <;> rcases hw with rfl | rfl <;> simp at hk
  | colorText => exact readsOnly_colorConstant _ _ _ _
  | channels => exact readsOnly_colorConstant _ _ _ _
  | get => exact .attribute .get
  | var => exact .variable .var
  | time => exact .time
  | not ha htree iha =>
    exact happlication (by decide) htree (.cons (iha (.inl rfl)) .nil)
  | two hop ha hb htree iha ihb =>
    exact happlication (by simp [hop]) htree (.cons (iha (.inl rfl)) (.cons (ihb (.inl rfl)) .nil))
  | three hop ha hb hc htree iha ihb ihc =>
    exact happlication (by simp [hop]) htree
      (.cons (iha (.inl rfl)) (.cons (ihb (.inl rfl)) (.cons (ihc (.inl rfl)) .nil)))
  | stretch hx hlow hhigh hnewLow hnewHigh htree ihx ihlow ihhigh ihnewLow ihnewHigh =>
    exact happlication (by decide) htree (.cons (ihx (.inl rfl)) (.cons (ihlow (.inl rfl))
      (.cons (ihhigh (.inl rfl)) (.cons (ihnewLow (.inl rfl))
        (.cons (ihnewHigh (.inl rfl)) .nil)))))
  | interpolate hratio hkstart hstart hkstop hstop htree ihratio ihstart ihstop =>
    exact happlication (by decide) htree (.cons (ihratio (.inl rfl))
      (.cons (ihstart (.inr (.inr rfl))) (.cons (ihstop (.inr (.inr rfl))) .nil)))

/-! ## Inputs in the text of a tree -/

/-- The name is that of something with the property in code: an attribute behind
    a stem, a variable behind its own, or the clock. -/
inductive NamesInput (stem : String) (property : Reading → Prop) : String → Prop where
  | «attribute» {name : String} (h : property (.attribute name)) :
      NamesInput stem property (stem ++ name)
  | «variable» {name : String} (h : property (.variable name)) :
      NamesInput stem property ("u_" ++ name)
  | clock : NamesInput stem property "u_time"

namespace Glsl

theorem isInput_append {stem name : String} (hstem : stem = "a_" ∨ stem = "v_" ∨ stem = "u_") :
    isInput (stem ++ name) := by
  rcases hstem with rfl | rfl | rfl <;> simp [isInput, List.isPrefixOf]

/-- A plain name behind a stem is one name, and an input. -/
theorem identifiers_stem_append {stem name : String}
    (hstem : stem = "a_" ∨ stem = "v_" ∨ stem = "u_") (hname : isPlainName name) :
    identifiers (stem.toList ++ name.toList) = [stem ++ name] := by
  have htext : stem ++ name = String.ofList (stem.toList ++ name.toList) := by
    rw [String.ofList_append, String.ofList_toList, String.ofList_toList]
  have hunderscore : ∀ d ∈ '_' :: name.toList, isNameChar d := by
    intro d hd
    rcases List.mem_cons.1 hd with rfl | hd
    · decide
    · exact List.all_eq_true.1 hname d hd
  have hname : ∀ s, s.isDigit = false → isNameChar s →
      identifiers (s :: '_' :: name.toList) = [String.ofList (s :: '_' :: name.toList)] := by
    intro s hdigit hs
    apply identifiers_name hdigit
    intro d hd
    rcases List.mem_cons.1 hd with rfl | hd
    · exact hs
    · exact hunderscore d hd
  rw [htext]
  rcases hstem with rfl | rfl | rfl
  · exact hname 'a' (by decide) (by decide)
  · exact hname 'v' (by decide) (by decide)
  · exact hname 'u' (by decide) (by decide)

theorem inputs_stem_append {stem name : String}
    (hstem : stem = "a_" ∨ stem = "v_" ∨ stem = "u_") (hname : isPlainName name) :
    inputs (stem.toList ++ name.toList) = [stem ++ name] := by
  rw [inputs, identifiers_stem_append hstem hname]
  simp [isInput_append hstem]

/-- Whether a character can stand in an expression of the language. -/
def isCodeChar (c : Char) : Bool := isWordChar c || isSign c || c ∈ [' ', '(', ')', ',', '?', ':']

theorem isCodeChar_of_isNameChar {c : Char} (h : isNameChar c) : isCodeChar c := by
  simp [isCodeChar, isWordChar, h]

theorem isCodeChar_literal (l : Literal) : l.text.all isCodeChar := by
  obtain ⟨whole, places, heq, -, -, hdigits⟩ :=
    exists_digits_of_positional l.magnitude.shortest
  have hnumber : (whole ++ '.' :: places).all isCodeChar := by
    rw [List.all_eq_true]
    intro c hc
    rw [List.mem_append, List.mem_cons] at hc
    rcases hc with hc | rfl | hc
    · simp [isCodeChar, isWordChar_of_isDigit (hdigits c (by simp [hc]))]
    · decide
    · simp [isCodeChar, isWordChar_of_isDigit (hdigits c (by simp [hc]))]
  unfold Literal.text Double.signed
  rw [heq]
  split
  · rw [List.all_cons, hnumber]
    decide
  · exact hnumber

namespace Expr

theorem renderAll_eq_map (stem : String) (es : List Expr) :
    renderAll stem es = es.map (render stem) := by
  induction es with
  | nil => rfl
  | cons e es ih => rw [renderAll, ih, List.map_cons]

namespace ReadsOnly

variable {property : Reading → Prop} {stem : String} {e : Expr}

/-- The inputs in the text of a tree are those that it reads. -/
theorem of_mem_inputs_render (h : e.ReadsOnly property) (hstem : stem = "a_" ∨ stem = "v_")
    (hplain : ∀ reading, property reading → isPlainName reading.name) :
    ∀ name ∈ inputs (e.render stem), NamesInput stem property name := by
  -- On the structure of the tree. Its parts are put together at blanks, commas
  -- and brackets, none of which belongs to a name.
  induction h with
  | @literal l =>
    intro name hname
    rw [render, inputs, identifiers_literal] at hname
    simp at hname
  | @«attribute» n h =>
    intro name hname
    have hn : isPlainName n := hplain _ h
    rw [render, inputs_stem_append (hstem.imp_right .inl) hn] at hname
    obtain rfl := List.mem_singleton.1 hname
    exact .attribute h
  | @«variable» n h =>
    intro name hname
    have hn : isPlainName n := hplain _ h
    rw [render, variableStem, inputs_stem_append (.inr (.inr rfl)) hn] at hname
    obtain rfl := List.mem_singleton.1 hname
    exact .variable h
  | time =>
    intro name hname
    have hclock : inputs timeName.toList = ["u_time"] := by decide
    rw [render, hclock] at hname
    obtain rfl := List.mem_singleton.1 hname
    exact .clock
  | @binary op left right _ _ ihleft ihright =>
    intro name hname
    have hsign : inputs op.text.toList = [] := by cases op <;> decide
    rw [render, List.append_assoc, List.cons_append, inputs_separated (by decide),
      inputs_separated (by decide), hsign, List.nil_append, List.mem_append] at hname
    rcases hname with hname | hname
    · exact ihleft name hname
    · exact ihright name hname
  | @choice condition yes no _ _ _ ihcondition ihyes ihno =>
    intro name hname
    have hquestion : inputs " ? ".toList = [] := by decide
    have hcolon : inputs " : ".toList = [] := by decide
    rw [render, inputs_append_append (by decide) (by decide) (by decide),
      inputs_append_append (by decide) (by decide) (by decide), hquestion, hcolon] at hname
    simp only [List.append_nil, List.mem_append, or_assoc] at hname
    rcases hname with hname | hname | hname
    · exact ihcondition name hname
    · exact ihyes name hname
    · exact ihno name hname
  | @call function arguments _ ih =>
    intro name hname
    have hfunction : inputs function.name.toList = [] := by cases function <;> decide
    have hclosing : inputs [')'] = [] := by decide
    have hblank : ∀ c ∈ [' '], isNameChar c = false := List.forall_mem_singleton.2 (by decide)
    rw [render, inputs_append_of_head? (by decide), inputs_separated (by decide),
      inputs_intercalate (by decide) hblank, hfunction, hclosing, List.nil_append,
      List.append_nil, renderAll_eq_map, List.flatMap_map] at hname
    obtain ⟨e, he, hname⟩ := List.mem_flatMap.1 hname
    exact ih e he name hname
  | @group inner _ ih =>
    intro name hname
    have hclosing : inputs [')'] = [] := by decide
    have hopened : inputs ('(' :: render stem inner) = inputs (render stem inner) :=
      inputs_separated (by decide) [] _
    rw [render, inputs_append_of_head? (by decide), hopened, hclosing, List.append_nil] at hname
    exact ih name hname

/-- The characters in the text of a tree are those of code, of the stem and of
    the names that it reads. -/
theorem forall_mem_render {holds : Char → Prop} (h : e.ReadsOnly property)
    (hcode : ∀ c, isCodeChar c → holds c) (hstem : ∀ c ∈ stem.toList, holds c)
    (hnames : ∀ reading, property reading → ∀ c ∈ reading.name.toList, holds c) :
    ∀ c ∈ e.render stem, holds c := by
  have hclosed : ∀ text : List Char, text.all isCodeChar → ∀ c ∈ text, holds c := by
    intro text htext c hc
    exact hcode c (List.all_eq_true.1 htext c hc)
  induction h with
  | @literal l =>
    rw [render]
    exact hclosed _ (isCodeChar_literal l)
  | @«attribute» n h =>
    intro c hc
    rw [render, List.mem_append] at hc
    rcases hc with hc | hc
    · exact hstem c hc
    · exact hnames _ h c hc
  | @«variable» n h =>
    intro c hc
    rw [render, List.mem_append] at hc
    rcases hc with hc | hc
    · exact hclosed _ (by decide) c hc
    · exact hnames _ h c hc
  | time =>
    rw [render]
    exact hclosed _ (by decide)
  | @binary op left right _ _ ihleft ihright =>
    intro c hc
    have hsign : op.text.toList.all isCodeChar := by cases op <;> decide
    simp only [render, List.append_assoc, List.cons_append, List.mem_append, List.mem_cons] at hc
    rcases hc with hc | rfl | hc | rfl | hc
    · exact ihleft c hc
    · exact hcode _ (by decide)
    · exact hclosed _ hsign c hc
    · exact hcode _ (by decide)
    · exact ihright c hc
  | choice _ _ _ ihcondition ihyes ihno =>
    intro c hc
    simp only [render, List.append_assoc, List.mem_append] at hc
    rcases hc with hc | hc | hc | hc | hc
    · exact ihcondition c hc
    · exact hclosed _ (by decide) c hc
    · exact ihyes c hc
    · exact hclosed _ (by decide) c hc
    · exact ihno c hc
  | @call function arguments _ ih =>
    intro c hc
    have hfunction : function.name.toList.all isCodeChar := by cases function <;> decide
    rw [render, renderAll_eq_map] at hc
    simp only [List.append_assoc, List.cons_append, List.mem_append, List.mem_cons,
      List.not_mem_nil, or_false] at hc
    rcases hc with hc | rfl | hc | rfl
    · exact hclosed _ hfunction c hc
    · exact hcode _ (by decide)
    · rcases mem_of_mem_intercalate hc with hc | ⟨text, htext, hc⟩
      · exact hclosed _ (by decide) c hc
      · obtain ⟨e, he, rfl⟩ := List.mem_map.1 htext
        exact ih e he c hc
    · exact hcode _ (by decide)
  | group _ ih =>
    intro c hc
    simp only [render, List.cons_append, List.mem_append, List.mem_cons, List.not_mem_nil,
      or_false] at hc
    rcases hc with rfl | hc | rfl
    · exact hcode _ (by decide)
    · exact ih c hc
    · exact hcode _ (by decide)

end ReadsOnly

end Expr

end Glsl

end SymbolStyle

import Mathlib.Data.List.Induction
import SymbolStyle.Proofs.Compilation
import SymbolStyle.Proofs.Glsl.Piece
import SymbolStyle.Proofs.Refusal

/-! # First uses

    In which order the names stand that an expression reads.

    Names are registered when the operands that read them are lowered. This is
    the order of their first readings in the code if each operator lowers its
    operands in the order in which its template puts them. Only `stretch` does
    not: its template starts with the operand that is lowered last, and it has
    the new bounds the other way round.

    * `ListsFirstUses`: names in the order of their first readings.
    * `Lowers.alike`: up to repetitions a tree reads what the expression reads,
      in the same order, if the operands of each `stretch` read names in the same
      order either way.
    * `compile_listsFirstUses_iff`: over an expression and all its parts this is
      also necessary. `stretchedSize_misordered`: an expression for which it
      fails.
-/

namespace SymbolStyle

open Value
open Glsl (Expr Piece)

/-! ## Registering the same names -/

/-- What is known already is not registered again. -/
theorem register_eq_of_subset {known names : List String} (h : ∀ name ∈ names, name ∈ known) :
    register known names = known := by
  induction names with
  | nil => rfl
  | cons n names ih =>
    rw [List.forall_mem_cons] at h
    have hstep : register known (n :: names)
        = register (if n ∈ known then known else known ++ [n]) names := rfl
    rw [hstep, if_pos h.1, ih h.2]

theorem register_concat (known names : List String) (n : String) :
    register known (names ++ [n])
      = if n ∈ register known names then register known names else register known names ++ [n] := by
  rw [register_append]
  rfl

/-- Registering names once or twice is the same. -/
theorem register_register_nil (known names : List String) :
    register known (register [] names) = register known names := by
  -- By the last name: it is either known by then on both sides, or new on both.
  induction names using List.reverseRecOn with
  | nil => rfl
  | append_singleton names n ih =>
    rw [register_concat [], register_append known]
    split
    · next hmem =>
      have hknown : n ∈ register known names := by
        rw [mem_register] at hmem ⊢
        simpa using Or.inr hmem
      rw [ih]
      exact (register_eq_of_subset (List.forall_mem_singleton.2 hknown)).symm
    · rw [register_append, ih]

/-- Two lists of readings first read the same names in the same order. -/
def Alike (first second : List Reading) : Prop := Names.empty.add first = Names.empty.add second

instance (first second : List Reading) : Decidable (Alike first second) :=
  decidable_of_iff
    (register [] (Reading.attributeNames first) = register [] (Reading.attributeNames second) ∧
      register [] (Reading.variableNames first) = register [] (Reading.variableNames second))
    (Names.mk.injEq _ _ _ _).symm.to_iff

namespace Alike

variable {a a' b b' : List Reading}

theorem add_eq (h : Alike a a') (names : Names) : names.add a = names.add a' := by
  obtain ⟨hattributes, hvariables⟩ := Names.mk.inj h
  have hfirst : ∀ readings, names.add readings
      = ⟨register names.attributeNames (register [] (Reading.attributeNames readings)),
        register names.variableNames (register [] (Reading.variableNames readings))⟩ := by
    intro readings
    rw [register_register_nil, register_register_nil]
    rfl
  rw [hfirst, hfirst]
  exact congrArg₂ _ (congrArg _ hattributes) (congrArg _ hvariables)

theorem append (ha : Alike a a') (hb : Alike b b') : Alike (a ++ b) (a' ++ b') := by
  unfold Alike
  rw [← Names.add_add, ← Names.add_add, ha.add_eq, hb.add_eq]

/-- What was read before does not count again. -/
theorem append_of_subset (h : ∀ reading ∈ b, reading ∈ a) : Alike (a ++ b) a := by
  unfold Alike
  rw [← Names.add_add]
  unfold Names.add
  congr 1
  · apply register_eq_of_subset
    intro name hname
    rw [Reading.mem_attributeNames] at hname
    exact mem_register.2 (.inr (Reading.mem_attributeNames.2 (h _ hname)))
  · apply register_eq_of_subset
    intro name hname
    rw [Reading.mem_variableNames] at hname
    exact mem_register.2 (.inr (Reading.mem_variableNames.2 (h _ hname)))

end Alike

/-! ## Readings of trees and of expressions -/

namespace Operator

theorem readings_template?_two {op : Operator} (hop : op.signature = [.number, .number])
    {a b tree : Expr} (h : op.template? [a, b] = some tree) :
    tree.readings = a.readings ++ b.readings := by
  cases op <;> first
    | (obtain rfl := Option.some.inj h; simp [Expr.grouped, Expr.decision, Expr.truth])
    | simp [signature] at hop

/-- `between` reads its first operand twice. -/
theorem alike_template?_three {op : Operator} (hop : op.signature = [.number, .number, .number])
    {a b c tree : Expr} (h : op.template? [a, b, c] = some tree) :
    Alike tree.readings (a.readings ++ (b.readings ++ c.readings)) := by
  cases op with
  | clamp =>
    obtain rfl := Option.some.inj h
    simp [Alike]
  | between =>
    obtain rfl := Option.some.inj h
    have hagain : Alike (a.readings ++ b.readings ++ a.readings) (a.readings ++ b.readings) :=
      .append_of_subset fun reading hmem => List.mem_append_left _ hmem
    have h := hagain.append (rfl : Alike c.readings c.readings)
    simpa [Expr.decision, Expr.truth] using h
  | _ => simp [signature] at hop

/-- The code of `stretch` starts with the value and its range. Of the new range
    the upper bound comes first, and after it nothing is read for the first
    time but the lower one. -/
theorem alike_template?_stretch {x low high newLow newHigh tree : Expr}
    (h : Operator.stretch.template? [x, low, high, newLow, newHigh] = some tree) :
    Alike tree.readings (x.readings ++ (low.readings ++ (high.readings
      ++ (newHigh.readings ++ newLow.readings)))) := by
  obtain rfl := Option.some.inj h
  have hlow : Alike (x.readings ++ (low.readings ++ high.readings) ++ low.readings)
      (x.readings ++ (low.readings ++ high.readings)) := by
    apply Alike.append_of_subset
    simp +contextual
  have hnew : Alike (newHigh.readings ++ newLow.readings)
      (newHigh.readings ++ newLow.readings) := rfl
  have hrest : Alike
      (x.readings ++ (low.readings ++ high.readings) ++ (newHigh.readings ++ newLow.readings)
        ++ (high.readings ++ low.readings ++ newLow.readings))
      (x.readings ++ (low.readings ++ high.readings) ++ (newHigh.readings ++ newLow.readings)) := by
    apply Alike.append_of_subset
    simp only [List.mem_append]
    tauto
  have hagain : Alike (high.readings ++ low.readings ++ newLow.readings)
      (high.readings ++ low.readings ++ newLow.readings) := rfl
  have h : Alike _ _ := ((hlow.append hnew).append hagain).trans hrest
  simpa [Expr.grouped] using h

theorem readings_template?_interpolate {ratio start stop tree : Expr}
    (h : Operator.interpolate.template? [ratio, start, stop] = some tree) :
    tree.readings = start.readings ++ (stop.readings ++ ratio.readings) := by
  obtain rfl := Option.some.inj h
  simp

end Operator

namespace Value

/-- The operands of every `stretch` in the value, in the order in which they are
    lowered, first read the same names in the same order as they do in the order
    in which the code has them. -/
def StretchesInOrder (v : Value) : Prop :=
  ∀ form x low high newLow newHigh,
    (Value.sequence form
      [.string Operator.stretch.tag, x, low, high, newLow, newHigh]).IsPart v →
    Alike (low.readings ++ (high.readings ++ (newLow.readings ++ (newHigh.readings ++ x.readings))))
      (x.readings ++ (low.readings ++ (high.readings ++ (newHigh.readings ++ newLow.readings))))

theorem StretchesInOrder.of_mem {form : SequenceForm} {items : List Value} {item : Value}
    (h : StretchesInOrder (.sequence form items)) (hmem : item ∈ items) :
    StretchesInOrder item := by
  intro form x low high newLow newHigh hpart
  exact h form x low high newLow newHigh (.item hmem hpart)

end Value

/-- What an expression reads is read by its tree in the same order, if this goes
    for the operands of each `stretch` in it. -/
theorem Lowers.alike {v : Value} {k : Kind} {wanted : Option Kind} {tree : Expr}
    (h : Lowers v k wanted tree) (hstretches : v.StretchesInOrder) :
    Alike tree.readings v.readings := by
  induction h with
  | number hv hl =>
    rw [readings_of_not_application]
    · rfl
    · rintro form tag operands rfl
      simp [isNumber] at hv
  | text hk hw => rfl
  | colorText hw hreads hcolor => rfl
  | channels hitems hcolor =>
    rw [readings_of_not_application]
    · rfl
    · rintro form tag operands heq
      cases heq
      simp [areChannels_string_cons] at hitems
  | get => simp [Alike, readings, Operator.ofTag?_tag]
  | var => simp [Alike, readings, Operator.ofTag?_tag]
  | time => simp [Alike, readings, Operator.ofTag?_tag, readingsOfAll, Operator.arrange]
  | @not form a wanted ta tree ha htree iha =>
    have hoperand := iha (hstretches.of_mem (by simp))
    obtain rfl := Option.some.inj htree
    rw [readings_application (by decide)]
    simpa [Operator.arrange, Operator.postponesFirst, readingsOfAll, Expr.decision, Expr.truth]
      using hoperand
  | @two form op a b wanted ta tb tree hop ha hb htree iha ihb =>
    have hoperands := (iha (hstretches.of_mem (by simp))).append
      (ihb (hstretches.of_mem (by simp)))
    have hfirst : op.postponesFirst = false := by
      cases op <;> first | rfl | simp [Operator.signature] at hop
    rw [Operator.readings_template?_two hop htree, readings_application (by simp [hop])]
    simpa [Operator.arrange, hfirst, readingsOfAll] using hoperands
  | @three form op a b c wanted ta tb tc tree hop ha hb hc htree iha ihb ihc =>
    have hoperands := (iha (hstretches.of_mem (by simp))).append
      ((ihb (hstretches.of_mem (by simp))).append (ihc (hstretches.of_mem (by simp))))
    have hfirst : op.postponesFirst = false := by
      cases op <;> first | rfl | simp [Operator.signature] at hop
    have h := (Operator.alike_template?_three hop htree).trans hoperands
    rw [readings_application (by simp [hop])]
    simpa [Alike, Operator.arrange, hfirst, readingsOfAll] using h
  | @stretch form x low high newLow newHigh wanted tx tlow thigh tnewLow tnewHigh tree hx hlow hhigh
      hnewLow hnewHigh htree ihx ihlow ihhigh ihnewLow ihnewHigh =>
    -- This is where the order may differ.
    have hoperands := (ihx (hstretches.of_mem (by simp))).append
      ((ihlow (hstretches.of_mem (by simp))).append ((ihhigh (hstretches.of_mem (by simp))).append
        ((ihnewHigh (hstretches.of_mem (by simp))).append
          (ihnewLow (hstretches.of_mem (by simp))))))
    have hself := hstretches form x low high newLow newHigh .refl
    have h := ((Operator.alike_template?_stretch htree).trans hoperands).trans hself.symm
    rw [readings_application (by decide), arrange_of_postponesFirst rfl]
    simpa [Alike, readingsOfAll] using h
  | @interpolate form ratio start stop wanted k k' tratio tstart tstop tree hratio hk hstart hk'
      hstop htree ihratio ihstart ihstop =>
    have hoperands := (ihstart (hstretches.of_mem (by simp))).append
      ((ihstop (hstretches.of_mem (by simp))).append (ihratio (hstretches.of_mem (by simp))))
    rw [Operator.readings_template?_interpolate htree, readings_application (by decide),
      arrange_of_postponesFirst rfl]
    simpa [Alike, readingsOfAll] using hoperands

/-! ## Names in the order of their first readings -/

/-- Where something is first read in code: how many pieces stand before it. -/
def firstUse (pieces : List Piece) (r : Reading) : Nat := pieces.idxOf (.reading r)

/-- Names stand in the order in which they are first read. -/
structure ListsFirstUses (pieces : List Piece) (names : Names) : Prop where
  attributeNames : names.attributeNames.Pairwise fun first second =>
    firstUse pieces (.attribute first) < firstUse pieces (.attribute second)
  variableNames : names.variableNames.Pairwise fun first second =>
    firstUse pieces (.variable first) < firstUse pieces (.variable second)

/-- Of names that are picked from a list one by one, each is picked from a later
    place than those that were picked before it. -/
theorem pairwise_register_filterMap {α : Type} [DecidableEq α] {name? : α → Option String}
    {item : String → α} (hitem : ∀ a name, name? a = some name ↔ a = item name) (items : List α) :
    (register [] (items.filterMap name?)).Pairwise fun first second =>
      items.idxOf (item first) < items.idxOf (item second) := by
  -- By the last item. Where the others stand does not depend on it.
  induction items using List.reverseRecOn with
  | nil => exact .nil
  | append_singleton items a ih =>
    have hmem : ∀ name, name ∈ register [] (items.filterMap name?) ↔ item name ∈ items := by
      intro name
      simp [mem_register, hitem]
    have hbefore : (register [] (items.filterMap name?)).Pairwise fun first second =>
        (items ++ [a]).idxOf (item first) < (items ++ [a]).idxOf (item second) := by
      refine ih.imp_of_mem ?_
      intro first second hfirst hsecond hlt
      rwa [List.idxOf_append_of_mem ((hmem _).1 hfirst),
        List.idxOf_append_of_mem ((hmem _).1 hsecond)]
    rw [List.filterMap_append]
    cases hname : name? a with
    | none => simpa [hname] using hbefore
    | some name =>
      obtain rfl := (hitem a name).1 hname
      have hlast : [item name].filterMap name? = [name] := by simp [hname]
      rw [hlast, register_concat]
      split
      · exact hbefore
      · next hnew =>
        rw [hmem] at hnew
        rw [List.pairwise_append]
        refine ⟨hbefore, List.pairwise_singleton _ _, ?_⟩
        intro first hfirst second hsecond
        obtain rfl := List.mem_singleton.1 hsecond
        have hfirst := (hmem first).1 hfirst
        rw [List.idxOf_append_of_mem hfirst, List.idxOf_append_of_notMem hnew]
        have hlt := List.idxOf_lt_length_iff.2 hfirst
        omega

/-- Names that are registered from left to right stand in the order of their
    first readings. -/
theorem listsFirstUses_add (pieces : List Piece) :
    ListsFirstUses pieces (Names.empty.add (Piece.readings pieces)) := by
  constructor
  · show (register [] _).Pairwise _
    rw [Piece.attributeNames_readings]
    exact pairwise_register_filterMap Piece.attributeName?_eq_some_iff pieces
  · show (register [] _).Pairwise _
    rw [Piece.variableNames_readings]
    exact pairwise_register_filterMap Piece.variableName?_eq_some_iff pieces

/-- Two lists of the same names in the same order of places are the same. -/
theorem eq_of_pairwise_lt {place : String → Nat} {first second : List String}
    (hfirst : first.Pairwise (place · < place ·)) (hsecond : second.Pairwise (place · < place ·))
    (hmem : ∀ name, name ∈ first ↔ name ∈ second) : first = second := by
  have hirrefl : ∀ {names : List String}, names.Pairwise (place · < place ·) → names.Nodup :=
    fun h => h.imp fun hlt heq => absurd (congrArg place heq) hlt.ne
  have hperm : first.Perm second :=
    (List.perm_ext_iff_of_nodup (hirrefl hfirst) (hirrefl hsecond)).2 hmem
  apply hperm.eq_of_pairwise _ hfirst hsecond
  intro a b _ _ hab hba
  exact absurd hab hba.asymm

/-- Readings are registered in the order of code exactly if they are like those
    of the code. -/
theorem listsFirstUses_iff_alike {pieces : List Piece} {readings : List Reading}
    (hmem : ∀ reading, reading ∈ readings ↔ reading ∈ Piece.readings pieces) :
    ListsFirstUses pieces (Names.empty.add readings) ↔ Alike (Piece.readings pieces) readings := by
  constructor
  · intro h
    have hcode := listsFirstUses_add pieces
    unfold Alike Names.add
    congr 1
    · apply eq_of_pairwise_lt hcode.attributeNames h.attributeNames
      simp [Names.add, mem_register, Reading.mem_attributeNames, hmem]
    · apply eq_of_pairwise_lt hcode.variableNames h.variableNames
      simp [Names.add, mem_register, Reading.mem_variableNames, hmem]
  · intro h
    rw [← h.add_eq]
    exact listsFirstUses_add pieces

/-! ## What compiling lists -/

/-- A template reads what the trees in it read. -/
theorem Operator.mem_readings_template?_iff {op : Operator} (hop : Kind.string ∉ op.signature)
    {trees : List Expr} {tree : Expr} (h : op.template? trees = some tree) {reading : Reading} :
    reading ∈ tree.readings ↔ ∃ e ∈ trees, reading ∈ e.readings := by
  unfold template? at h
  split at h
  case h_1 | h_2 => simp [signature] at hop
  case h_20 => simp at h
  all_goals
    obtain rfl := Option.some.inj h
    simp [Expr.grouped, Expr.decision, Expr.truth]
    try tauto

/-- In whatever order, a tree reads what the expression reads. -/
theorem Lowers.mem_readings_iff {v : Value} {k : Kind} {wanted : Option Kind} {tree : Expr}
    (h : Lowers v k wanted tree) {reading : Reading} :
    reading ∈ tree.readings ↔ reading ∈ v.readings := by
  have happlication : ∀ {form : SequenceForm} {op : Operator} {operands : List Value}
      {trees : List Expr} {tree : Expr}, Kind.string ∉ op.signature →
      op.template? trees = some tree →
      List.Forall₂ (fun operand e => reading ∈ e.readings ↔ reading ∈ operand.readings)
        operands trees →
      (reading ∈ tree.readings ↔
        reading ∈ (Value.sequence form (.string op.tag :: operands)).readings) := by
    intro form op operands trees tree hop htree hoperands
    rw [Operator.mem_readings_template?_iff hop htree, readings_application hop,
      Operator.mem_arrange]
    simp only [mem_readingsOfAll, exists_exists_and_eq_and]
    clear htree
    induction hoperands with
    | nil => simp
    | cons hhead _ ih => simp [hhead, ih]
  induction h with
  | number hv hl =>
    rw [readings_of_not_application]
    · rfl
    · rintro form tag operands rfl
      simp [isNumber] at hv
  | text hk hw => rfl
  | colorText hw hreads hcolor => rfl
  | channels hitems hcolor =>
    rw [readings_of_not_application]
    · rfl
    · rintro form tag operands heq
      cases heq
      simp [areChannels_string_cons] at hitems
  | get => simp [readings, Operator.ofTag?_tag]
  | var => simp [readings, Operator.ofTag?_tag]
  | time => simp [readings, Operator.ofTag?_tag, readingsOfAll, Operator.arrange]
  | not _ htree iha => exact happlication (by decide) htree (.cons iha .nil)
  | two hop _ _ htree iha ihb =>
    exact happlication (by simp [hop]) htree (.cons iha (.cons ihb .nil))
  | three hop _ _ _ htree iha ihb ihc =>
    exact happlication (by simp [hop]) htree (.cons iha (.cons ihb (.cons ihc .nil)))
  | stretch _ _ _ _ _ htree ihx ihlow ihhigh ihnewLow ihnewHigh =>
    exact happlication (by decide) htree
      (.cons ihx (.cons ihlow (.cons ihhigh (.cons ihnewLow (.cons ihnewHigh .nil)))))
  | interpolate _ _ _ _ _ htree ihratio ihstart ihstop =>
    exact happlication (by decide) htree (.cons ihratio (.cons ihstart (.cons ihstop .nil)))

namespace Value

variable {v part : Value} {k : Kind} {wanted : Option Kind}

/-- What compiling the value makes, with no names known: the code of a tree, and
    each name that the value reads once. -/
structure Yields (v : Value) (wanted : Option Kind) (tree : Expr) (names : Names) : Prop where
  tree_eq : v.toGlsl wanted .empty = .ok (tree, names)
  compile_eq : ∀ stem, v.compile stem wanted .empty = .ok (tree.text stem, names)
  text_eq : ∀ stem, tree.text stem = String.ofList (tree.pieces.flatMap (Piece.render stem))
  distinct : names.Distinct
  attributeNames : ∀ name, name ∈ names.attributeNames ↔ Reads v (.attribute name)
  variableNames : ∀ name, name ∈ names.variableNames ↔ Reads v (.variable name)

/-- The names stand in the order in which the code first reads them. -/
def IsListedInOrder (v : Value) (wanted : Option Kind) : Prop :=
  ∃ tree names, v.Yields wanted tree names ∧ ListsFirstUses tree.pieces names

theorem yields_of_lowers {tree : Expr} (htyped : WellTyped v k) (h : Lowers v k wanted tree) :
    v.Yields wanted tree (Names.empty.add v.readings) := by
  have hvalid := htyped.validate_eq_ok
  refine ⟨?_, ?_, tree.text_eq_pieces, ⟨?_, ?_⟩, ?_, ?_⟩
  · simp [toGlsl, hvalid, h.lower_eq, Except.mapError, bind, Except.bind]
  · intro stem
    rw [compile_of_lowers hvalid h, Names.extend_add]
  · exact (register_appendsOnce _ _).nodup List.nodup_nil
  · exact (register_appendsOnce _ _).nodup List.nodup_nil
  · intro name
    simp [Names.add, Names.empty, mem_register, Reading.mem_attributeNames, htyped.mem_readings_iff]
  · intro name
    simp [Names.add, Names.empty, mem_register, Reading.mem_variableNames, htyped.mem_readings_iff]

/-- The tree of an expression decides whether its names are listed in order. -/
theorem isListedInOrder_iff {tree : Expr} (htyped : WellTyped v k) (h : Lowers v k wanted tree) :
    v.IsListedInOrder wanted ↔ Alike tree.readings v.readings := by
  have hyields := yields_of_lowers htyped h
  have halike : ListsFirstUses tree.pieces (Names.empty.add v.readings) ↔
      Alike tree.readings v.readings :=
    listsFirstUses_iff_alike fun reading => h.mem_readings_iff.symm
  constructor
  · rintro ⟨tree', names, hyields', hlists⟩
    have heq := hyields.tree_eq.symm.trans hyields'.tree_eq
    simp only [Except.ok.injEq, Prod.mk.injEq] at heq
    obtain ⟨rfl, rfl⟩ := heq
    exact halike.1 hlists
  · intro hcode
    exact ⟨tree, _, hyields, halike.2 hcode⟩

theorem StretchesInOrder.of_isPart (h : v.StretchesInOrder) (hpart : part.IsPart v) :
    part.StretchesInOrder := by
  intro form x low high newLow newHigh hstretch
  exact h form x low high newLow newHigh (hstretch.trans hpart)

/-- An application that stands in an expression is one, too: no other sequence
    than an application has sequences in it. -/
theorem IsPart.wellTyped_application {form : SequenceForm} {tag : String} {operands : List Value}
    (hpart : (Value.sequence form (.string tag :: operands)).IsPart v) (h : WellTyped v k) :
    ∃ k, WellTyped (.sequence form (.string tag :: operands)) k := by
  have hatom : ∀ {atom : Value}, (∀ form items, atom ≠ .sequence form items) →
      ¬ (Value.sequence form (.string tag :: operands)).IsPart atom := fun hatom hpart =>
    hatom _ _ ((isPart_iff_eq_of_not_sequence hatom).1 hpart).symm
  induction hpart generalizing k with
  | refl => exact ⟨k, h⟩
  | item hmem hinner ih =>
    cases h with
    | number finite => simp at finite
    | channels count finite =>
      refine absurd hinner (hatom ?_)
      rintro form items rfl
      simpa using finite _ hmem
    | application typed fits =>
      rcases List.mem_cons.1 hmem with rfl | hmem
      · exact absurd hinner (hatom (by simp))
      · have hwhole : WellTyped (.sequence form (.string _ :: _)) _ := .application typed fits
        obtain ⟨actual, htyped⟩ := hwhole.exists_kind_of_mem hmem
        exact ih htyped

/-- An operand that is a number is lowered to a tree that reads the same names in
    the same order, if its names are listed in order. -/
theorem exists_alike_of_number {operand : Value}
    (hoperand : ∃ k, WellTyped operand k ∧ Kind.number.accepts k)
    (hlisted : operand.validate = .ok () → ∀ wanted, ¬ operand.IsMisplacedText wanted →
      operand.IsListedInOrder wanted) :
    ∃ tree, Lowers operand .number (some .number) tree ∧ Alike tree.readings operand.readings := by
  obtain ⟨tree, hlowers⟩ := (lowerable operand).toNumber hoperand
  obtain ⟨k, htyped, haccepts⟩ := hoperand
  obtain rfl := Kind.number_accepts_iff.1 haccepts
  refine ⟨tree, hlowers, (isListedInOrder_iff htyped hlowers).1 ?_⟩
  exact hlisted htyped.validate_eq_ok _ (not_isMisplacedText_of_accepts htyped haccepts)

/-- An expression yields code and the names that it reads, each once. The names
    of the expression and of all its parts stand in the order in which the code
    first reads them exactly if the operands of each `stretch` in it, taken in the
    order in which they are lowered, read names in the order of the code. -/
theorem compile_listsFirstUses_iff (hvalid : v.validate = .ok ()) :
    (∀ wanted, ¬ v.IsMisplacedText wanted → ∃ tree names, v.Yields wanted tree names) ∧
    (v.StretchesInOrder ↔ ∀ part : Value, part.IsPart v → part.validate = .ok () →
      ∀ wanted, ¬ part.IsMisplacedText wanted → part.IsListedInOrder wanted) := by
  refine ⟨?_, ?_, ?_⟩
  · intro wanted hplace
    have htyped := v.validate_eq_ok_iff.1 hvalid
    obtain ⟨tree, hlowers⟩ := htyped.exists_lowers hplace
    exact ⟨tree, _, yields_of_lowers htyped hlowers⟩
  · intro hstretches part hpart hvalid wanted hplace
    have htyped := part.validate_eq_ok_iff.1 hvalid
    obtain ⟨tree, hlowers⟩ := htyped.exists_lowers hplace
    exact (isListedInOrder_iff htyped hlowers).2 (hlowers.alike (hstretches.of_isPart hpart))
  · intro hlisted form x low high newLow newHigh hpart
    obtain ⟨k, htyped⟩ := hpart.wellTyped_application (v.validate_eq_ok_iff.1 hvalid)
    obtain ⟨rfl, hoperands⟩ := WellTyped.application_iff.1 htyped
    simp only [Operator.signature, List.forall₂_cons, List.Forall₂.nil, and_true] at hoperands
    obtain ⟨hx, hlow, hhigh, hnewLow, hnewHigh⟩ := hoperands
    have hoperand : ∀ operand ∈ [x, low, high, newLow, newHigh],
        operand.validate = .ok () → ∀ wanted, ¬ operand.IsMisplacedText wanted →
          operand.IsListedInOrder wanted := by
      intro operand hmem
      exact hlisted operand (IsPart.trans (.item (List.mem_cons_of_mem _ hmem) .refl) hpart)
    obtain ⟨tx, hlx, hax⟩ := exists_alike_of_number hx (hoperand x (by simp))
    obtain ⟨tlow, hllow, halow⟩ := exists_alike_of_number hlow (hoperand low (by simp))
    obtain ⟨thigh, hlhigh, hahigh⟩ := exists_alike_of_number hhigh (hoperand high (by simp))
    obtain ⟨tnewLow, hlnewLow, hanewLow⟩ :=
      exists_alike_of_number hnewLow (hoperand newLow (by simp))
    obtain ⟨tnewHigh, hlnewHigh, hanewHigh⟩ :=
      exists_alike_of_number hnewHigh (hoperand newHigh (by simp))
    -- The application itself is listed in order, and so are its operands.
    have hself := hlisted _ hpart htyped.validate_eq_ok none (not_isMisplacedText_none _)
    rw [isListedInOrder_iff htyped (.stretch hlx hllow hlhigh hlnewLow hlnewHigh rfl)] at hself
    have hcode := (Operator.alike_template?_stretch rfl).trans
      (hax.append (halow.append (hahigh.append (hanewHigh.append hanewLow))))
    rw [readings_application (by decide), arrange_of_postponesFirst rfl] at hself
    have h := hself.symm.trans hcode
    simpa [Alike, readingsOfAll] using h

/-- A size that is stretched to a range which depends on it. -/
def scaledSize : Value :=
  .sequence .list [.string "stretch", .sequence .list [.string "get", .string "size"], .int 0,
    .int 9, .sequence .list [.string "get", .string "size"],
    .sequence .list [.string "var", .string "scale"]]

/-- Its names are listed in order: the size is read again before the scale. -/
theorem scaledSize_listsFirstUses :
    scaledSize.validate = .ok () ∧ scaledSize.IsListedInOrder none := by
  have hvalid : scaledSize.validate = .ok () := validate_eq_ok_of_isOk (by decide +kernel)
  have hstretches : scaledSize.StretchesInOrder := by
    intro form x low high newLow newHigh hpart
    simp only [scaledSize, isPart_sequence_iff, isPart_iff_eq_of_not_sequence, List.mem_cons,
      List.not_mem_nil, or_false, exists_eq_or_imp, exists_eq_left, ne_eq, reduceCtorEq,
      not_false_eq_true, implies_true, sequence.injEq, List.cons.injEq, string.injEq, and_false]
      at hpart
    obtain ⟨-, -, rfl, rfl, rfl, rfl, rfl, -⟩ := hpart
    decide +kernel
  have h := (compile_listsFirstUses_iff hvalid).2.1 hstretches
  exact ⟨hvalid, h scaledSize .refl hvalid none (not_isMisplacedText_none _)⟩

/-- A size that is stretched from a range which depends on another property. -/
def stretchedSize : Value :=
  .sequence .list [.string "stretch", .sequence .list [.string "get", .string "size"],
    .sequence .list [.string "get", .string "low"], .int 1, .int 2, .int 3]

/-- The code reads the size first, but the size is listed last. -/
theorem stretchedSize_misordered :
    stretchedSize.validate = .ok () ∧ ∃ tree,
      stretchedSize.Yields none tree ⟨["low", "size"], []⟩ ∧
      tree.text "a_"
        = "((clamp(a_size, a_low, 1.0) - a_low) * ((3.0 - 2.0) / (1.0 - a_low)) + 2.0)" ∧
      firstUse tree.pieces (.attribute "size") < firstUse tree.pieces (.attribute "low") ∧
      ¬ ListsFirstUses tree.pieces ⟨["low", "size"], []⟩ := by
  have hvalid : stretchedSize.validate = .ok () := validate_eq_ok_of_isOk (by decide +kernel)
  have htyped : WellTyped stretchedSize .number := stretchedSize.validate_eq_ok_iff.1 hvalid
  have hnumber : ∀ n : Int, (Value.int n).isFiniteNumber →
      ∃ l, Lowers (.int n) .number (some .number) (.literal l) := by
    intro n hfinite
    obtain ⟨l, hl⟩ := Glsl.exists_literalOf hfinite
    exact ⟨l, .number rfl hl⟩
  obtain ⟨l, hhigh⟩ := hnumber 1 (by decide +kernel)
  obtain ⟨l', hnewLow⟩ := hnumber 2 (by decide +kernel)
  obtain ⟨l'', hnewHigh⟩ := hnumber 3 (by decide +kernel)
  obtain ⟨tree, hlowers, hbefore⟩ : ∃ tree, Lowers stretchedSize .number none tree ∧
      firstUse tree.pieces (.attribute "size") < firstUse tree.pieces (.attribute "low") :=
    ⟨_, .stretch .get .get hhigh hnewLow hnewHigh rfl, by
      simp [firstUse, Expr.grouped, Expr.pieces, Expr.piecesOfAll, List.intercalate]⟩
  have hyields : stretchedSize.Yields none tree ⟨["low", "size"], []⟩ :=
    yields_of_lowers htyped hlowers
  have hcode : (stretchedSize.compile "a_" none .empty).toOption.map Prod.fst
      = some "((clamp(a_size, a_low, 1.0) - a_low) * ((3.0 - 2.0) / (1.0 - a_low)) + 2.0)" := by
    decide +kernel
  rw [hyields.compile_eq] at hcode
  refine ⟨hvalid, tree, hyields, Option.some.inj hcode, hbefore, ?_⟩
  intro hlists
  have hafter : firstUse tree.pieces (.attribute "low")
      < firstUse tree.pieces (.attribute "size") := by
    simpa using hlists.attributeNames
  exact absurd hafter hbefore.asymm

end Value

end SymbolStyle

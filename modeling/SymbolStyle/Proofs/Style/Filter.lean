import SymbolStyle.Proofs.Correctness
import SymbolStyle.Proofs.Style.Slots

/-! # Filters

    When a filter takes effect.

    A filter is a number, and a fragment is not drawn where that number is not
    positive. Like most fields a filter counts as left out if it is vacant. But a
    zero is both: an expression like any other, by which nothing would be drawn,
    and a vacant value, by which all is.

    * `Value.IsZeroLiteral`: the only numbers that are vacant.
    * `Style.HoldsUnlessPositive`: a condition that says where a filter is not
      positive.
    * `compile_discard`: the condition of a compiled style is the one that its
      filter makes, exactly if the filter is no literal zero.
    * `zeroFilter_keeps`: a style whose filter is.
-/

namespace SymbolStyle

open Value
open Glsl (Expr Literal Term ReadsAs)

/-! ## Zeros -/

namespace Value

/-- The value is a zero that is written out: whole or not, of either sign. -/
inductive IsZeroLiteral : Value → Prop where
  | int : IsZeroLiteral (.int 0)
  | float {x : Double} (hzero : x.isZero) : IsZeroLiteral (.float x)

/-- A number that is an expression is vacant exactly if it is a literal zero. No
    application is vacant, whatever it computes. -/
theorem isVacant_iff_isZeroLiteral {v : Value} {k : Kind} (htyped : WellTyped v k)
    (hk : k = .number) : v.isVacant ↔ v.IsZeroLiteral := by
  constructor
  · intro hvacant
    cases htyped with
    | number finite =>
      cases v with
      | int n =>
        obtain rfl : n = 0 := by simpa [isVacant] using hvacant
        exact .int
      | float x => exact .float hvacant
      | _ => simp [isFiniteNumber, number?] at finite
    | application typed fits => simp [isVacant] at hvacant
    | _ => simp at hk
  · intro hzero
    cases hzero with
    | int => rfl
    | float hzero => exact hzero

end Value

/-- A literal zero means zero. -/
theorem Value.IsZeroLiteral.meaning_eq {v : Value} (h : v.IsZeroLiteral) (A : Arithmetic)
    (inputs : Inputs) : v.meaning A inputs = some (.number 0) := by
  have hplain : ∀ form tag operands, v ≠ .sequence form (.string tag :: operands) := by
    rintro form tag operands rfl
    cases h
  rw [meaning_of_not_application hplain]
  have hshortest : Magnitude.zero.shortest.value = 0 := by decide +kernel
  cases h with
  | int => decide +kernel
  | @float x hzero =>
    cases x with
    | finite negative m =>
      -- Only the magnitude zero has rank zero.
      obtain rfl : m = .zero := by
        cases m with
        | mk rank rank_lt =>
          obtain rfl : rank = 0 := by simpa [Double.isZero] using hzero
          rfl
      have hliteral : Glsl.literalOf (.float (.finite negative .zero)) = .ok ⟨negative, .zero⟩ :=
        rfl
      have hvalue : Literal.value ⟨negative, .zero⟩ = 0 := by
        unfold Literal.value
        rw [hshortest, neg_zero, ite_self]
      rw [constantMeaning_number rfl hliteral, hvalue]
    | _ => simp [Double.isZero] at hzero

/-! ## Conditions -/

namespace Style

/-- The text is one condition, and it holds where the number that the filter
    means is not positive. -/
def HoldsUnlessPositive (filter : Value) (text : String) : Prop :=
  ∃ t, (∀ t', ReadsAs text.toList .expression t' ↔ t' = t) ∧
    ∀ A inputs, ∃ x, filter.meaning A inputs = some (.number x) ∧
      ∀ env, Feeds "v_" inputs env filter → t.eval A env = some (.truth (x ≤ 0))

/-- The text of a comparison with zero. -/
theorem text_lessOrEqual_zero (tree : Expr) (stem : String) :
    (Expr.binary .lessOrEqual tree (.truth false)).text stem = tree.text stem ++ " <= 0.0" := by
  have hzero : (Expr.truth false).render stem = "0.0".toList := by
    show Literal.text ⟨false, .zero⟩ = _
    decide +kernel
  have hrender : (Expr.binary .lessOrEqual tree (.truth false)).render stem
      = tree.render stem ++ " <= 0.0".toList := by
    rw [Expr.render, hzero, List.append_assoc]
    rfl
  rw [Expr.text, hrender, String.ofList_append, String.ofList_toList, Expr.text]

/-- The code of a filter, compared with zero, holds where the filter is not
    positive. -/
theorem holdsUnlessPositive {filter : Value} {tree : Expr} (htyped : WellTyped filter .number)
    (hlowers : Lowers filter .number none tree) (hnames : SymbolStyle.ReadsPlainNames filter) :
    HoldsUnlessPositive filter (tree.text "v_" ++ " <= 0.0") := by
  obtain ⟨t, hreads, hinstantiates, -⟩ := hlowers.emits (.inr rfl) hnames (.inl rfl)
  have hzero : ReadsAs ((Expr.truth false).render "v_") .unary .zero := readsAs_truth false
  obtain ⟨c, hrank, hcondition⟩ := readsAs_operation .lessOrEqual hreads hzero
  have hcode : ReadsAs (tree.text "v_" ++ " <= 0.0").toList .expression
      (.binary .lessOrEqual t .zero) := by
    rw [← text_lessOrEqual_zero, Expr.text, String.toList_ofList]
    exact hcondition.expression hrank.le
  refine ⟨.binary .lessOrEqual t .zero, hcode.iff_eq, ?_⟩
  intro A inputs
  have hmeans : Means A inputs "v_" filter .number t := hinstantiates.means htyped
  obtain ⟨d, hmeaning, hkind, heval⟩ := hmeans
  obtain ⟨x, rfl⟩ := Datum.isOf_number_iff.1 hkind
  refine ⟨x, hmeaning, ?_⟩
  intro env hfeeds
  exact Term.eval_binary .lessOrEqual (heval env hfeeds) Term.eval_zero

/-- A comparison with zero is not the condition that never holds. -/
theorem append_ne_false (code : String) : code ++ " <= 0.0" ≠ "false" := by
  intro heq
  have hlast : (code.toList ++ " <= 0.0".toList).getLast? = "false".toList.getLast? := by
    rw [← String.toList_append, heq]
  rw [List.getLast?_append] at hlast
  have hends : some '0' = some 'e' := hlast
  simp at hends

/-! ## Filters of compiled styles -/

/-- A filter decides which fragments are drawn, unless it is a literal zero. The
    condition to discard a fragment is that its code, as it is alone, is not
    positive, and this holds where the filter means so. A literal zero is nowhere
    positive, but nothing is discarded. -/
theorem compile_discard {style filter : Value} {compiled : CompiledStyle}
    (h : (compile style).result = .ok compiled) (hfilter : style.get? "filter" = some filter)
    (hvalid : filter.validate = .ok ()) (hkind : filter.kind = .number) :
    ∃ code, filter.HasCode "v_" none code ∧
      (compiled.program.discard = code ++ " <= 0.0" ↔ ¬ filter.IsZeroLiteral) ∧
      (filter.IsZeroLiteral → compiled.program.discard = "false" ∧
        ∀ A inputs, filter.meaning A inputs = some (.number 0)) ∧
      (SymbolStyle.ReadsPlainNames filter → HoldsUnlessPositive filter (code ++ " <= 0.0")) := by
  obtain ⟨c⟩ := exists_compilation h
  have htyped : WellTyped filter .number := hkind ▸ filter.validate_eq_ok_iff.1 hvalid
  obtain ⟨tree, hlowers⟩ := htyped.exists_lowers filter.not_isMisplacedText_none
  have hcode : filter.HasCode "v_" none (tree.text "v_") := by
    intro names
    exact ⟨_, compile_of_lowers hvalid hlowers "v_" names⟩
  -- The slot is filled with the filter, unless the filter counts as left out.
  have hslot : FillsDiscard filter.given? compiled.program.discard := by
    have hfills := c.fillsSlots.discard
    rwa [c.hasFields.filter, hfilter, Option.bind_some] at hfills
  have hzero := isVacant_iff_isZeroLiteral htyped rfl
  refine ⟨tree.text "v_", hcode, ?_, ?_, holdsUnlessPositive htyped hlowers⟩
  · by_cases hvacant : filter.isVacant
    · rw [given?, if_pos hvacant] at hslot
      have hfalse : compiled.program.discard = "false" := hslot
      rw [hfalse]
      constructor
      · intro heq
        exact absurd heq.symm (append_ne_false _)
      · intro hnot
        exact absurd (hzero.1 hvacant) hnot
    · rw [given?, if_neg hvacant] at hslot
      obtain ⟨code, hcode', hdiscard⟩ := hslot
      rw [hdiscard, hcode'.unique hcode]
      constructor
      · intro _ hliteral
        exact hvacant (hzero.2 hliteral)
      · intro _
        rfl
  · intro hliteral
    rw [given?, if_pos (hzero.2 hliteral)] at hslot
    exact ⟨hslot, hliteral.meaning_eq⟩

/-- The ellipse is drawn where its filter, a property, is positive. -/
theorem redEllipse_discard :
    ∃ compiled, (compile redEllipse).result = .ok compiled ∧
      ∃ code, (Value.sequence .list [.string "get", .string "rank"]).HasCode "v_" none code ∧
        compiled.program.discard = code ++ " <= 0.0" := by
  obtain ⟨compiled, hcompile⟩ : ∃ compiled, (compile redEllipse).result = .ok compiled :=
    exists_ok_of_isOk (by decide +kernel)
  have hvalid : (Value.sequence .list [.string "get", .string "rank"]).validate = .ok () :=
    validate_eq_ok_of_isOk (by decide +kernel)
  obtain ⟨code, hcode, hdiscard, -, -⟩ := compile_discard hcompile rfl hvalid rfl
  refine ⟨compiled, hcompile, code, hcode, hdiscard.2 ?_⟩
  intro hliteral
  cases hliteral

/-- A square that a filter of zero should hide. -/
def zeroFilter : Value :=
  .object [("symbol", .object [("symbolType", .string "square"), ("size", .int 4)]),
    ("filter", .int 0)]

/-- The filter is a number and declared, but the condition is not the one that
    it makes: the square is drawn. -/
theorem zeroFilter_keeps :
    ∃ compiled, (compile zeroFilter).result = .ok compiled ∧
      zeroFilter.get? "filter" = some (.int 0) ∧ (Value.int 0).validate = .ok () ∧
      (Value.int 0).kind = .number ∧ (Value.int 0).HasCode "v_" none "0.0" ∧
      compiled.program.discard ≠ "0.0" ++ " <= 0.0" ∧ compiled.program.discard = "false" := by
  obtain ⟨compiled, hcompile⟩ : ∃ compiled, (compile zeroFilter).result = .ok compiled :=
    exists_ok_of_isOk (by decide +kernel)
  have hvalid : (Value.int 0).validate = .ok () := validate_eq_ok_of_isOk (by decide +kernel)
  have hcode : (Value.int 0).HasCode "v_" none "0.0" := by
    intro names
    have hzero : Double.ofInt 0 = .zero := by decide +kernel
    have hliteral : Glsl.literalOf (.int 0) = .ok ⟨false, .zero⟩ := by
      rw [Glsl.literalOf, toDouble, hzero]
      rfl
    have hlowers : Lowers (.int 0) .number none (.literal ⟨false, .zero⟩) := .number rfl hliteral
    have htext : (Expr.literal ⟨false, .zero⟩).text "v_" = "0.0" := by decide +kernel
    exact ⟨_, htext ▸ compile_of_lowers hvalid hlowers "v_" names⟩
  obtain ⟨c⟩ := exists_compilation hcompile
  have hdiscard : compiled.program.discard = "false" := by
    have hfills := c.fillsSlots.discard
    rw [c.hasFields.filter] at hfills
    exact hfills
  refine ⟨compiled, hcompile, rfl, hvalid, rfl, hcode, ?_, hdiscard⟩
  rw [hdiscard]
  decide

end Style

end SymbolStyle

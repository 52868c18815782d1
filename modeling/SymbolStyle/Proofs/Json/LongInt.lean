import Mathlib.Data.List.Basic
import Mathlib.Data.List.TakeDrop
import Mathlib.Data.List.TakeWhile
import SymbolStyle.Json.Reader
import SymbolStyle.Sequence

/-! # Whole numbers that stop the reader

    A document is not read to its end if a whole number in it has too many
    digits.

    The reader is a machine that takes tokens. It stops at the first token that
    does not fit its state, and it stops at a long number exactly where a value
    may stand; in any other place the document is no JSON already.

    * `run_eq_error_iff`: at which token a run stops.
    * `read_eq_longInt_iff`: when it is a long number.
    * `StopsAtLongInt.exists_digits`: then the text has so many digits in a row.
-/

namespace SymbolStyle.Json

open Text

/-! ## Where the machine stops -/

/-- A run stops at the first token that its state does not take. -/
theorem run_eq_error_iff {state : State} {ts : List Token} {e : ReadError} :
    run state ts = .error e ↔ ∃ before token after reached, ts = before ++ token :: after ∧
      run state before = .ok reached ∧ step reached token = .error e := by
  constructor
  · intro h
    induction ts generalizing state with
    | nil => cases h
    | cons first ts ih =>
      rw [run_cons, bind_eq_error_iff] at h
      rcases h with hstep | ⟨s, hstep, h⟩
      · exact ⟨[], first, ts, state, rfl, rfl, hstep⟩
      · obtain ⟨before, token, after, reached, rfl, hbefore, htoken⟩ := ih h
        refine ⟨first :: before, token, after, reached, rfl, ?_, htoken⟩
        rw [run_cons, hstep]
        exact hbefore
  · rintro ⟨before, token, after, reached, rfl, hbefore, htoken⟩
    have hafter : run reached (token :: after) = .error e := by
      rw [run_cons, htoken]
      rfl
    rw [run_append, hbefore]
    exact hafter

/-- A value may come next. -/
def State.AwaitsValue : State → Prop
  | .value _ | .firstItem _ => True
  | _ => False

theorem startValue_eq_longInt_iff {frames : List Frame} {token : Token} :
    startValue frames token = .error .longInt ↔ token = .longInt := by
  cases token <;> simp [startValue]

theorem startName_ne_longInt (frames : List Frame) (token : Token) :
    startName frames token ≠ .error .longInt := by
  unfold startName
  split <;> simp

/-- A long number is what is wrong exactly where a value may come. -/
theorem step_eq_longInt_iff {state : State} {token : Token} :
    step state token = .error .longInt ↔ token = .longInt ∧ state.AwaitsValue := by
  fun_cases step state token with
  | case1 frames token => simp [startValue_eq_longInt_iff, State.AwaitsValue]
  | case3 frames token => simp [startValue_eq_longInt_iff, State.AwaitsValue]
  | _ => simp_all [startName_ne_longInt, State.AwaitsValue]

/-- The text is the beginning of a document up to a value for which there is a
    whole number of too many digits. -/
def StopsAtLongInt (text : List Char) : Prop :=
  ∃ before after state, tokens text = before ++ .longInt :: after ∧
    run (.value []) before = .ok state ∧ state.AwaitsValue

theorem read_eq_longInt_iff {text : List Char} :
    read text = .error .longInt ↔ StopsAtLongInt text := by
  unfold read
  rw [bind_eq_error_iff, run_eq_error_iff]
  simp only [step_eq_longInt_iff]
  constructor
  · rintro (⟨before, token, after, state, htokens, hbefore, rfl, hawaits⟩ | ⟨state, -, hend⟩)
    · exact ⟨before, after, state, htokens, hbefore, hawaits⟩
    · -- A document that just ends is malformed if anything is wrong with it.
      cases state <;> simp at hend
  · rintro ⟨before, after, state, htokens, hbefore, hawaits⟩
    exact .inl ⟨before, .longInt, after, state, htokens, hbefore, rfl, hawaits⟩

/-! ## What long numbers are written with -/

/-! Every scanner leaves an end of the text that it is given. -/

theorem span_eq {p : Char → Bool} {cs ds rest : List Char} (h : cs.span p = (ds, rest)) :
    cs = ds ++ rest ∧ ∀ c ∈ ds, p c := by
  rw [List.span_eq_takeWhile_dropWhile, Prod.mk.injEq] at h
  obtain ⟨rfl, rfl⟩ := h
  exact ⟨List.takeWhile_append_dropWhile.symm, fun c hc => List.mem_takeWhile_imp hc⟩

theorem scanUnits_suffix {cs rest : List Char} {units : List Nat}
    (h : scanUnits cs = some (units, rest)) : rest <:+ cs := by
  fun_induction scanUnits cs generalizing units with
  | case1 => cases h
  | case2 after =>
    obtain ⟨-, rfl⟩ := Prod.mk.inj (Option.some.inj h)
    exact List.suffix_cons _ _
  | case3 a b c d after ih =>
    simp only [Option.bind_eq_bind, Option.bind_eq_some_iff] at h
    obtain ⟨unit, -, ⟨units', rest'⟩, hscan, heq⟩ := h
    obtain ⟨-, rfl⟩ := Prod.mk.inj (Option.some.inj heq)
    exact (ih hscan).trans (List.suffix_append ['\\', 'u', a, b, c, d] after)
  | case4 c after _ ih =>
    simp only [Option.bind_eq_bind, Option.bind_eq_some_iff] at h
    obtain ⟨unit, -, ⟨units', rest'⟩, hscan, heq⟩ := h
    obtain ⟨-, rfl⟩ := Prod.mk.inj (Option.some.inj heq)
    exact (ih hscan).trans (List.suffix_append ['\\', c] after)
  | case5 c after => simp at h
  | case6 c after =>
    rename_i ih
    obtain ⟨⟨units', rest'⟩, hscan, heq⟩ := Option.bind_eq_some_iff.1 h
    obtain ⟨-, rfl⟩ := Prod.mk.inj (Option.some.inj heq)
    exact (ih hscan).trans (List.suffix_cons c after)

theorem scanWhole?_eq {cs ds rest : List Char} (h : scanWhole? cs = some (ds, rest)) :
    cs = ds ++ rest ∧ ∀ c ∈ ds, isAsciiDigit c := by
  unfold scanWhole? at h
  split at h
  · obtain ⟨rfl, rfl⟩ := Prod.mk.inj (Option.some.inj h)
    refine ⟨rfl, fun c hc => ?_⟩
    obtain rfl := List.mem_singleton.1 hc
    rfl
  · simp only [Option.ite_none_left_eq_some, Option.some.injEq] at h
    exact span_eq h.2

theorem scanFraction_suffix (cs : List Char) : (scanFraction cs).2 <:+ cs := by
  unfold scanFraction
  split
  · next rest =>
    dsimp only
    split
    · exact List.suffix_rfl
    · rw [List.span_eq_takeWhile_dropWhile]
      exact (List.dropWhile_suffix _).trans (List.suffix_cons _ _)
  · exact List.suffix_rfl

theorem takeSign_suffix (cs : List Char) : (Decimal.takeSign cs).2 <:+ cs := by
  unfold Decimal.takeSign
  split
  · exact List.suffix_cons _ _
  · exact List.suffix_cons _ _
  · exact List.suffix_rfl

theorem scanPower_suffix (cs : List Char) : (scanPower cs).2 <:+ cs := by
  unfold scanPower
  split
  · next mark rest =>
    dsimp only
    split
    · rw [List.span_eq_takeWhile_dropWhile]
      exact ((List.dropWhile_suffix _).trans (takeSign_suffix rest)).trans (List.suffix_cons _ _)
    · exact List.suffix_rfl
  · exact List.suffix_rfl

/-- A number leaves an end of the text, and if it is a long one, its digits stand
    at the beginning. -/
theorem scanNumber?_eq {negative : Bool} {cs rest : List Char} {token : Token}
    (h : scanNumber? negative cs = some (token, rest)) :
    rest <:+ cs ∧ (token = .longInt →
      ∃ ds, ds <+: cs ∧ (∀ c ∈ ds, isAsciiDigit c) ∧ digitLimit < ds.length) := by
  unfold scanNumber? at h
  obtain ⟨⟨whole, afterWhole⟩, hwhole, heq⟩ := Option.bind_eq_some_iff.1 h
  obtain ⟨rfl, hdigits⟩ := scanWhole?_eq hwhole
  have hfraction := scanFraction_suffix afterWhole
  dsimp only at heq
  generalize scanFraction afterWhole = scanned at hfraction heq
  obtain ⟨fraction, afterFraction⟩ := scanned
  have hpower := scanPower_suffix afterFraction
  dsimp only at heq
  generalize scanPower afterFraction = scanned at hpower heq
  obtain ⟨power, afterPower⟩ := scanned
  obtain ⟨htoken, rfl⟩ := Prod.mk.inj (Option.some.inj heq)
  constructor
  · exact (hpower.trans hfraction).trans (List.suffix_append _ _)
  · rintro rfl
    refine ⟨whole, List.prefix_append _ _, hdigits, ?_⟩
    -- Only the test of the length makes a long number.
    split at htoken
    · split at htoken
      · assumption
      · cases htoken
    · cases htoken

theorem scanWord?_eq {cs rest : List Char} {token : Token}
    (h : scanWord? cs = some (token, rest)) : rest <:+ cs ∧ token ≠ .longInt := by
  obtain ⟨⟨word, v⟩, -, hword⟩ := List.exists_of_findSome?_eq_some h
  obtain ⟨rest', hrest, heq⟩ := Option.map_eq_some_iff.1 hword
  obtain ⟨rfl, rfl⟩ := Prod.mk.inj heq
  refine ⟨⟨word.toList, List.append_eq_of_isPrefixOf?_eq_some hrest⟩, ?_⟩
  simp

/-- One token leaves an end of the text, and if it is a long number, its digits
    stand in the text. -/
theorem scanToken?_eq {cs rest : List Char} {token : Token}
    (h : scanToken? cs = some (token, rest)) :
    rest <:+ cs ∧ (token = .longInt →
      ∃ ds, ds <:+: cs ∧ (∀ c ∈ ds, isAsciiDigit c) ∧ digitLimit < ds.length) := by
  unfold scanToken? at h
  split at h
  · cases h
  · obtain ⟨⟨units, rest'⟩, hscan, heq⟩ := Option.map_eq_some_iff.1 h
    obtain ⟨rfl, rfl⟩ := Prod.mk.inj heq
    exact ⟨(scanUnits_suffix hscan).trans (List.suffix_cons _ _), by simp⟩
  · next c after _ =>
    split at h
    · next mark hmark =>
      obtain ⟨rfl, rfl⟩ := Prod.mk.inj (Option.some.inj h)
      refine ⟨List.suffix_cons _ _, ?_⟩
      rintro rfl
      unfold mark? at hmark
      split at hmark <;> simp at hmark
    · rcases Option.or_eq_some_iff.1 h with hword | ⟨-, hnumber⟩
      · obtain ⟨hsuffix, htoken⟩ := scanWord?_eq hword
        exact ⟨hsuffix, fun hlong => absurd hlong htoken⟩
      · split at hnumber
        · obtain ⟨hsuffix, hlong⟩ := scanNumber?_eq hnumber
          refine ⟨hsuffix.trans (List.suffix_cons _ _), fun htoken => ?_⟩
          obtain ⟨ds, hprefix, hdigits⟩ := hlong htoken
          exact ⟨ds, hprefix.isInfix.trans (List.suffix_cons _ _).isInfix, hdigits⟩
        · obtain ⟨hsuffix, hlong⟩ := scanNumber?_eq hnumber
          refine ⟨hsuffix, fun htoken => ?_⟩
          obtain ⟨ds, hprefix, hdigits⟩ := hlong htoken
          exact ⟨ds, hprefix.isInfix, hdigits⟩

/-- The digits of a long number stand in the text, one after another. -/
theorem exists_digits_of_longInt_mem {cs : List Char} (h : Token.longInt ∈ tokens cs) :
    ∃ ds, ds <:+: cs ∧ (∀ c ∈ ds, isAsciiDigit c) ∧ digitLimit < ds.length := by
  fun_induction tokens cs with
  | case1 cs hend => cases h
  | case2 cs c rest hstart hscan => simp at h
  | case3 cs c rest hstart token after hscan _ ih =>
    have hrest : c :: rest <:+ cs := hstart ▸ List.dropWhile_suffix _
    obtain ⟨hafter, hlong⟩ := scanToken?_eq hscan
    rcases List.mem_cons.1 h with htoken | hmem
    · obtain ⟨ds, hds, hdigits⟩ := hlong htoken.symm
      exact ⟨ds, hds.trans hrest.isInfix, hdigits⟩
    · obtain ⟨ds, hds, hdigits⟩ := ih hmem
      exact ⟨ds, hds.trans (hafter.trans hrest).isInfix, hdigits⟩
  | case4 cs c rest hstart token after hscan _ => simp at h

/-- Only a text with that many digits in a row makes the reader stop. -/
theorem StopsAtLongInt.exists_digits {text : List Char} (h : StopsAtLongInt text) :
    ∃ ds, ds <:+: text ∧ (∀ c ∈ ds, isAsciiDigit c) ∧ digitLimit < ds.length := by
  obtain ⟨before, after, state, htokens, -, -⟩ := h
  exact exists_digits_of_longInt_mem (by simp [htokens])

end SymbolStyle.Json

import SymbolStyle.Proofs.Style.Compilation
import SymbolStyle.Style.Variables

/-! # Variables change without recompiling

    A style that was compiled once stays compiled, whatever becomes of its
    variables afterwards.

    * One step: a change to the variables touches no other entry of the style,
      and it is refused exactly if there is nothing to be changed.
    * A whole run, by induction: the symbol and the filter are those of the
      style at the start.
    * `Style.compile_attemptAll`: after any run, compiling afresh gives what
      compiling at the start gave, and the uniforms of either read the current
      values of the variables.
-/

namespace SymbolStyle

open Value

namespace Entries

variable {α : Type}

/-- Other names keep their values when the entry of a name is removed. -/
theorem lookup_remove_of_ne {name other : String} (entries : Entries α) (h : other ≠ name) :
    (remove name entries).lookup other = entries.lookup other := by
  induction entries with
  | nil => rfl
  | cons entry rest ih =>
    obtain ⟨k, v⟩ := entry
    unfold remove at *
    by_cases hk : k = name
    · have hne : (other == k) = false := by
        rw [hk]
        exact beq_false_of_ne h
      rw [List.filter_cons_of_neg (by simp [hk]), ih, List.lookup_cons, hne]
    · rw [List.filter_cons_of_pos (by simp [hk]), List.lookup_cons, List.lookup_cons, ih]

end Entries

/-! ## One step -/

namespace VariableUpdate

/-- The one variable that the change concerns, unless it concerns all. -/
def concerned? : VariableUpdate → Option String
  | .assign name _ => some name
  | .delete name => some name
  | .replace _ => none
  | .discard => none

/-- Why the change is refused: only an object has variables to be changed one
    by one, and only one that exists can be deleted. -/
inductive Refused (style : Value) : VariableUpdate → UpdateError → Prop where
  | noVariables {change : VariableUpdate} {name : String} (h : change.concerned? = some name)
      (hstyle : style.get? "variables" = none) : Refused style change .noVariables
  | notAnObject {change : VariableUpdate} {name : String} {vars : Value}
      (h : change.concerned? = some name) (hstyle : style.get? "variables" = some vars)
      (hvars : vars.entries? = none) : Refused style change .notAnObject
  | unknownVariable {name : String} {vars : Entries Value}
      (hstyle : style.get? "variables" = some (.object vars)) (h : vars.lookup name = none) :
      Refused style (.delete name) .unknownVariable

end VariableUpdate

namespace Style

theorem variablesOfStyle_eq_error_of_none {style : Value} (h : style.get? "variables" = none) :
    variablesOfStyle style = .error .noVariables := by
  unfold variablesOfStyle
  rw [h]

theorem variablesOfStyle_eq_error_of_some {style vars : Value}
    (h : style.get? "variables" = some vars) (hvars : vars.entries? = none) :
    variablesOfStyle style = .error .notAnObject := by
  unfold variablesOfStyle
  rw [h]
  cases vars with
  | object entries => simp [entries?] at hvars
  | _ => rfl

theorem variablesOfStyle_eq_ok {style : Value} {vars : Entries Value}
    (h : style.get? "variables" = some (.object vars)) : variablesOfStyle style = .ok vars := by
  unfold variablesOfStyle
  rw [h]

/-- A style has no variables, something else in their place, or an object of
    them. -/
theorem variables_cases (style : Value) :
    style.get? "variables" = none ∨
    (∃ vars, style.get? "variables" = some vars ∧ vars.entries? = none) ∨
    ∃ vars, style.get? "variables" = some (.object vars) := by
  cases h : style.get? "variables" with
  | none => exact .inl rfl
  | some vars =>
    cases vars with
    | object entries => exact .inr (.inr ⟨entries, rfl⟩)
    | _ => exact .inr (.inl ⟨_, rfl, rfl⟩)

/-- A change is refused exactly for the reasons that there are. -/
theorem update_eq_error_iff {style : Value} {change : VariableUpdate} {e : UpdateError} :
    update style change = .error e ↔ change.Refused style e := by
  constructor
  · intro h
    cases change with
    | assign name v =>
      unfold update at h
      rcases variables_cases style with hstyle | ⟨vars, hstyle, hvars⟩ | ⟨vars, hstyle⟩
      · rw [variablesOfStyle_eq_error_of_none hstyle] at h
        obtain rfl := Except.error.inj h
        exact .noVariables rfl hstyle
      · rw [variablesOfStyle_eq_error_of_some hstyle hvars] at h
        obtain rfl := Except.error.inj h
        exact .notAnObject rfl hstyle hvars
      · rw [variablesOfStyle_eq_ok hstyle] at h
        exact absurd h (by simp [bind, Except.bind, pure, Except.pure])
    | delete name =>
      unfold update at h
      rcases variables_cases style with hstyle | ⟨vars, hstyle, hvars⟩ | ⟨vars, hstyle⟩
      · rw [variablesOfStyle_eq_error_of_none hstyle] at h
        obtain rfl := Except.error.inj h
        exact .noVariables rfl hstyle
      · rw [variablesOfStyle_eq_error_of_some hstyle hvars] at h
        obtain rfl := Except.error.inj h
        exact .notAnObject rfl hstyle hvars
      · rw [variablesOfStyle_eq_ok hstyle] at h
        cases hlookup : vars.lookup name with
        | none =>
          simp only [bind, Except.bind, hlookup, Option.isSome_none, Bool.false_eq_true, if_false,
            Except.error.injEq] at h
          subst h
          exact .unknownVariable hstyle hlookup
        | some v => exact absurd h (by simp [bind, Except.bind, hlookup, pure, Except.pure])
    | replace vars => exact absurd h (by simp [update])
    | discard =>
      cases style with
      | object entries => exact absurd h (by simp [update])
      | _ => exact absurd h (by simp [update])
  · intro h
    cases h with
    | noVariables hname hstyle =>
      have herror := variablesOfStyle_eq_error_of_none hstyle
      cases change with
      | assign name v => simp [update, herror, bind, Except.bind]
      | delete name => simp [update, herror, bind, Except.bind]
      | _ => simp [VariableUpdate.concerned?] at hname
    | notAnObject hname hstyle hvars =>
      have herror := variablesOfStyle_eq_error_of_some hstyle hvars
      cases change with
      | assign name v => simp [update, herror, bind, Except.bind]
      | delete name => simp [update, herror, bind, Except.bind]
      | _ => simp [VariableUpdate.concerned?] at hname
    | unknownVariable hstyle hlookup =>
      have hvars := variablesOfStyle_eq_ok hstyle
      simp [update, hvars, hlookup, bind, Except.bind]

theorem get?_withVariables {style vars : Value} {name : String} (h : name ≠ "variables") :
    (withVariables style vars).get? name = style.get? name := by
  cases style with
  | object entries =>
    show (Entries.put "variables" vars entries).lookup name = entries.lookup name
    exact Entries.lookup_put_of_ne vars entries h
  | _ => rfl

/-- A change to the variables touches no other entry of the style. -/
theorem get?_update {style after : Value} {change : VariableUpdate}
    (hupdate : update style change = .ok after) {name : String} (h : name ≠ "variables") :
    after.get? name = style.get? name := by
  -- All changes but the last put something in the place of the variables.
  have hput : ∀ vars, .ok (withVariables style vars) = Except.ok (ε := UpdateError) after →
      after.get? name = style.get? name := by
    intro vars heq
    obtain rfl := Except.ok.inj heq
    exact get?_withVariables h
  cases change with
  | assign variableName v =>
    unfold update at hupdate
    cases hvars : variablesOfStyle style with
    | error e => simp [hvars, bind, Except.bind] at hupdate
    | ok vars =>
      rw [hvars] at hupdate
      exact hput _ hupdate
  | delete variableName =>
    unfold update at hupdate
    cases hvars : variablesOfStyle style with
    | error e => simp [hvars, bind, Except.bind] at hupdate
    | ok vars =>
      by_cases hmem : (vars.lookup variableName).isSome
      · simp only [hvars, hmem, if_true, bind, Except.bind, pure, Except.pure] at hupdate
        exact hput _ hupdate
      · simp [hvars, hmem, bind, Except.bind] at hupdate
  | replace vars => exact hput vars hupdate
  | discard =>
    cases style with
    | object entries =>
      obtain rfl := Except.ok.inj hupdate
      show (Entries.remove "variables" entries).lookup name = entries.lookup name
      exact Entries.lookup_remove_of_ne entries h
    | _ =>
      obtain rfl := Except.ok.inj hupdate
      rfl

theorem attempt_of_ok {style after : Value} {change : VariableUpdate}
    (h : update style change = .ok after) : attempt style change = after := by
  unfold attempt
  rw [h]

/-- A change that is refused leaves the style as it is. -/
theorem attempt_of_error {style : Value} {change : VariableUpdate} {e : UpdateError}
    (h : update style change = .error e) : attempt style change = style := by
  unfold attempt
  rw [h]

/-- Trying to change the variables touches no other entry of the style. -/
theorem get?_attempt (style : Value) (change : VariableUpdate) {name : String}
    (h : name ≠ "variables") : (attempt style change).get? name = style.get? name := by
  cases hupdate : update style change with
  | ok after =>
    rw [attempt_of_ok hupdate]
    exact get?_update hupdate h
  | error e => rw [attempt_of_error hupdate]

/-! ## Runs -/

/-- The style after several changes to its variables were tried in turn. -/
def attemptAll (style : Value) (changes : List VariableUpdate) : Value :=
  changes.foldl attempt style

theorem attemptAll_concat (style : Value) (changes : List VariableUpdate)
    (change : VariableUpdate) :
    attemptAll style (changes ++ [change]) = attempt (attemptAll style changes) change := by
  simp [attemptAll, List.foldl_append]

theorem get?_attemptAll (style : Value) (changes : List VariableUpdate) {name : String}
    (h : name ≠ "variables") : (attemptAll style changes).get? name = style.get? name := by
  -- The induction is on the run, and each step starts from another style.
  induction changes generalizing style with
  | nil => rfl
  | cons change changes ih =>
    show (attemptAll (attempt style change) changes).get? name = style.get? name
    rw [ih, get?_attempt style change h]

/-- The result of compiling does not change in a run of changes to the
    variables. -/
theorem compile_result_attemptAll (style : Value) (changes : List VariableUpdate) :
    (compile (attemptAll style changes)).result = (compile style).result := by
  apply compile_result_congr
  · exact get?_attemptAll style changes (by decide)
  · exact get?_attemptAll style changes (by decide)

/-! ## Reading the variables -/

/-- A uniform that is bound to a variable bears its name. -/
theorem eq_of_mem_uniformsOf {fields : Fields} {texture : Option String} {uniform name : String}
    (h : (uniform, Binding.variable name) ∈ uniformsOf fields texture) :
    uniform = Glsl.variableStem ++ name := by
  have hvars : (uniform, Binding.variable name) ∈ (variablesOf (allExpressions fields)).map
      (fun name => (Glsl.variableStem ++ name, Binding.variable name)) := by
    unfold uniformsOf at h
    cases texture with
    | none => exact h
    | some source =>
      rcases Entries.mem_of_mem_put h with heq | hmem
      · -- The texture is bound to no variable.
        simp at heq
      · exact hmem
  simp only [List.mem_map, Prod.mk.injEq, Binding.variable.injEq] at hvars
  obtain ⟨other, -, rfl, rfl⟩ := hvars
  rfl

theorem variableValue_of_lookup {style v : Value} {vars : Entries Value} {name : String}
    (hstyle : style.get? "variables" = some (.object vars)) (h : vars.lookup name = some v) :
    variableValue style name = v := by
  unfold variableValue
  rw [hstyle]
  show (vars.lookup name).getD (.int 0) = v
  rw [h]
  rfl

theorem variableValue_of_not_lookup {style : Value} {name : String}
    (h : ∀ vars v, style.get? "variables" = some (.object vars) → vars.lookup name ≠ some v) :
    variableValue style name = .int 0 := by
  unfold variableValue
  rcases variables_cases style with hstyle | ⟨vars, hstyle, hvars⟩ | ⟨vars, hstyle⟩
  · rw [hstyle]
    rfl
  · rw [hstyle]
    show (vars.get? name).getD (.int 0) = .int 0
    unfold get?
    rw [hvars]
    rfl
  · rw [hstyle]
    show (vars.lookup name).getD (.int 0) = .int 0
    cases hlookup : vars.lookup name with
    | none => rfl
    | some v => exact absurd hlookup (h vars v hstyle)

/-- Changing the variables of a compiled style is as good as compiling it
    afresh. After any run of changes, a further change that is refused leaves
    the style as it is; compiling the style afresh succeeds with the same
    program and the same attributes, and what its uniforms read is what those
    of the style that was compiled at the start read. A uniform of a variable
    reads the value that the style gives to the variable now, and zero if it
    gives none. -/
theorem compile_attemptAll {style : Value} {compiled : CompiledStyle}
    (h : (compile style).result = .ok compiled) (changes : List VariableUpdate) :
    (∀ change e, (update (attemptAll style changes) change = .error e ↔
        change.Refused (attemptAll style changes) e) ∧
      (change.Refused (attemptAll style changes) e →
        attemptAll style (changes ++ [change]) = attemptAll style changes)) ∧
    (∃ fresh, (compile (attemptAll style changes)).result = .ok fresh ∧
      fresh.program = compiled.program ∧ fresh.attributes = compiled.attributes ∧
      readUniforms (attemptAll style changes) fresh.uniforms
        = readUniforms (attemptAll style changes) compiled.uniforms) ∧
    (∀ uniform name, (uniform, .variable name) ∈ compiled.uniforms →
      uniform = Glsl.variableStem ++ name ∧
      (∀ vars v, (attemptAll style changes).get? "variables" = some (.object vars) →
        vars.lookup name = some v →
        readBinding (attemptAll style changes) (.variable name) = .value v) ∧
      ((∀ vars v, (attemptAll style changes).get? "variables" = some (.object vars) →
          vars.lookup name ≠ some v) →
        readBinding (attemptAll style changes) (.variable name) = .value (.int 0))) := by
  refine ⟨?_, ?_, ?_⟩
  · intro change e
    refine ⟨update_eq_error_iff, ?_⟩
    intro hrefused
    rw [attemptAll_concat]
    exact attempt_of_error (update_eq_error_iff.2 hrefused)
  · refine ⟨compiled, ?_, rfl, rfl, rfl⟩
    rw [compile_result_attemptAll, h]
  · intro uniform name hmem
    obtain ⟨c⟩ := exists_compilation h
    rw [c.uniforms_eq] at hmem
    refine ⟨eq_of_mem_uniformsOf hmem, ?_, ?_⟩
    · intro vars v hstyle hlookup
      show UniformValue.value _ = _
      rw [variableValue_of_lookup hstyle hlookup]
    · intro hnone
      show UniformValue.value _ = _
      rw [variableValue_of_not_lookup hnone]

/-- A style whose symbol is as large as a variable says. -/
def scaledSquare : Value :=
  .object [
    ("symbol", .object [("symbolType", .string "square"),
      ("size", .sequence .list [.string "var", .string "scale"])]),
    ("variables", .object [("scale", .int 2)])]

/-- The variables are replaced by null, which holds none, so giving one a value
    is refused and the symbol has no size. -/
theorem scaledSquare_attemptAll :
    ∃ compiled fresh, (compile scaledSquare).result = .ok compiled ∧
      ("u_scale", .variable "scale") ∈ compiled.uniforms ∧
      update (attemptAll scaledSquare [.replace .null]) (.assign "scale" (.int 5))
        = .error .notAnObject ∧
      attemptAll scaledSquare [.replace .null, .assign "scale" (.int 5)]
        = attemptAll scaledSquare [.replace .null] ∧
      (compile (attemptAll scaledSquare [.replace .null])).result = .ok fresh ∧
      fresh.program = compiled.program ∧
      readBinding (attemptAll scaledSquare [.replace .null]) (.variable "scale")
        = .value (.int 0) := by
  have huniforms : (compile scaledSquare).result.toOption.map CompiledStyle.uniforms
      = some [("u_scale", .variable "scale")] := by decide +kernel
  cases hcompile : (compile scaledSquare).result with
  | error e => simp [hcompile, Except.toOption] at huniforms
  | ok compiled =>
    obtain huniforms : compiled.uniforms = [("u_scale", .variable "scale")] := by
      simpa [hcompile, Except.toOption] using huniforms
    have hmem : ("u_scale", Binding.variable "scale") ∈ compiled.uniforms := by simp [huniforms]
    obtain ⟨hrefused, ⟨fresh, hfresh, hprogram, -, -⟩, hvariable⟩ :=
      compile_attemptAll hcompile [.replace .null]
    obtain ⟨hiff, hsame⟩ := hrefused (.assign "scale" (.int 5)) .notAnObject
    have hnull : (attemptAll scaledSquare [.replace .null]).get? "variables" = some .null := rfl
    have hreason : (VariableUpdate.assign "scale" (.int 5)).Refused
        (attemptAll scaledSquare [.replace .null]) .notAnObject := .notAnObject rfl hnull rfl
    obtain ⟨-, -, hzero⟩ := hvariable "u_scale" "scale" hmem
    refine ⟨compiled, fresh, rfl, hmem, hiff.2 hreason, hsame hreason, hfresh, hprogram, ?_⟩
    apply hzero
    intro vars v hvars
    simp [hnull] at hvars

end Style

end SymbolStyle

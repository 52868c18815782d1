import SymbolStyle.Style

/-! # Variables of a style

    The variables of a style can change after it was compiled. A uniform is
    bound to the name of a variable, so what it reads follows the style.

    * `Style.readUniforms` looks up the current values.
    * `Style.update` changes the variables of a style, or says why that is not
      possible; `Style.attempt` then leaves the style as it is.
-/

namespace SymbolStyle

/-- What a uniform reads. -/
inductive UniformValue where
  /-- The value of a variable. -/
  | value (v : Value)
  /-- The image at a place. -/
  | texture (source : String)

/-- A change to the variables of a style. -/
inductive VariableUpdate where
  /-- Gives a variable a value. -/
  | assign (name : String) (v : Value)
  /-- Removes a variable. -/
  | delete (name : String)
  /-- Replaces all variables. -/
  | replace (vars : Value)
  /-- Removes the variables altogether. -/
  | discard

/-- Why variables are not changed. -/
inductive UpdateError where
  /-- The style has no variables. -/
  | noVariables
  /-- The variable to be removed does not exist. -/
  | unknownVariable
  /-- The variables are no object. -/
  | notAnObject
  deriving DecidableEq

namespace Style

/-- The current value of a variable: zero if the style does not give it
    one. -/
def variableValue (style : Value) (name : String) : Value :=
  ((style.get? "variables").bind (·.get? name)).getD (.int 0)

/-- What a uniform currently reads. -/
def readBinding (style : Value) : Binding → UniformValue
  | .variable name => .value (variableValue style name)
  | .texture source => .texture source

/-- What the uniforms of a compiled style currently read. -/
def readUniforms (style : Value) (uniforms : Entries Binding) : Entries UniformValue :=
  uniforms.map fun (name, binding) => (name, readBinding style binding)

/-- The variables of a style, if they can be changed one by one. -/
def variablesOfStyle (style : Value) : Except UpdateError (Entries Value) :=
  match style.get? "variables" with
  | none => .error .noVariables
  | some (.object vars) => .ok vars
  | some _ => .error .notAnObject

/-- A style with other variables. -/
def withVariables (style vars : Value) : Value :=
  match style with
  | .object entries => .object (Entries.put "variables" vars entries)
  | other => other

/-- The style after a change to its variables. -/
def update (style : Value) : VariableUpdate → Except UpdateError Value
  | .assign name v => do
    let vars ← variablesOfStyle style
    return withVariables style (.object (Entries.put name v vars))
  | .delete name => do
    let vars ← variablesOfStyle style
    if (vars.lookup name).isSome then
      return withVariables style (.object (Entries.remove name vars))
    else .error .unknownVariable
  | .replace vars => .ok (withVariables style vars)
  | .discard =>
    match style with
    | .object entries => .ok (.object (Entries.remove "variables" entries))
    | other => .ok other

/-- The style after a change to its variables was tried. -/
def attempt (style : Value) (change : VariableUpdate) : Value :=
  match update style change with
  | .ok after => after
  | .error _ => style

end Style

end SymbolStyle

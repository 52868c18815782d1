import SymbolStyle.Operator
import SymbolStyle.Value

/-! # Names that an expression reads

    Which attributes and variables an expression reads, in the order in which
    they are registered: operands from left to right, except that the first
    operand of `stretch` and of `interpolate` comes after the others.

    `Names` are those that the code of a shader has read so far, each once.
-/

namespace SymbolStyle

/-- One reading of an input. -/
inductive Reading where
  /-- A property of the feature that is drawn. -/
  | attribute (name : String)
  /-- A variable of the style. -/
  | variable (name : String)
  deriving DecidableEq

namespace Reading

/-- The names of the attributes that are read. -/
def attributeNames (readings : List Reading) : List String :=
  readings.filterMap fun
    | .attribute name => some name
    | .variable _ => none

/-- The names of the variables that are read. -/
def variableNames (readings : List Reading) : List String :=
  readings.filterMap fun
    | .variable name => some name
    | .attribute _ => none

end Reading

namespace Operator

/-- Whether the first operand comes after the others. -/
def postponesFirst : Operator → Bool
  | .stretch | .interpolate => true
  | _ => false

/-- Puts the readings of operands into the order in which the operator
    registers them. -/
def arrange (op : Operator) (readings : List (List Reading)) : List Reading :=
  if op.postponesFirst then (readings.drop 1 ++ readings.take 1).flatten else readings.flatten

end Operator

namespace Value

mutual

/-- The readings of an expression, repetitions included. -/
def readings : Value → List Reading
  | .sequence _ (.string tag :: operands) =>
    match Operator.ofTag? tag, operands with
    | some .get, [.string name] => [.attribute name]
    | some .var, [.string name] => [.variable name]
    | some op, operands => op.arrange (readingsOfAll operands)
    | none, _ => []
  | _ => []

/-- The readings of each of several expressions. -/
def readingsOfAll : List Value → List (List Reading)
  | [] => []
  | v :: vs => readings v :: readingsOfAll vs

end

end Value

/-- Adds the names that are not yet in a list at its end, each once. -/
def register (known names : List String) : List String :=
  names.foldl (fun known name => if name ∈ known then known else known ++ [name]) known

theorem register_nil (known : List String) : register known [] = known := rfl

theorem register_append (known first second : List String) :
    register known (first ++ second) = register (register known first) second := by
  simp [register, List.foldl_append]

theorem mem_register {name : String} {known names : List String} :
    name ∈ register known names ↔ name ∈ known ∨ name ∈ names := by
  induction names generalizing known with
  | nil => simp [register]
  | cons n names ih =>
    have step : register known (n :: names)
        = register (if n ∈ known then known else known ++ [n]) names := rfl
    rw [step, ih]
    by_cases h : n ∈ known
    · simp only [h, if_true, List.mem_cons]
      constructor
      · rintro (hk | hn)
        · exact Or.inl hk
        · exact Or.inr (Or.inr hn)
      · rintro (hk | rfl | hn)
        · exact Or.inl hk
        · exact Or.inl h
        · exact Or.inr hn
    · simp only [h, if_false, List.mem_append, List.mem_cons, List.not_mem_nil, or_false]
      exact or_assoc

/-- The names that the code of a shader has read so far. -/
structure Names where
  /-- Attributes, without a stem. -/
  attributeNames : List String
  /-- Variables, without a stem. -/
  variableNames : List String

namespace Names

/-- No names. -/
def empty : Names := ⟨[], []⟩

/-- Registers readings. -/
def add (names : Names) (readings : List Reading) : Names :=
  ⟨register names.attributeNames (Reading.attributeNames readings),
    register names.variableNames (Reading.variableNames readings)⟩

/-- Takes over what was found beyond the names that are known. What was found
    starts with the known names, so their number tells where the new ones
    begin. -/
def extend (known found : Names) : Names :=
  ⟨known.attributeNames ++ found.attributeNames.drop known.attributeNames.length,
    known.variableNames ++ found.variableNames.drop known.variableNames.length⟩

end Names

end SymbolStyle

import SymbolStyle.Number.Double

/-! # Values of a style document

    Style documents are trees of dynamic values: a style is an object, and its
    expressions are numbers, texts and sequences nested in it.

    * Sequences come as lists and as tuples. Nothing in the library treats
      the two differently except the texts in which a value is written.
    * An object keeps its entries in the order in which they were added, one
      per name.
    * Truth values are not numbers.
-/

namespace SymbolStyle

/-- The two forms of a sequence. -/
inductive SequenceForm where
  /-- A list, as every sequence of a document is one. -/
  | list
  /-- A tuple, which only values built in a program contain. -/
  | tuple
  deriving DecidableEq

/-- A dynamic value. -/
inductive Value where
  /-- The absent value. -/
  | null
  /-- A truth value. -/
  | bool (b : Bool)
  /-- A whole number of any size. -/
  | int (n : Int)
  /-- A double-precision number. -/
  | float (x : Double)
  /-- A text. -/
  | string (s : String)
  /-- Raw bytes, which no document contains. -/
  | bytes (bs : List UInt8)
  /-- A list or a tuple. -/
  | sequence (form : SequenceForm) (items : List Value)
  /-- Named entries, in order. -/
  | object (entries : List (String × Value))
  deriving Inhabited

/-- Named entries in the order in which they were added. -/
abbrev Entries (α : Type) := List (String × α)

namespace Entries

variable {α : Type}

/-- Gives a name a new value: in the place of its old one, or else at the
    end. -/
def put (name : String) (v : α) : Entries α → Entries α
  | [] => [(name, v)]
  | (k, old) :: rest => if k = name then (k, v) :: rest else (k, old) :: put name v rest

/-- Removes the entry of a name. -/
def remove (name : String) (entries : Entries α) : Entries α :=
  entries.filter fun entry => entry.1 ≠ name

/-- The entries of pairs, of which a later one replaces an earlier one of the
    same name. -/
def ofPairs (pairs : List (String × α)) : Entries α :=
  pairs.foldl (fun entries (name, v) => put name v entries) []

theorem lookup_put (name : String) (v : α) (entries : Entries α) :
    (put name v entries).lookup name = some v := by
  induction entries with
  | nil => simp [put]
  | cons entry rest ih =>
    obtain ⟨k, old⟩ := entry
    by_cases h : k = name
    · simp [put, h]
    · have hne : (name == k) = false := by simp [Ne.symm h]
      simp [put, h, List.lookup_cons, hne, ih]

/-- Other names keep their values when a name gets a new one. -/
theorem lookup_put_of_ne {name other : String} (v : α) (entries : Entries α)
    (h : other ≠ name) : (put name v entries).lookup other = entries.lookup other := by
  have hne : (other == name) = false := by simp [h]
  induction entries with
  | nil => simp [put, List.lookup_cons, hne]
  | cons entry rest ih =>
    obtain ⟨k, old⟩ := entry
    by_cases hk : k = name
    · simp [put, hk, List.lookup_cons, hne]
    · simp only [put, hk, if_false, List.lookup_cons]
      rw [ih]

/-- A name that already has an entry keeps its place; a new one comes last. -/
theorem names_put (name : String) (v : α) (entries : Entries α) :
    (put name v entries).map Prod.fst
      = if name ∈ entries.map Prod.fst then entries.map Prod.fst
        else entries.map Prod.fst ++ [name] := by
  induction entries with
  | nil => simp [put]
  | cons entry rest ih =>
    obtain ⟨k, old⟩ := entry
    by_cases hk : k = name
    · simp [put, hk]
    · have hnk : name ≠ k := Ne.symm hk
      simp only [put, hk, if_false, List.map_cons, ih, List.mem_cons, hnk, false_or]
      split <;> rfl

/-- A new name comes last. -/
theorem put_of_not_mem {name : String} (v : α) {entries : Entries α}
    (h : name ∉ entries.map Prod.fst) : put name v entries = entries ++ [(name, v)] := by
  induction entries with
  | nil => rfl
  | cons entry rest ih =>
    obtain ⟨k, old⟩ := entry
    rw [List.map_cons, List.mem_cons, not_or] at h
    have hk : k ≠ name := fun heq => h.1 heq.symm
    simp only [put, if_neg hk, ih h.2, List.cons_append]

/-- Putting an entry adds no other one. -/
theorem mem_of_mem_put {name : String} {v : α} {entries : Entries α} {entry : String × α}
    (h : entry ∈ put name v entries) : entry = (name, v) ∨ entry ∈ entries := by
  induction entries with
  | nil => simpa [put] using h
  | cons first rest ih =>
    obtain ⟨k, old⟩ := first
    by_cases hk : k = name
    · simp only [put, hk, if_true, List.mem_cons] at h
      rcases h with h | h
      · exact .inl h
      · exact .inr (List.mem_cons_of_mem _ h)
    · simp only [put, hk, if_false, List.mem_cons] at h
      rcases h with rfl | h
      · exact .inr List.mem_cons_self
      · rcases ih h with h | h
        · exact .inl h
        · exact .inr (List.mem_cons_of_mem _ h)

theorem lookup_remove (name : String) (entries : Entries α) :
    (remove name entries).lookup name = none := by
  induction entries with
  | nil => rfl
  | cons entry rest ih =>
    obtain ⟨k, old⟩ := entry
    by_cases h : k = name
    · simpa [remove, h] using ih
    · have hne : (name == k) = false := by simp [Ne.symm h]
      simpa [remove, h, List.lookup_cons, hne] using ih

end Entries

namespace Value

/-- Whether the value is a number, whole or not. -/
def isNumber : Value → Bool
  | .int _ => true
  | .float _ => true
  | _ => false

/-- The double that a number stands for. A whole number beyond the range of
    doubles becomes infinite. -/
def number? : Value → Option Double
  | .int n => some (.ofInt n)
  | .float x => some x
  | _ => none

/-- The items of a list or tuple. -/
def items? : Value → Option (List Value)
  | .sequence _ items => some items
  | _ => none

/-- The entries of an object. -/
def entries? : Value → Option (Entries Value)
  | .object entries => some entries
  | _ => none

/-- The entry of a name in an object. -/
def get? (v : Value) (name : String) : Option Value :=
  v.entries?.bind (·.lookup name)

/-- Whether a value says nothing: null, false, a zero, an empty text and an
    empty collection do. An optional field that holds such a value counts as
    left out. -/
def isVacant : Value → Bool
  | .null => true
  | .bool b => !b
  | .int n => n == 0
  | .float x => x.isZero
  | .string s => s.isEmpty
  | .bytes bs => bs.isEmpty
  | .sequence _ items => items.isEmpty
  | .object entries => entries.isEmpty

/-- The value, unless it is vacant. -/
def given? (v : Value) : Option Value := if v.isVacant then none else some v

theorem isNumber_eq_isSome_number? (v : Value) : v.isNumber = v.number?.isSome := by
  cases v <;> rfl

end Value

end SymbolStyle

import SymbolStyle.Proofs.Glsl.Rendering

/-! # Identifiers in texts

    Which names stand in a text of the shading language, whatever else it
    is made of.

    * A name is a longest run of letters, digits and underscores that does not
      start with a digit. Any other character separates names, so a text that
      is put together at such characters holds the names of its parts, in
      order.
    * The inputs of a symbol are the names behind one of three stems. All other
      names are those of the language, or local to a shader.
-/

namespace SymbolStyle.Glsl

/-- Whether a run of characters starts as a name does. -/
def startsName (run : List Char) : Bool := run.head?.any (!·.isDigit)

/-- The names in a text, in order. -/
def identifiers (text : List Char) : List String :=
  ((text.splitOnP (!isNameChar ·)).filter startsName).map String.ofList

/-! ## Composed texts -/

/-- What holds of the character at a border, if there is one, is decided by
    that character, not by a search through all of them. -/
instance decidableAtBorder {p : Char → Prop} [DecidablePred p] :
    (border : Option Char) → Decidable (∀ c ∈ border, p c)
  | none => isTrue (by simp)
  | some c => decidable_of_iff (p c) (by simp)

@[simp] theorem identifiers_nil : identifiers [] = [] := rfl

/-- A character that belongs to no name separates the names before it from
    those after it. -/
theorem identifiers_separated {s : Char} (hs : isNameChar s = false) (xs ys : List Char) :
    identifiers (xs ++ s :: ys) = identifiers xs ++ identifiers ys := by
  have hsplit : (xs ++ s :: ys).splitOnP (!isNameChar ·)
      = xs.splitOnP (!isNameChar ·) ++ ys.splitOnP (!isNameChar ·) := by
    apply List.splitOnP_append_cons
    simp [hs]
  unfold identifiers
  rw [hsplit, List.filter_append, List.map_append]

/-- Separators at the start of a text hold no names. -/
theorem identifiers_separator_cons {s : Char} (hs : isNameChar s = false) (ys : List Char) :
    identifiers (s :: ys) = identifiers ys := by
  simpa using identifiers_separated hs [] ys

/-- Names do not reach beyond a text that ends in a separator. -/
theorem identifiers_append_of_getLast? {xs : List Char}
    (h : ∀ c ∈ xs.getLast?, isNameChar c = false) (ys : List Char) :
    identifiers (xs ++ ys) = identifiers xs ++ identifiers ys := by
  rcases List.eq_nil_or_concat xs with rfl | ⟨xs, s, rfl⟩
  · rfl
  · have hs : isNameChar s = false := h s (by simp)
    have hleft : identifiers (xs ++ [s]) = identifiers xs := by
      simpa using identifiers_separated hs xs []
    rw [List.concat_eq_append, hleft, List.append_assoc, List.singleton_append]
    exact identifiers_separated hs xs ys

/-- Names do not reach into a text that starts with a separator. -/
theorem identifiers_append_of_head? {ys : List Char}
    (h : ∀ d ∈ ys.head?, isNameChar d = false) (xs : List Char) :
    identifiers (xs ++ ys) = identifiers xs ++ identifiers ys := by
  cases ys with
  | nil => simp
  | cons s ys =>
    have hs : isNameChar s = false := h s rfl
    rw [identifiers_separated hs, identifiers_separator_cons hs]

/-- Names do not reach across a text that starts and ends with separators. -/
theorem identifiers_append_append {between : List Char} (hne : between ≠ [])
    (hstart : ∀ d ∈ between.head?, isNameChar d = false)
    (hend : ∀ c ∈ between.getLast?, isNameChar c = false) (xs ys : List Char) :
    identifiers (xs ++ between ++ ys)
      = identifiers xs ++ identifiers between ++ identifiers ys := by
  have hlast : ∀ c ∈ (xs ++ between).getLast?, isNameChar c = false := by
    intro c hc
    rw [List.getLast?_append_of_ne_nil _ hne] at hc
    exact hend c hc
  rw [identifiers_append_of_getLast? hlast, identifiers_append_of_head? hstart]

/-- Texts with separators between them hold the names of all of them. -/
theorem identifiers_intercalate {s : Char} {between : List Char} (hs : isNameChar s = false)
    (hbetween : ∀ c ∈ between, isNameChar c = false) (xs : List (List Char)) :
    identifiers ((s :: between).intercalate xs) = xs.flatMap identifiers := by
  have hskip : ∀ ys, identifiers (between ++ ys) = identifiers ys := by
    intro ys
    induction between with
    | nil => rfl
    | cons c between ih =>
      have hc : isNameChar c = false := hbetween c (by simp)
      rw [List.cons_append, identifiers_separator_cons hc]
      exact ih fun d hd => hbetween d (List.mem_cons_of_mem _ hd)
  induction xs with
  | nil => rfl
  | cons x xs ih =>
    cases xs with
    | nil => simp
    | cons y xs =>
      rw [List.intercalate_cons_cons, List.append_assoc, List.cons_append,
        identifiers_separated hs, hskip, ih]
      rfl

/-! ## Names and numbers -/

/-- A run of letters, digits and underscores that starts with no digit is one
    name. -/
theorem identifiers_name {c : Char} {name : List Char} (hdigit : c.isDigit = false)
    (hname : ∀ d ∈ c :: name, isNameChar d) :
    identifiers (c :: name) = [String.ofList (c :: name)] := by
  have hsplit : (c :: name).splitOnP (!isNameChar ·) = [c :: name] := by
    apply List.splitOnP_eq_singleton
    intro d hd
    simp [hname d hd]
  unfold identifiers
  rw [hsplit]
  simp [startsName, hdigit]

/-- Digits alone are no name. -/
theorem identifiers_digits {run : List Char} (h : ∀ c ∈ run, c.isDigit) : identifiers run = [] := by
  have hsplit : run.splitOnP (!isNameChar ·) = [run] := by
    apply List.splitOnP_eq_singleton
    intro c hc
    simp [isNameChar, Char.isAlphanum, h c hc]
  unfold identifiers
  rw [hsplit]
  cases run with
  | nil => rfl
  | cons c run => simp [startsName, h c (by simp)]

/-- The text of a literal holds no names. -/
theorem identifiers_literal (l : Literal) : identifiers l.text = [] := by
  obtain ⟨whole, places, heq, -, -, hdigits⟩ :=
    exists_digits_of_positional l.magnitude.shortest
  have hwhole : identifiers whole = [] := identifiers_digits fun c hc => hdigits c (by simp [hc])
  have hplaces : identifiers places = [] := identifiers_digits fun c hc => hdigits c (by simp [hc])
  have hnumber : identifiers (whole ++ '.' :: places) = [] := by
    rw [identifiers_separated (by decide), hwhole, hplaces, List.append_nil]
  unfold Literal.text Double.signed
  rw [heq]
  split
  · rw [identifiers_separator_cons (by decide), hnumber]
  · exact hnumber

/-! ## Inputs -/

/-- Whether a name stands behind one of the stems of inputs: attributes,
    varyings and uniforms. -/
def isInput (name : String) : Bool :=
  ["a_", "v_", "u_"].any fun stem => stem.toList.isPrefixOf name.toList

/-- The names of inputs in a text, in order. -/
def inputs (text : List Char) : List String := (identifiers text).filter isInput

theorem mem_inputs {name : String} {text : List Char} :
    name ∈ inputs text ↔ name ∈ identifiers text ∧ isInput name := by
  rw [inputs, List.mem_filter]

theorem inputs_separated {s : Char} (hs : isNameChar s = false) (xs ys : List Char) :
    inputs (xs ++ s :: ys) = inputs xs ++ inputs ys := by
  unfold inputs
  rw [identifiers_separated hs, List.filter_append]

theorem inputs_append_of_getLast? {xs : List Char}
    (h : ∀ c ∈ xs.getLast?, isNameChar c = false) (ys : List Char) :
    inputs (xs ++ ys) = inputs xs ++ inputs ys := by
  unfold inputs
  rw [identifiers_append_of_getLast? h, List.filter_append]

theorem inputs_append_of_head? {ys : List Char}
    (h : ∀ d ∈ ys.head?, isNameChar d = false) (xs : List Char) :
    inputs (xs ++ ys) = inputs xs ++ inputs ys := by
  unfold inputs
  rw [identifiers_append_of_head? h, List.filter_append]

theorem inputs_append_append {between : List Char} (hne : between ≠ [])
    (hstart : ∀ d ∈ between.head?, isNameChar d = false)
    (hend : ∀ c ∈ between.getLast?, isNameChar c = false) (xs ys : List Char) :
    inputs (xs ++ between ++ ys) = inputs xs ++ inputs between ++ inputs ys := by
  unfold inputs
  rw [identifiers_append_append hne hstart hend, List.filter_append, List.filter_append]

theorem inputs_intercalate {s : Char} {between : List Char} (hs : isNameChar s = false)
    (hbetween : ∀ c ∈ between, isNameChar c = false) (xs : List (List Char)) :
    inputs ((s :: between).intercalate xs) = xs.flatMap inputs := by
  unfold inputs
  rw [identifiers_intercalate hs hbetween, List.filter_flatMap]

end SymbolStyle.Glsl

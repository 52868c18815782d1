import SymbolStyle.Proofs.Glsl.Identifier

/-! # Reading shader sources

    What the text of a shader declares, and which inputs its lines name.

    * `declarations source`: a source is read line by line; declarations stand
      above `main`, one on a line.
    * `IsReadAs`: the lines above `main` and those inside it. A source that was
      put together from lines is read as them.
    * `CodeOver holds text`: code on one line, all inputs in which have a
      property. Code that is put together at separators is such if its parts
      are.
-/

namespace SymbolStyle

namespace Glsl

/-! ## Reading sources -/

/-- How an input gets its value. -/
inductive Qualifier where
  | uniform
  | attribute
  | varying
  deriving DecidableEq

/-- The word for a qualifier. -/
def Qualifier.word : Qualifier → String
  | .uniform => "uniform"
  | .attribute => "attribute"
  | .varying => "varying"

/-- All qualifiers. -/
def Qualifier.all : List Qualifier := [.uniform, .attribute, .varying]

/-- The declaration of an input. -/
structure Declaration where
  qualifier : Qualifier
  type : String
  name : String
  deriving DecidableEq

namespace Declaration

/-- The declaration without its qualifier. -/
def bare (d : Declaration) : String := d.type ++ " " ++ d.name

/-- The line that declares an input. -/
def text (d : Declaration) : String := d.qualifier.word ++ " " ++ d.bare ++ ";"

/-- Type and name are single names of the language. -/
def IsPlain (d : Declaration) : Prop :=
  identifiers d.type.toList = [d.type] ∧ identifiers d.name.toList = [d.name]

end Declaration

/-- The declaration on a line, if there is one. -/
def declaration? (line : List Char) : Option Declaration :=
  match identifiers line with
  | [_, type, name] =>
    (Qualifier.all.map (Declaration.mk · type name)).find? (·.text.toList = line)
  | _ => none

/-- The lines of a source. -/
def lines (source : String) : List (List Char) := source.toList.splitOn '\n'

/-- The line that opens the body of `main`. -/
def mainLine : String := "void main(void) \x7b"

/-- The lines above `main`. -/
def preamble (source : String) : List (List Char) :=
  (lines source).takeWhile (· ≠ mainLine.toList)

/-- The lines inside `main`. -/
def mainBody (source : String) : List (List Char) :=
  ((lines source).dropWhile (· ≠ mainLine.toList)).drop 1

/-- What a source declares above `main`. -/
def declarations (source : String) : List Declaration := (preamble source).filterMap declaration?

/-- The names that a source declares. -/
def declaredNames (source : String) : List String := (declarations source).map Declaration.name

/-! ## What was written is read -/

theorem identifiers_declaration {d : Declaration} (h : d.IsPlain) :
    identifiers d.text.toList = [d.qualifier.word, d.type, d.name] := by
  have hword : identifiers d.qualifier.word.toList = [d.qualifier.word] := by
    cases d.qualifier <;> decide
  have hblank : identifiers " ".toList = [] := by decide
  have hend : identifiers ";".toList = [] := by decide
  unfold Declaration.text Declaration.bare
  rw [String.toList_append, String.toList_append, String.toList_append, String.toList_append,
    String.toList_append, identifiers_append_of_head? (by decide),
    identifiers_append_append (by decide) (by decide) (by decide),
    identifiers_append_append (by decide) (by decide) (by decide), hword, h.1, h.2, hblank, hend]
  rfl

/-- The line of a declaration is read as that declaration. -/
theorem declaration?_text {d : Declaration} (h : d.IsPlain) :
    declaration? d.text.toList = some d := by
  obtain ⟨qualifier, type, name⟩ := d
  unfold declaration?
  rw [identifiers_declaration h]
  -- The three qualifiers start with different letters.
  cases qualifier <;> simp [Qualifier.all, Declaration.text, Qualifier.word]

/-- The line that opens `main` declares nothing. -/
theorem declaration?_mainLine : declaration? mainLine.toList = none := by decide

theorem lines_intercalate {ls : List String} (hne : ls ≠ [])
    (h : ∀ line ∈ ls, '\n' ∉ line.toList) : lines ("\n".intercalate ls) = ls.map String.toList := by
  have hbreak : "\n".toList = ['\n'] := rfl
  unfold lines
  rw [String.toList_intercalate, hbreak]
  apply List.splitOn_intercalate
  · intro line hline
    obtain ⟨text, htext, rfl⟩ := List.mem_map.1 hline
    exact h text htext
  · simpa using hne

/-- The source is read as lines above `main` and lines inside it. -/
structure IsReadAs (source : String) (above inside : List String) : Prop where
  preamble_eq : preamble source = above.map String.toList
  mainBody_eq : mainBody source = inside.map String.toList
  lines_eq : lines source = preamble source ++ mainLine.toList :: mainBody source

/-- A source with `main` below other lines is read as these lines. -/
theorem isReadAs_intercalate {above inside : List String}
    (h : ∀ line ∈ above ++ mainLine :: inside, '\n' ∉ line.toList)
    (habove : ∀ line ∈ above, line ≠ mainLine) :
    IsReadAs ("\n".intercalate (above ++ mainLine :: inside)) above inside := by
  have hlines : lines ("\n".intercalate (above ++ mainLine :: inside))
      = above.map String.toList ++ mainLine.toList :: inside.map String.toList := by
    rw [lines_intercalate (by simp) h, List.map_append, List.map_cons]
  have hother : ∀ line ∈ above.map String.toList, decide (line ≠ mainLine.toList) := by
    intro line hline
    obtain ⟨text, htext, rfl⟩ := List.mem_map.1 hline
    simpa [String.toList_inj] using habove text htext
  have hpreamble : preamble ("\n".intercalate (above ++ mainLine :: inside))
      = above.map String.toList := by
    unfold preamble
    rw [hlines, List.takeWhile_append_of_pos hother]
    simp
  have hbody : mainBody ("\n".intercalate (above ++ mainLine :: inside))
      = inside.map String.toList := by
    unfold mainBody
    rw [hlines, List.dropWhile_append_of_pos hother]
    simp
  refine ⟨hpreamble, hbody, ?_⟩
  rw [hpreamble, hbody, hlines]

/-! ## Code over inputs -/

/-- The text stands on one line, and the inputs in it have a property. -/
structure CodeOver (holds : String → Prop) (text : List Char) : Prop where
  unbroken : '\n' ∉ text
  inputs_hold : ∀ name ∈ inputs text, holds name

namespace CodeOver

variable {holds : String → Prop} {known : List String} {xs ys between : List Char}

/-- A fixed text whose inputs are among some that are known. -/
theorem of_known (hknown : ∀ name ∈ known, holds name)
    (h : '\n' ∉ xs ∧ ∀ name ∈ inputs xs, name ∈ known) : CodeOver holds xs :=
  ⟨h.1, fun name hname => hknown name (h.2 name hname)⟩

/-- A fixed text without inputs. -/
theorem of_inputs_eq_nil (h : '\n' ∉ xs ∧ inputs xs = []) : CodeOver holds xs := by
  refine ⟨h.1, ?_⟩
  intro name hname
  rw [h.2] at hname
  cases hname

/-- One text after another, of which the first ends in a separator. -/
theorem append_of_getLast? (hxs : CodeOver holds xs)
    (hend : ∀ c ∈ xs.getLast?, isNameChar c = false) (hys : CodeOver holds ys) :
    CodeOver holds (xs ++ ys) := by
  constructor
  · rw [List.mem_append]
    rintro (hmem | hmem)
    · exact hxs.unbroken hmem
    · exact hys.unbroken hmem
  · intro name hname
    rw [inputs_append_of_getLast? hend, List.mem_append] at hname
    rcases hname with hname | hname
    · exact hxs.inputs_hold name hname
    · exact hys.inputs_hold name hname

/-- One text after another, of which the second starts with a separator. -/
theorem append_of_head? (hxs : CodeOver holds xs) (hys : CodeOver holds ys)
    (hstart : ∀ d ∈ ys.head?, isNameChar d = false) : CodeOver holds (xs ++ ys) := by
  constructor
  · rw [List.mem_append]
    rintro (hmem | hmem)
    · exact hxs.unbroken hmem
    · exact hys.unbroken hmem
  · intro name hname
    rw [inputs_append_of_head? hstart, List.mem_append] at hname
    rcases hname with hname | hname
    · exact hxs.inputs_hold name hname
    · exact hys.inputs_hold name hname

/-- Two texts with separators between them. -/
theorem join (hxs : CodeOver holds xs) (hbetween : '\n' ∉ between ∧ inputs between = [])
    (hne : between ≠ []) (hstart : ∀ d ∈ between.head?, isNameChar d = false)
    (hend : ∀ c ∈ between.getLast?, isNameChar c = false) (hys : CodeOver holds ys) :
    CodeOver holds (xs ++ between ++ ys) := by
  have hlast : ∀ c ∈ (xs ++ between).getLast?, isNameChar c = false := by
    intro c hc
    rw [List.getLast?_append_of_ne_nil _ hne] at hc
    exact hend c hc
  exact (hxs.append_of_head? (.of_inputs_eq_nil hbetween) hstart).append_of_getLast? hlast hys

/-! The same for strings. Fixed strings are taken apart into their characters,
    which are faster to check. -/

theorem string_of_known (hknown : ∀ name ∈ known, holds name)
    (h : '\n' ∉ xs ∧ ∀ name ∈ inputs xs, name ∈ known) :
    CodeOver holds (String.ofList xs).toList := by
  rw [String.toList_ofList]
  exact .of_known hknown h

/-- A string after a fixed one that ends in a separator. -/
theorem string_prepend {text : String} {before : List Char} (hbefore : CodeOver holds before)
    (hend : ∀ c ∈ before.getLast?, isNameChar c = false) (h : CodeOver holds text.toList) :
    CodeOver holds (String.ofList before ++ text).toList := by
  rw [String.toList_append, String.toList_ofList]
  exact hbefore.append_of_getLast? hend h

/-- A string before a fixed one that starts with a separator. -/
theorem string_append {text : String} {after : List Char} (h : CodeOver holds text.toList)
    (hafter : CodeOver holds after) (hstart : ∀ d ∈ after.head?, isNameChar d = false) :
    CodeOver holds (text ++ String.ofList after).toList := by
  rw [String.toList_append, String.toList_ofList]
  exact h.append_of_head? hafter hstart

/-- A string between a fixed one that ends in a separator and one that starts
    with one. -/
theorem string_enclosed {text : String} {before after : List Char}
    (hbefore : CodeOver holds before) (hend : ∀ c ∈ before.getLast?, isNameChar c = false)
    (hafter : CodeOver holds after) (hstart : ∀ d ∈ after.head?, isNameChar d = false)
    (h : CodeOver holds text.toList) :
    CodeOver holds (String.ofList before ++ text ++ String.ofList after).toList := by
  exact (hbefore.string_prepend hend h).string_append hafter hstart

/-- A string between two fixed ones without inputs. -/
theorem string_between {text : String} {before after : List Char}
    (hbefore : '\n' ∉ before ∧ inputs before = [])
    (hend : ∀ c ∈ before.getLast?, isNameChar c = false)
    (hafter : '\n' ∉ after ∧ inputs after = []) (hstart : ∀ d ∈ after.head?, isNameChar d = false)
    (h : CodeOver holds text.toList) :
    CodeOver holds (String.ofList before ++ text ++ String.ofList after).toList := by
  have hbefore : CodeOver holds before := .of_inputs_eq_nil hbefore
  have hafter : CodeOver holds after := .of_inputs_eq_nil hafter
  exact hbefore.string_enclosed hend hafter hstart h

/-- Two strings with a fixed one between them. -/
theorem string_join {first second : String} {between : List Char}
    (hfirst : CodeOver holds first.toList) (hbetween : '\n' ∉ between ∧ inputs between = [])
    (hne : between ≠ []) (hstart : ∀ d ∈ between.head?, isNameChar d = false)
    (hend : ∀ c ∈ between.getLast?, isNameChar c = false) (hsecond : CodeOver holds second.toList) :
    CodeOver holds (first ++ String.ofList between ++ second).toList := by
  rw [String.toList_append, String.toList_append, String.toList_ofList]
  exact hfirst.join hbetween hne hstart hend hsecond

end CodeOver

end Glsl

end SymbolStyle

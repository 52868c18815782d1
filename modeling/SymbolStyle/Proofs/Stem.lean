import SymbolStyle.Proofs.FirstUse
import SymbolStyle.Proofs.Style.Slots

/-! # Where the stem stands

    The stem and the kind that is wanted are given to the compiler along with an
    expression. They act in two places only: the stem in front of each attribute
    that the code reads, and the kind on an expression that is nothing but a text.

    * `Value.emissions`: what the code of an expression reads, told from the
      expression alone. An operator that repeats an operand reads it again.
    * `Value.Stemmed`: the code is a fixed list of segments, joined by the stem.
      Each segment but the first one starts with the name that is read there.
    * `compile_isStemmed`: every expression but a text has such segments, and they
      say how the two shaders of a style share the code of the size.
-/

namespace SymbolStyle

open Value
open Glsl (Expr Piece)

/-! ## What code reads -/

/-- What the code of an application reads, from what its operands read: each
    operand as often as the operator writes it. -/
def Operator.spread {α : Type} : Operator → List (List α) → List α
  | .stretch, [x, low, high, newLow, newHigh] =>
    x ++ low ++ high ++ low ++ newHigh ++ newLow ++ high ++ low ++ newLow
  | .between, [x, low, high] => x ++ low ++ x ++ high
  | .interpolate, [ratio, start, stop] => start ++ stop ++ ratio
  | _, operands => operands.flatten

namespace Value

mutual

/-- What the code of an expression reads, in the order of the code. -/
def emissions : Value → List Reading
  | .sequence _ (.string tag :: operands) =>
    match Operator.ofTag? tag, operands with
    | some .get, [.string name] => [.attribute name]
    | some .var, [.string name] => [.variable name]
    | some op, operands => op.spread (emissionsOfAll operands)
    | none, _ => []
  | _ => []

/-- What the codes of each of several expressions read. -/
def emissionsOfAll : List Value → List (List Reading)
  | [] => []
  | v :: vs => emissions v :: emissionsOfAll vs

end

/-- The code of a value that is no application reads nothing. -/
theorem emissions_of_not_application {v : Value}
    (hv : ∀ form tag operands, v ≠ .sequence form (.string tag :: operands)) :
    v.emissions = [] := by
  unfold emissions
  split
  · next form tag operands => exact absurd rfl (hv form tag operands)
  · rfl

/-- The code of an application of anything but `get` and `var` reads what the codes
    of its operands read. -/
theorem emissions_application {form : SequenceForm} {op : Operator} {operands : List Value}
    (hop : Kind.string ∉ op.signature) :
    (Value.sequence form (.string op.tag :: operands)).emissions
      = op.spread (emissionsOfAll operands) := by
  unfold emissions
  rw [Operator.ofTag?_tag]
  cases op <;> first | rfl | simp [Operator.signature] at hop

end Value

/-- A template reads what the trees in it read, as often as it has them. -/
theorem Operator.readings_template? {op : Operator} (hop : Kind.string ∉ op.signature)
    {trees : List Expr} {tree : Expr} (h : op.template? trees = some tree) :
    tree.readings = op.spread (trees.map Expr.readings) := by
  unfold template? at h
  split at h
  case h_1 | h_2 => simp [signature] at hop
  case h_20 => simp at h
  all_goals
    obtain rfl := Option.some.inj h
    simp [spread, Expr.grouped, Expr.decision, Expr.truth]

/-- The tree of an expression reads what the expression says. -/
theorem Lowers.readings_eq_emissions {v : Value} {k : Kind} {wanted : Option Kind} {tree : Expr}
    (h : Lowers v k wanted tree) : tree.readings = v.emissions := by
  have happlication : ∀ {form : SequenceForm} {op : Operator} {operands : List Value}
      {trees : List Expr} {tree : Expr}, Kind.string ∉ op.signature →
      op.template? trees = some tree → trees.map Expr.readings = emissionsOfAll operands →
      tree.readings = (Value.sequence form (.string op.tag :: operands)).emissions := by
    intro form op operands trees tree hop htree hoperands
    rw [Operator.readings_template? hop htree, hoperands, emissions_application hop]
  induction h with
  | number hv hl =>
    rw [emissions_of_not_application]
    · rfl
    · rintro form tag operands rfl
      simp [isNumber] at hv
  | text hk hw => rfl
  | colorText hw hreads hcolor => rfl
  | channels hitems hcolor =>
    rw [emissions_of_not_application]
    · rfl
    · rintro form tag operands heq
      cases heq
      simp [areChannels_string_cons] at hitems
  | get => simp [emissions, Operator.ofTag?_tag]
  | var => simp [emissions, Operator.ofTag?_tag]
  | time => simp [emissions, Operator.ofTag?_tag, emissionsOfAll, Operator.spread]
  | not _ htree iha => exact happlication (by decide) htree (by simp [emissionsOfAll, iha])
  | two hop _ _ htree iha ihb =>
    exact happlication (by simp [hop]) htree (by simp [emissionsOfAll, iha, ihb])
  | three hop _ _ _ htree iha ihb ihc =>
    exact happlication (by simp [hop]) htree (by simp [emissionsOfAll, iha, ihb, ihc])
  | stretch _ _ _ _ _ htree ihx ihlow ihhigh ihnewLow ihnewHigh =>
    exact happlication (by decide) htree
      (by simp [emissionsOfAll, ihx, ihlow, ihhigh, ihnewLow, ihnewHigh])
  | interpolate _ _ _ _ _ htree ihratio ihstart ihstop =>
    exact happlication (by decide) htree (by simp [emissionsOfAll, ihratio, ihstart, ihstop])

/-! ## Segments of code -/

namespace Glsl.Piece

/-- The text in front of the first attribute that is read, and the texts from the
    name of each attribute that is read to the next one. -/
def segments : List Piece → String × List String
  | [] => ("", [])
  | .plain text :: pieces => (String.ofList text ++ (segments pieces).1, (segments pieces).2)
  | .reading (.variable name) :: pieces =>
    (variableStem ++ (name ++ (segments pieces).1), (segments pieces).2)
  | .reading (.attribute name) :: pieces =>
    ("", (name ++ (segments pieces).1) :: (segments pieces).2)

/-- The segments, joined by the stem, are the text of the pieces. -/
theorem intercalate_segments (stem : String) (pieces : List Piece) :
    stem.intercalate ((segments pieces).1 :: (segments pieces).2)
      = String.ofList (pieces.flatMap (render stem)) := by
  induction pieces with
  | nil => rfl
  | cons piece pieces ih =>
    rcases piece with text | name | name
    · simp [segments, render, ih, String.ofList_append]
    · simp [segments, render, ih, String.ofList_append]
    · simp [segments, render, ih, String.ofList_append]

/-- Behind each stem stands the name that is read there. -/
theorem segments_start (pieces : List Piece) :
    List.Forall₂ (fun name segment : String => name.toList <+: segment.toList)
      (Reading.attributeNames (readings pieces)) (segments pieces).2 := by
  induction pieces with
  | nil => exact .nil
  | cons piece pieces ih =>
    rcases piece with text | name | name
    · exact ih
    · have hstart : name.toList <+: (name ++ (segments pieces).1).toList := by simp
      exact .cons hstart ih
    · exact ih

end Glsl.Piece

/-! ## Codes under all stems -/

/-- Towards whatever kind, an expression that is no text is lowered to the same
    tree. -/
theorem Lowers.of_not_text {v : Value} {k : Kind} {wanted : Option Kind} {tree : Expr}
    (h : Lowers v k wanted tree) (hv : ∀ text, v ≠ .string text) (other : Option Kind) :
    Lowers v k other tree := by
  cases h with
  | number hnumber hl => exact .number hnumber hl
  | text hk hw => exact absurd rfl (hv _)
  | colorText hw hreads hcolor => exact absurd rfl (hv _)
  | channels hitems hcolor => exact .channels hitems hcolor
  | get => exact .get
  | var => exact .var
  | time => exact .time
  | not ha htree => exact .not ha htree
  | two hop ha hb htree => exact .two hop ha hb htree
  | three hop ha hb hc htree => exact .three hop ha hb hc htree
  | stretch hx hlow hhigh hnewLow hnewHigh htree =>
    exact .stretch hx hlow hhigh hnewLow hnewHigh htree
  | interpolate hratio hk hstart hk' hstop htree =>
    exact .interpolate hratio hk hstart hk' hstop htree

namespace Value

/-- Under every stem, towards every kind and over all names, the value is compiled
    to its segments with the stem between them, and it registers what it reads.
    There is one stem for each attribute that the code reads, in front of its
    name. -/
structure Stemmed (v : Value) (first : String) (rest : List String) : Prop where
  compile_eq : ∀ stem wanted names,
    v.compile stem wanted names = .ok (stem.intercalate (first :: rest), names.add v.readings)
  reads : List.Forall₂ (fun name segment : String => name.toList <+: segment.toList)
    (Reading.attributeNames v.emissions) rest

theorem Stemmed.hasCode {v : Value} {first : String} {rest : List String}
    (h : v.Stemmed first rest) (stem : String) (wanted : Option Kind) :
    v.HasCode stem wanted (stem.intercalate (first :: rest)) :=
  fun names => ⟨_, h.compile_eq stem wanted names⟩

theorem exists_stemmed {v : Value} (hvalid : v.validate = .ok ())
    (hv : ∀ text, v ≠ .string text) : ∃ first rest, v.Stemmed first rest := by
  have htyped := v.validate_eq_ok_iff.1 hvalid
  obtain ⟨tree, hlowers⟩ := htyped.exists_lowers (not_isMisplacedText_none v)
  refine ⟨(Piece.segments tree.pieces).1, (Piece.segments tree.pieces).2, ?_, ?_⟩
  · intro stem wanted names
    rw [Piece.intercalate_segments, ← tree.text_eq_pieces,
      compile_of_lowers hvalid (hlowers.of_not_text hv wanted), Names.extend_add]
  · rw [← hlowers.readings_eq_emissions]
    exact Piece.segments_start tree.pieces

/-- What the value is compiled to where a color is wanted. Of a text this is the
    vector of the color that it writes. -/
structure HasColorCode (v : Value) (stem code : String) : Prop where
  hasCode : v.HasCode stem (some .color) code
  vector : ∀ text, v = .string text → ∃ r g b a,
    Glsl.colorOf v = .ok (Glsl.colorConstant r g b a) ∧
      code = (Glsl.colorConstant r g b a).text stem

theorem hasCode_of_lowers {v : Value} {k : Kind} {wanted : Option Kind} {tree : Expr}
    (hvalid : v.validate = .ok ()) (h : Lowers v k wanted tree) (stem : String) :
    v.HasCode stem wanted (tree.text stem) :=
  fun names => ⟨_, compile_of_lowers hvalid h stem names⟩

theorem hasColorCode_of_lowers {v : Value} {k : Kind} {tree : Expr} (hvalid : v.validate = .ok ())
    (h : Lowers v k (some .color) tree) (stem : String) : v.HasColorCode stem (tree.text stem) := by
  refine ⟨hasCode_of_lowers hvalid h stem, ?_⟩
  rintro text rfl
  cases h with
  | number hnumber hl => simp [isNumber] at hnumber
  | text hk hw => simp at hw
  | colorText hw hreads hcolor => exact ⟨_, _, _, _, hcolor, rfl⟩

theorem text_mix (stem : String) (start stop ratio : Expr) :
    (Expr.call .mix [start, stop, ratio]).text stem
      = "mix(" ++ start.text stem ++ ", " ++ stop.text stem ++ ", " ++ ratio.text stem ++ ")" := by
  rw [← String.toList_inj]
  simp [Expr.text, Expr.render, Expr.renderAll, Glsl.Function.name, List.intercalate]

/-- Whatever is wanted of a mix, its ends are colors. -/
theorem exists_mix {form : SequenceForm} {ratio start stop : Value}
    (hvalid : (Value.sequence form [.string "interpolate", ratio, start, stop]).validate = .ok ())
    (stem : String) (wanted : Option Kind) :
    ∃ part first last, ratio.HasCode stem (some .number) part ∧
      start.HasColorCode stem first ∧ stop.HasColorCode stem last ∧
      (Value.sequence form [.string "interpolate", ratio, start, stop]).HasCode stem wanted
        ("mix(" ++ first ++ ", " ++ last ++ ", " ++ part ++ ")") := by
  have htyped : WellTyped (.sequence form
      (.string Operator.interpolate.tag :: [ratio, start, stop])) _ :=
    (validate_eq_ok_iff _).1 hvalid
  obtain ⟨-, hoperands⟩ := WellTyped.application_iff.1 htyped
  simp only [Operator.signature, List.forall₂_cons, List.Forall₂.nil, and_true] at hoperands
  obtain ⟨⟨k, hratio, haccepts⟩, ⟨k', hstart, haccepts'⟩, ⟨k'', hstop, haccepts''⟩⟩ := hoperands
  obtain rfl := Kind.number_accepts_iff.1 haccepts
  -- Each operand is lowered towards the kind of its place, whatever is wanted of
  -- the whole.
  obtain ⟨tratio, hlratio⟩ :=
    hratio.exists_lowers (not_isMisplacedText_of_accepts hratio haccepts)
  obtain ⟨tstart, hlstart⟩ :=
    hstart.exists_lowers (not_isMisplacedText_of_accepts hstart haccepts')
  obtain ⟨tstop, hlstop⟩ := hstop.exists_lowers (not_isMisplacedText_of_accepts hstop haccepts'')
  have hlowers : Lowers (.sequence form [.string Operator.interpolate.tag, ratio, start, stop])
      .color wanted (.call .mix [tstart, tstop, tratio]) :=
    .interpolate hlratio haccepts' hlstart haccepts'' hlstop rfl
  have hmix := hasCode_of_lowers hvalid hlowers stem
  refine ⟨tratio.text stem, tstart.text stem, tstop.text stem,
    hasCode_of_lowers hratio.validate_eq_ok hlratio stem,
    hasColorCode_of_lowers hstart.validate_eq_ok hlstart stem,
    hasColorCode_of_lowers hstop.validate_eq_ok hlstop stem, ?_⟩
  rwa [text_mix] at hmix

end Value

/-! ## The two shaders of a style -/

namespace Style

/-- The width of a style is read under the stem of the vertex shader where the
    size is computed, and under that of the fragment shader where the mask is. -/
def SharesWidth (compiled : CompiledStyle) (shape : Symbol) (first : String)
    (rest : List String) : Prop :=
  (∃ height, compiled.program.size
    = "vec2(" ++ "a_".intercalate (first :: rest) ++ ", " ++ height ++ ")") ∧
  (∃ before after, compiled.program.color
    = before ++ shape.mask ("v_".intercalate (first :: rest)) ++ after)

theorem exists_sharesWidth {style : Value} {compiled : CompiledStyle}
    (c : Compilation style compiled) :
    ∃ first rest, c.fields.size.1.Stemmed first rest ∧
      SharesWidth compiled c.shape first rest := by
  have hwidth := c.placed.width
  have hnumber : c.fields.size.1.kind = .number := Kind.number_accepts_iff.1 hwidth.accepts
  have hv : ∀ text, c.fields.size.1 ≠ .string text := by
    intro text heq
    rcases (heq ▸ hwidth.typed).kind_of_text with hk | hk <;> simp [← heq, hnumber] at hk
  obtain ⟨first, rest, hstemmed⟩ := exists_stemmed (v := c.fields.size.1)
    ((validate_eq_ok_iff _).2 hwidth.typed) hv
  refine ⟨first, rest, hstemmed, ?_, ?_⟩
  · obtain ⟨codes, hcodes, hslot⟩ := c.fillsSlots.size
    simp only [List.forall₂_cons_left_iff, List.forall₂_nil_left_iff] at hcodes
    obtain ⟨width, _, hcode, ⟨height, _, -, rfl, rfl⟩, rfl⟩ := hcodes
    obtain rfl := hcode.unique (hstemmed.hasCode "a_" none)
    refine ⟨height, ?_⟩
    rw [hslot]
    simp [String.append_assoc]
  · obtain ⟨color, opacity, visible, -, -, hcode, hslot⟩ := c.fillsSlots.color
    obtain rfl := hcode.unique (hstemmed.hasCode "v_" none)
    exact ⟨_, _, hslot.trans String.append_assoc⟩

end Style

namespace Value

/-- The stem and the kind that is wanted act where they should. Every expression
    but a text has segments of its own: whatever stem, kind and names are given,
    its code is the segments joined by the stem, with one stem for each attribute
    that the code reads, and it registers the same names. So the size that a mask
    reads is the one of the vertex shader up to the stems; and the ends of a mix
    are colors even where a text is wanted. -/
theorem compile_isStemmed :
    (∀ v : Value, v.validate = .ok () → (∀ text, v ≠ .string text) →
      ∃ first rest, v.Stemmed first rest) ∧
    (∀ style compiled, (Style.compile style).result = .ok compiled →
      ∃ fields shape first rest, Style.fields? style = some fields ∧
        Symbol.ofValue? fields.symbolType = some shape ∧ fields.size.1.Stemmed first rest ∧
        Style.SharesWidth compiled shape first rest) ∧
    (∀ form ratio start stop,
      (Value.sequence form [.string "interpolate", ratio, start, stop]).validate = .ok () →
      ∀ stem wanted, ∃ part first last, ratio.HasCode stem (some .number) part ∧
        start.HasColorCode stem first ∧ stop.HasColorCode stem last ∧
        (Value.sequence form [.string "interpolate", ratio, start, stop]).HasCode stem wanted
          ("mix(" ++ first ++ ", " ++ last ++ ", " ++ part ++ ")")) := by
  refine ⟨fun v => exists_stemmed, ?_, fun form ratio start stop => exists_mix⟩
  intro style compiled h
  obtain ⟨c⟩ := Style.exists_compilation h
  obtain ⟨first, rest, hstemmed, hshares⟩ := Style.exists_sharesWidth c
  exact ⟨c.fields, c.shape, first, rest, c.fields?_eq, c.shape_eq, hstemmed, hshares⟩

/-- Whether a property lies between zero and another one. The names begin like
    stems. -/
def inRange : Value :=
  .sequence .list [.string "between", .sequence .list [.string "get", .string "a_"], .int 0,
    .sequence .list [.string "get", .string "v_"]]

/-- A mix of two colors that are given as texts. -/
def sunset : Value :=
  .sequence .list [.string "interpolate", inRange, .string "red", .string "#00f"]

/-- A triangle of that width in these colors. -/
def sunsetTriangle : Value :=
  .object [("symbol", .object [("symbolType", .string "triangle"), ("size", inRange),
    ("color", sunset)])]

/-- The code reads the first property twice. Where a text is wanted, the mix is
    still one of colors. -/
theorem sunsetTriangle_isStemmed :
    Reading.attributeNames inRange.emissions = ["a_", "a_", "v_"] ∧
    (∃ first rest, inRange.Stemmed first rest) ∧
    (∃ compiled, (Style.compile sunsetTriangle).result = .ok compiled ∧
      ∃ fields shape first rest, Style.fields? sunsetTriangle = some fields ∧
        Symbol.ofValue? fields.symbolType = some shape ∧ fields.size.1.Stemmed first rest ∧
        Style.SharesWidth compiled shape first rest) ∧
    ∃ part first last, inRange.HasCode "a_" (some .number) part ∧
      (Value.string "red").HasColorCode "a_" first ∧
      (Value.string "#00f").HasColorCode "a_" last ∧
      sunset.HasCode "a_" (some .string)
        ("mix(" ++ first ++ ", " ++ last ++ ", " ++ part ++ ")") := by
  have hrange : inRange.validate = .ok () := validate_eq_ok_of_isOk (by decide +kernel)
  have hsunset : sunset.validate = .ok () := validate_eq_ok_of_isOk (by decide +kernel)
  obtain ⟨compiled, hcompile⟩ : ∃ compiled, (Style.compile sunsetTriangle).result = .ok compiled :=
    Style.exists_ok_of_isOk (by decide +kernel)
  refine ⟨by decide +kernel, ?_, ⟨compiled, hcompile, ?_⟩, ?_⟩
  · exact compile_isStemmed.1 inRange hrange (by simp [inRange])
  · exact compile_isStemmed.2.1 sunsetTriangle compiled hcompile
  · exact compile_isStemmed.2.2 .list _ _ _ hsunset "a_" (some .string)

end Value

end SymbolStyle

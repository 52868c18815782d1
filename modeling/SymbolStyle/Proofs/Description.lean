import SymbolStyle.Proofs.Json.RoundTrip
import SymbolStyle.Proofs.Written

/-! # Reading descriptions back

    A message shows the value that it is about as JSON, and JSON says which value it
    was but for which of its sequences were tuples. So two such values that are shown
    alike are equal but for that.

    Bytes have no JSON. Wherever they stand in a value, the whole value is shown in
    plain notation, from which nothing is read back.

    * `Value.OccursIn`: what stands in a value, at any depth.
    * `Value.descriptions_readBack`: what a description says of its value.
-/

namespace SymbolStyle

open Text

namespace Value

/-! ## Where bytes stand -/

/-- The value is the other one or stands in it, in a sequence or in an object. -/
inductive OccursIn (part : Value) : Value → Prop
  | refl : OccursIn part part
  | item {form : SequenceForm} {items : List Value} {item : Value} (hmem : item ∈ items)
      (h : OccursIn part item) : OccursIn part (.sequence form items)
  | entry {entries : Entries Value} {entry : String × Value} (hmem : entry ∈ entries)
      (h : OccursIn part entry.2) : OccursIn part (.object entries)

theorem OccursIn.hasBytes {v : Value} {bs : List UInt8} (h : (Value.bytes bs).OccursIn v) :
    v.hasBytes := by
  induction h with
  | refl => rfl
  | item hmem _ ih =>
    rw [Value.hasBytes, ← Bool.not_eq_false, anyBytes_eq_false_iff]
    exact fun hnone => absurd ih (by simp [hnone _ hmem])
  | entry hmem _ ih =>
    rw [Value.hasBytes, ← Bool.not_eq_false, entriesBytes_eq_false_iff]
    exact fun hnone => absurd ih (by simp [hnone _ hmem])

/-! ## Descriptions -/

theorem describe?_of_fitsJson {v : Value} (h : v.FitsJson) :
    v.describe? = some (String.ofList (v.write .json)) := by
  rw [describe?, h.hasLongInt_eq_false, h.hasBytes_eq_false]
  rfl

theorem describe?_of_hasBytes {v : Value} (h : v.hasBytes) : v.describe? = v.plain? := by
  rw [describe?, plain?, if_pos h]

/-- What is shown is read back as the value with lists for its tuples. -/
theorem read_of_describe?_eq {v : Value} {text : String} (h : v.FitsJson)
    (htext : v.describe? = some text) : Json.read text.toList = .ok v.asLists := by
  obtain rfl := Option.some.inj ((describe?_of_fitsJson h).symm.trans htext)
  rw [String.toList_ofList, Json.read_write h]

theorem describe?_eq_iff {v w : Value} (hv : v.FitsJson) (hw : w.FitsJson) :
    v.describe? = w.describe? ↔ v.asLists = w.asLists := by
  constructor
  · intro heq
    -- One text is read as one value.
    have htext := describe?_of_fitsJson hv
    have hread := read_of_describe?_eq hv htext
    rw [read_of_describe?_eq hw (heq ▸ htext)] at hread
    exact (Except.ok.inj hread).symm
  · intro heq
    rw [← describe?_asLists hv.hasBytes_eq_false, ← describe?_asLists hw.hasBytes_eq_false]
    exact congrArg describe? heq

/-- A value that JSON can hold is shown in ASCII, and the reader of documents reads
    back from that text the value with lists for its tuples. So two such values are
    shown alike exactly if they are equal up to their tuples. A value in which bytes
    stand is shown in plain notation, whatever else is in it. -/
theorem descriptions_readBack :
    (∀ v : Value, v.FitsJson → ∃ text, v.describe? = some text ∧
      (∀ c ∈ text.toList, c.toNat < 0x80) ∧ Json.read text.toList = .ok v.asLists) ∧
    (∀ v w : Value, v.FitsJson → w.FitsJson →
      (v.describe? = w.describe? ↔ v.asLists = w.asLists)) ∧
    ∀ (v : Value) (bs : List UInt8), (bytes bs).OccursIn v → v.describe? = v.plain? ∧
      (v.hasLongInt = false → ∃ text, v.describe? = some text) := by
  refine ⟨fun v h => ?_, fun v w => describe?_eq_iff, fun v bs h => ⟨?_, fun hlong => ?_⟩⟩
  · refine ⟨_, describe?_of_fitsJson h, ?_, read_of_describe?_eq h (describe?_of_fitsJson h)⟩
    intro c hc
    rw [String.toList_ofList] at hc
    exact (forall_mem_write Spelling.json_isMadeOf v c hc).2.trans (by decide)
  · exact describe?_of_hasBytes h.hasBytes
  · exact Option.isSome_iff_exists.1 (isSome_describe?_iff.2 hlong)

/-- A label that is moved: a negative zero, a whole number and a text with quotes and
    a character above U+FFFF. -/
def movedLabel (form : SequenceForm) : Value :=
  .object [("offset", .sequence form [.float (.finite true .zero), .int (-2)]),
    ("label", .string "\"😀\"")]

theorem movedLabel_fitsJson (form : SequenceForm) : (movedLabel form).FitsJson := by
  refine .object (by simp) ?_
  simp only [List.forall_mem_cons, List.not_mem_nil, false_implies, implies_true, and_true]
  refine ⟨.sequence form ?_, .string _⟩
  simp only [List.forall_mem_cons, List.not_mem_nil, false_implies, implies_true, and_true]
  exact ⟨.float _, .int (by decide +kernel)⟩

/-- The label is shown alike in both forms, and it is read back as a list. With bytes
    next to it, it is shown in plain notation. -/
theorem movedLabel_readBack :
    ((movedLabel .tuple).FitsJson ∧ (movedLabel .list).FitsJson ∧
      (movedLabel .tuple).describe? = (movedLabel .list).describe? ∧
      ∃ text, (movedLabel .tuple).describe? = some text ∧
        Json.read text.toList = .ok (movedLabel .list)) ∧
    (bytes [255]).OccursIn (.sequence .list [movedLabel .tuple, .bytes [255]]) ∧
      (sequence .list [movedLabel .tuple, .bytes [255]]).describe?
        = (sequence .list [movedLabel .tuple, .bytes [255]]).plain? := by
  obtain ⟨hread, halike, hbytes⟩ := descriptions_readBack
  have htuple := movedLabel_fitsJson .tuple
  have hlist := movedLabel_fitsJson .list
  have hoccurs : (bytes [255]).OccursIn (.sequence .list [movedLabel .tuple, .bytes [255]]) :=
    .item (by simp) .refl
  obtain ⟨text, htext, -, hvalue⟩ := hread (movedLabel .tuple) htuple
  exact ⟨⟨htuple, hlist, (halike _ _ htuple hlist).2 rfl, text, htext, hvalue⟩, hoccurs,
    (hbytes _ _ hoccurs).1⟩

example : (movedLabel .tuple).describe?
    = some "\x7b\"offset\":[-0.0,-2],\"label\":\"\\\"\\ud83d\\ude00\\\"\"\x7d" := by
  decide +kernel

end Value

end SymbolStyle

import SymbolStyle.Proofs.Json.Numeral
import SymbolStyle.Proofs.Style.SequenceForms

/-! # Values of documents

    What a document can hold: values without bytes and without tuples, whose whole
    numbers are not too long and whose objects have one entry for each name. Values
    that differ from them in tuples only are those that JSON can write.

    Nothing else is ever read. This is an invariant of the reader: what has been read
    behind the brackets that are still open is of this kind, and so is each token that
    stands for a value.

    * `Value.FitsJson`, `Value.IsDocument`: the values, with tuples and without.
    * `step_isSound`, `run_isSound`: the invariant, for a step and for a run.
    * `isDocument_of_read`: what is read.
-/

namespace SymbolStyle

/-! ## Values that JSON holds -/

namespace Value

/-- The values that JSON can hold if tuples are written as lists: no bytes are in
    them, all whole numbers can be written, and no object has two entries of one
    name. -/
inductive FitsJson : Value → Prop
  | null : FitsJson .null
  | bool (b : Bool) : FitsJson (.bool b)
  | int {n : Int} (h : n.natAbs < longInt) : FitsJson (.int n)
  | float (x : Double) : FitsJson (.float x)
  | string (text : String) : FitsJson (.string text)
  | sequence (form : SequenceForm) {items : List Value} (h : ∀ item ∈ items, FitsJson item) :
      FitsJson (.sequence form items)
  | object {entries : Entries Value} (hnames : (entries.map Prod.fst).Nodup)
      (h : ∀ entry ∈ entries, FitsJson entry.2) : FitsJson (.object entries)

theorem entriesBytes_eq_false_iff {entries : Entries Value} :
    entriesBytes entries = false ↔ ∀ entry ∈ entries, entry.2.hasBytes = false := by
  induction entries with
  | nil => simp [entriesBytes]
  | cons entry entries ih => simp [entriesBytes, ih]

theorem FitsJson.hasLongInt_eq_false {v : Value} (h : v.FitsJson) : v.hasLongInt = false := by
  induction h with
  | int h => simpa [hasLongInt] using h
  | sequence form h ih => rwa [hasLongInt, anyLongInt_eq_false_iff]
  | object hnames h ih => rwa [hasLongInt, entriesLongInt_eq_false_iff]
  | _ => rfl

theorem FitsJson.hasBytes_eq_false {v : Value} (h : v.FitsJson) : v.hasBytes = false := by
  induction h with
  | sequence form h ih => rwa [hasBytes, anyBytes_eq_false_iff]
  | object hnames h ih => rwa [hasBytes, entriesBytes_eq_false_iff]
  | _ => rfl

theorem respellEntries_eq_map {r : Respelling} (entries : Entries Value) :
    respellEntries r entries = entries.map fun entry => (entry.1, entry.2.respell r) := by
  induction entries with
  | nil => rfl
  | cons entry entries ih => rw [respellEntries, ih, List.map_cons]

theorem asLists_sequence (form : SequenceForm) (items : List Value) :
    (sequence form items).asLists = .sequence .list (items.map asLists) :=
  respell_sequence form items

theorem asLists_object (entries : Entries Value) :
    (object entries).asLists = .object (entries.map fun entry => (entry.1, entry.2.asLists)) := by
  rw [asLists, respell, respellEntries_eq_map]
  rfl

/-- The values of documents: those that JSON can hold, with lists as their only
    sequences. -/
structure IsDocument (v : Value) : Prop where
  fitsJson : v.FitsJson
  asLists_eq : v.asLists = v

theorem isDocument_sequence {items : List Value} (h : ∀ item ∈ items, item.IsDocument) :
    (sequence .list items).IsDocument where
  fitsJson := .sequence .list fun item hmem => (h item hmem).fitsJson
  asLists_eq := by
    have hitems : items.map asLists = items.map id :=
      List.map_congr_left fun item hmem => (h item hmem).asLists_eq
    rw [asLists_sequence, hitems, List.map_id]

/-- The entries of the objects of documents. -/
structure AreEntries (entries : Entries Value) : Prop where
  names_nodup : (entries.map Prod.fst).Nodup
  isDocument : ∀ entry ∈ entries, entry.2.IsDocument

theorem AreEntries.isDocument_object {entries : Entries Value} (h : AreEntries entries) :
    (object entries).IsDocument where
  fitsJson := .object h.names_nodup fun entry hmem => (h.isDocument entry hmem).fitsJson
  asLists_eq := by
    have hentries : entries.map (fun entry => (entry.1, entry.2.asLists)) = entries.map id :=
      List.map_congr_left fun entry hmem => by rw [(h.isDocument entry hmem).asLists_eq, id]
    rw [asLists_object, hentries, List.map_id]

/-- A name gets a new value. -/
theorem AreEntries.put {entries : Entries Value} (h : AreEntries entries) (name : String)
    {v : Value} (hv : v.IsDocument) : AreEntries (entries.put name v) where
  names_nodup := by
    rw [Entries.names_put]
    split
    · exact h.names_nodup
    · next hnew => exact h.names_nodup.append (List.nodup_singleton name) (by simpa using hnew)
  isDocument entry hmem := by
    rcases Entries.mem_of_mem_put hmem with rfl | hmem
    · exact hv
    · exact h.isDocument entry hmem

end Value

namespace Json

open Value

variable {text rest : List Char} {token : Token} {state : State} {frames : List Frame}

/-! ## What is read -/

/-- What a token stands for is what a document holds. -/
theorem isDocument_of_scanNumber? {negative : Bool} {v : Value}
    (h : scanNumber? negative text = some (.scalar v, rest)) : v.IsDocument := by
  unfold scanNumber? at h
  obtain ⟨⟨whole, afterWhole⟩, hwhole, heq⟩ := Option.bind_eq_some_iff.1 h
  obtain ⟨-, hdigits⟩ := scanWhole?_eq hwhole
  dsimp only at heq
  generalize scanFraction afterWhole = scanned at heq
  obtain ⟨fraction, afterFraction⟩ := scanned
  dsimp only at heq
  generalize scanPower afterFraction = scanned at heq
  obtain ⟨power, afterPower⟩ := scanned
  obtain ⟨htoken, -⟩ := Prod.mk.inj (Option.some.inj heq)
  split at htoken
  · split at htoken
    · cases htoken
    · next hlength =>
      obtain rfl := Token.scalar.inj htoken
      have hshort := ofDigitChars_lt_longInt hdigits (Nat.not_lt.1 hlength)
      exact ⟨.int (by split <;> simpa using hshort), rfl⟩
  · obtain rfl := Token.scalar.inj htoken
    exact ⟨.float _, rfl⟩

theorem isDocument_of_scanWord? {v : Value} (h : scanWord? text = some (.scalar v, rest)) :
    v.IsDocument := by
  obtain ⟨⟨word, w⟩, hmem, hword⟩ := List.exists_of_findSome?_eq_some h
  obtain ⟨rest', -, heq⟩ := Option.map_eq_some_iff.1 hword
  obtain ⟨htoken, -⟩ := Prod.mk.inj heq
  obtain rfl := Token.scalar.inj htoken
  simp only [words, List.mem_cons, List.not_mem_nil, or_false, Prod.mk.injEq] at hmem
  rcases hmem with ⟨-, rfl⟩ | ⟨-, rfl⟩ | ⟨-, rfl⟩ | ⟨-, rfl⟩ | ⟨-, rfl⟩ | ⟨-, rfl⟩
  · exact ⟨.null, rfl⟩
  · exact ⟨.bool true, rfl⟩
  · exact ⟨.bool false, rfl⟩
  all_goals exact ⟨.float _, rfl⟩

theorem isDocument_of_scanToken? {v : Value} (h : scanToken? text = some (.scalar v, rest)) :
    v.IsDocument := by
  unfold scanToken? at h
  split at h
  · cases h
  · obtain ⟨scanned, -, heq⟩ := Option.map_eq_some_iff.1 h
    obtain ⟨htoken, -⟩ := Prod.mk.inj heq
    obtain rfl := Token.scalar.inj htoken
    exact ⟨.string _, rfl⟩
  · next c after _ =>
    split at h
    · next mark hmark =>
      obtain ⟨rfl, -⟩ := Prod.mk.inj (Option.some.inj h)
      unfold mark? at hmark
      split at hmark <;> simp at hmark
    · rcases Option.or_eq_some_iff.1 h with hword | ⟨-, hnumber⟩
      · exact isDocument_of_scanWord? hword
      · split at hnumber <;> exact isDocument_of_scanNumber? hnumber

theorem isDocument_of_mem_tokens {v : Value} (h : Token.scalar v ∈ tokens text) :
    v.IsDocument := by
  fun_induction tokens text with
  | case1 text hend => cases h
  | case2 text c rest hstart hscan => simp at h
  | case3 text c rest hstart token after hscan _ ih =>
    rcases List.mem_cons.1 h with rfl | hmem
    · exact isDocument_of_scanToken? hscan
    · exact ih hmem
  | case4 text c rest hstart token after hscan _ => simp at h

/-- What has been read behind an open bracket is as in a document. -/
def Frame.IsSound : Frame → Prop
  | .array items => ∀ item ∈ items, item.IsDocument
  | .object entries | .entry entries _ => AreEntries entries

/-- All that has been read is as in a document. -/
def State.IsSound : State → Prop
  | .value frames | .firstItem frames | .firstName frames | .name frames | .colon frames
  | .next frames => ∀ frame ∈ frames, frame.IsSound
  | .finished v => v.IsDocument

theorem deliver_isSound {v : Value} (hv : v.IsDocument)
    (hframes : ∀ frame ∈ frames, frame.IsSound) : (deliver v frames).IsSound := by
  cases frames with
  | nil => exact hv
  | cons frame frames =>
    rw [List.forall_mem_cons] at hframes
    cases frame with
    | array items =>
      exact List.forall_mem_cons.2 ⟨List.forall_mem_cons.2 ⟨hv, hframes.1⟩, hframes.2⟩
    | object entries => exact List.forall_mem_cons.2 hframes
    | entry entries name => exact List.forall_mem_cons.2 ⟨hframes.1.put name hv, hframes.2⟩

theorem startValue_isSound {reached : State} (hframes : ∀ frame ∈ frames, frame.IsSound)
    (htoken : ∀ v, token = .scalar v → v.IsDocument) (h : startValue frames token = .ok reached) :
    reached.IsSound := by
  cases token with
  | scalar v =>
    obtain rfl := Except.ok.inj h
    exact deliver_isSound (htoken v rfl) hframes
  | openArray =>
    obtain rfl := Except.ok.inj h
    exact List.forall_mem_cons.2 ⟨by simp [Frame.IsSound], hframes⟩
  | openObject =>
    obtain rfl := Except.ok.inj h
    exact List.forall_mem_cons.2 ⟨⟨List.nodup_nil, by simp⟩, hframes⟩
  | _ => cases h

theorem startName_isSound {reached : State} (hframes : ∀ frame ∈ frames, frame.IsSound)
    (h : startName frames token = .ok reached) : reached.IsSound := by
  unfold startName at h
  split at h
  · obtain rfl := Except.ok.inj h
    rw [List.forall_mem_cons] at hframes
    exact List.forall_mem_cons.2 hframes
  · cases h

/-- A step keeps to what documents hold. -/
theorem step_isSound {reached : State} (hstate : state.IsSound)
    (htoken : ∀ v, token = .scalar v → v.IsDocument) (h : step state token = .ok reached) :
    reached.IsSound := by
  unfold step at h
  split at h
  case h_1 | h_3 => exact startValue_isSound hstate htoken h
  case h_5 | h_6 => exact startName_isSound hstate h
  case h_12 => cases h
  all_goals obtain rfl := Except.ok.inj h
  -- A comma or a colon adds nothing.
  case h_7 | h_8 | h_10 => exact hstate
  -- A bracket that is closed becomes a value.
  all_goals
    obtain ⟨hframe, hframes⟩ := List.forall_mem_cons.1 hstate
    refine deliver_isSound ?_ hframes
  case h_2 => exact isDocument_sequence hframe
  case h_9 => exact isDocument_sequence fun item hmem => hframe item (List.mem_reverse.1 hmem)
  case h_4 | h_11 => exact hframe.isDocument_object

theorem run_isSound {ts : List Token} {reached : State} (hstate : state.IsSound)
    (hts : ∀ v, .scalar v ∈ ts → v.IsDocument) (h : run state ts = .ok reached) :
    reached.IsSound := by
  induction ts generalizing state with
  | nil =>
    obtain rfl := Except.ok.inj h
    exact hstate
  | cons token ts ih =>
    rw [run_cons, bind_eq_ok_iff] at h
    obtain ⟨middle, hstep, hrun⟩ := h
    have hmiddle := step_isSound hstate (fun v hv => hts v (by simp [hv])) hstep
    exact ih hmiddle (fun v hv => hts v (List.mem_cons_of_mem _ hv)) hrun

/-- What is read is a value that JSON can hold, with lists as its only sequences. -/
theorem isDocument_of_read {v : Value} (h : read text = .ok v) : v.IsDocument := by
  unfold read at h
  obtain ⟨state, hrun, hend⟩ := bind_eq_ok_iff.1 h
  have hsound := run_isSound (by simp [State.IsSound]) (fun v => isDocument_of_mem_tokens) hrun
  cases state with
  | finished w =>
    obtain rfl := Except.ok.inj hend
    exact hsound
  | _ => cases hend

end Json

end SymbolStyle

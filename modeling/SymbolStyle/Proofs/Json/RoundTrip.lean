import SymbolStyle.Proofs.Json.Document
import SymbolStyle.Proofs.Json.Quotation
import SymbolStyle.Sequence

/-! # Reading written values

    A value written in JSON is read as the value, with lists for its tuples.

    The reader is a machine that takes tokens, and it knows nothing of the value that
    a text was written from. So what is shown by induction on the value is what its
    text does to the machine: wherever a value may come, the text puts the value
    there, whatever comes behind it (`IsRead`). Items and entries are then taken one
    after another, each by the value in it and the comma or bracket behind it.

    * `run_items`, `run_entries`: what is left of a bracket is taken to its end.
    * `isRead_write`, `read_write`: the texts of values are read as the values.
-/

namespace SymbolStyle

namespace Json

open Text Value

/-! ## One token -/

variable {text rest : List Char} {token : Token} {state : State} {frames : List Frame}

/-- A blank does not start a token. -/
theorem scanToken?_of_isSpace {c : Char} (h : isSpace c) (cs : List Char) :
    scanToken? (c :: cs) = none := by
  simp only [isSpace, Bool.or_eq_true, decide_eq_true_eq] at h
  rcases h with ((rfl | rfl) | rfl) | rfl <;> rfl

/-- A token at the front of a text is the first of its tokens. -/
theorem tokens_eq_cons (hnil : text ≠ []) (hscan : scanToken? (text ++ rest) = some (token, rest)) :
    tokens (text ++ rest) = token :: tokens rest := by
  obtain ⟨c, cs, rfl⟩ := List.exists_cons_of_ne_nil hnil
  have hspace : isSpace c = false := by
    rw [Bool.eq_false_iff]
    intro hspace
    rw [List.cons_append, scanToken?_of_isSpace hspace] at hscan
    cases hscan
  have hstart : (c :: cs ++ rest).dropWhile isSpace = c :: (cs ++ rest) := by
    rw [List.cons_append, List.dropWhile_cons_of_neg (by simp [hspace])]
  rw [tokens]
  split
  · next heq =>
    rw [hstart] at heq
    cases heq
  · next first others heq =>
    rw [hstart] at heq
    obtain ⟨rfl, rfl⟩ := List.cons.inj heq
    rw [List.cons_append] at hscan
    simp only [hscan]
    rw [if_pos]
    simp only [List.length_cons, List.length_append]
    omega

theorem tokens_mark {c : Char} (hc : mark? c = some token) (hquote : c ≠ '"') (rest : List Char) :
    tokens (c :: rest) = token :: tokens rest := by
  apply tokens_eq_cons (List.cons_ne_nil c [])
  rw [List.singleton_append, scanToken?, hc]
  exact hquote

theorem tokens_quotation (name : String) (rest : List Char) :
    tokens (quoteAscii name.toList ++ rest) = .scalar (.string name) :: tokens rest :=
  tokens_eq_cons (by simp [quoteAscii]) (scanToken?_quoteAscii name rest)

/-! ## Where the machine stands -/

/-- A value may come next, and it goes into these brackets. -/
inductive State.Awaits : State → List Frame → Prop
  | value (frames : List Frame) : Awaits (.value frames) frames
  | firstItem (frames : List Frame) : Awaits (.firstItem frames) frames

/-- A name may come next, and it goes into these brackets. -/
inductive State.AwaitsName : State → List Frame → Prop
  | name (frames : List Frame) : AwaitsName (.name frames) frames
  | firstName (frames : List Frame) : AwaitsName (.firstName frames) frames

/-- Any token but the end of an array is taken as the start of the value. -/
theorem State.Awaits.step_eq (h : state.Awaits frames) (htoken : token ≠ .closeArray) :
    step state token = startValue frames token := by
  cases h with
  | value frames => rfl
  | firstItem frames => simp [step, htoken]

theorem State.AwaitsName.step_eq {entries : Entries Value}
    (h : state.AwaitsName (.object entries :: frames)) (name : String) :
    step state (.scalar (.string name)) = .ok (.colon (.entry entries name :: frames)) := by
  cases h with
  | name frames => rfl
  | firstName frames => simp [step, startName]

theorem run_of_step {reached : State} (h : step state token = .ok reached) (ts : List Token) :
    run state (token :: ts) = run reached ts := by
  rw [run_cons, h]
  rfl

/-! ## Values -/

/-- Wherever a value may come, the text puts the value there. -/
def IsRead (text : List Char) (v : Value) : Prop :=
  ∀ {state : State} {frames : List Frame} {rest : List Char}, state.Awaits frames →
    EndsValue rest → run state (tokens (text ++ rest)) = run (deliver v frames) (tokens rest)

theorem isRead_scalar {v : Value} (hnil : text ≠ [])
    (hscan : ∀ rest, EndsValue rest → scanToken? (text ++ rest) = some (.scalar v, rest)) :
    IsRead text v := by
  intro state frames rest hstate hrest
  rw [tokens_eq_cons hnil (hscan rest hrest)]
  exact run_of_step (hstate.step_eq (by simp)) _

theorem isRead_word (word : String) {v : Value} (hword : (word, v) ∈ words) :
    IsRead word.toList v := by
  simp only [words, List.mem_cons, List.not_mem_nil, or_false, Prod.mk.injEq] at hword
  rcases hword with ⟨rfl, rfl⟩ | ⟨rfl, rfl⟩ | ⟨rfl, rfl⟩ | ⟨rfl, rfl⟩ | ⟨rfl, rfl⟩ | ⟨rfl, rfl⟩
  all_goals exact isRead_scalar (by decide) fun _ _ => rfl

theorem isRead_int {n : Int} (h : n.natAbs < longInt) : IsRead (writeInt n) (.int n) := by
  apply isRead_scalar
  · cases n with
    | ofNat n => exact Decimal.digits_ne_nil n
    | negSucc n => exact List.cons_ne_nil _ _
  · intro rest hrest
    exact scanToken?_int h hrest

theorem isRead_float (x : Double) : IsRead (x.compact Spelling.json.special) (.float x) := by
  cases x with
  | nan => exact isRead_word "NaN" (by simp [words])
  | infinite negative =>
    cases negative with
    | false => exact isRead_word "Infinity" (by simp [words])
    | true => exact isRead_word "-Infinity" (by simp [words])
  | finite negative m =>
    apply isRead_scalar
    · obtain ⟨c, cs, heq, -⟩ := exists_cons_compact m []
      rw [List.append_nil] at heq
      cases negative <;> simp [Double.compact, Double.signed, heq]
    · intro rest hrest
      exact scanToken?_finite negative m hrest

theorem isRead_string (name : String) : IsRead (quoteAscii name.toList) (.string name) :=
  isRead_scalar (by simp [quoteAscii]) fun rest _ => scanToken?_quoteAscii name rest

/-! ## Items and entries -/

/-- What stands behind the first of several texts: the others, each behind a comma,
    and what closes them. -/
def afterFirst (texts : List (List Char)) (close : List Char) : List Char :=
  (texts.map ([','] ++ ·)).flatten ++ close

theorem afterFirst_cons (text : List Char) (texts : List (List Char)) (close : List Char) :
    afterFirst (text :: texts) close = ',' :: (text ++ afterFirst texts close) := by
  simp [afterFirst]

theorem intercalate_append (text : List Char) (texts : List (List Char)) (close : List Char) :
    [','].intercalate (text :: texts) ++ close = text ++ afterFirst texts close := by
  rw [intercalate_cons, List.append_assoc]
  rfl

theorem endsValue_afterFirst (texts : List (List Char)) {close : List Char}
    (h : EndsValue close) : EndsValue (afterFirst texts close) := by
  cases texts with
  | nil => exact h
  | cons text texts =>
    rw [afterFirst_cons]
    exact endsValue_cons (by simp) _

/-- The end of an array, behind the items that have been read. -/
theorem run_items {items : List Value}
    (hitems : ∀ item ∈ items, IsRead (item.write .json) item.asLists) (done : List Value)
    (frames : List Frame) (rest : List Char) :
    run (.next (.array done :: frames)) (tokens (afterFirst (writeItems .json items) (']' :: rest)))
      = run (deliver (.sequence .list (done.reverse ++ items.map asLists)) frames)
        (tokens rest) := by
  induction items generalizing done with
  | nil =>
    have hclose : step (.next (.array done :: frames)) .closeArray
        = .ok (deliver (.sequence .list done.reverse) frames) := rfl
    rw [List.map_nil, List.append_nil]
    exact (congrArg _ (tokens_mark rfl (by decide) rest)).trans (run_of_step hclose _)
  | cons item items ih =>
    rw [List.forall_mem_cons] at hitems
    have hcomma : step (.next (.array done :: frames)) .comma
        = .ok (.value (.array done :: frames)) := rfl
    have hend : EndsValue (']' :: rest) := endsValue_cons (by simp) rest
    rw [writeItems, afterFirst_cons, tokens_mark rfl (by decide), run_of_step hcomma,
      hitems.1 (.value _) (endsValue_afterFirst _ hend)]
    show run (.next (.array (item.asLists :: done) :: frames)) _ = _
    rw [ih hitems.2, List.reverse_cons, List.append_assoc, List.singleton_append, List.map_cons]

theorem isRead_sequence (form : SequenceForm) {items : List Value}
    (hitems : ∀ item ∈ items, IsRead (item.write .json) item.asLists) :
    IsRead ((sequence form items).write .json) (sequence form items).asLists := by
  intro state frames rest hstate _
  have htext : (sequence form items).write .json ++ rest
      = '[' :: ([','].intercalate (writeItems .json items) ++ ']' :: rest) := by
    rw [write, bracket_json, bracket, if_neg (by simp)]
    simp [Spelling.json]
  have hopen : step state .openArray = .ok (.firstItem (.array [] :: frames)) :=
    hstate.step_eq (by simp)
  rw [htext, tokens_mark rfl (by decide), run_of_step hopen, asLists_sequence]
  cases items with
  | nil =>
    have hclose : step (.firstItem (.array [] :: frames)) .closeArray
        = .ok (deliver (.sequence .list []) frames) := rfl
    rw [writeItems, List.intercalate_nil, List.nil_append, tokens_mark rfl (by decide),
      run_of_step hclose, List.map_nil]
  | cons item items =>
    rw [List.forall_mem_cons] at hitems
    have hend : EndsValue (']' :: rest) := endsValue_cons (by simp) rest
    rw [writeItems, intercalate_append, hitems.1 (.firstItem _) (endsValue_afterFirst _ hend)]
    exact run_items hitems.2 [item.asLists] frames rest

/-- A name, the colon and the value of an entry. -/
theorem run_entry {done : Entries Value} {v : Value}
    (hstate : state.AwaitsName (.object done :: frames)) (name : String) (hv : IsRead text v)
    (hrest : EndsValue rest) :
    run state (tokens (quoteAscii name.toList ++ [':'] ++ text ++ rest))
      = run (.next (.object (done.put name v) :: frames)) (tokens rest) := by
  have hcolon : step (.colon (.entry done name :: frames)) .colon
      = .ok (.value (.entry done name :: frames)) := rfl
  rw [List.append_assoc, List.append_assoc, tokens_quotation, run_of_step (hstate.step_eq name),
    List.singleton_append, tokens_mark rfl (by decide), run_of_step hcolon, hv (.value _) hrest]
  rfl

/-- The end of an object, behind the entries that have been read. -/
theorem run_entries {entries : Entries Value}
    (hentries : ∀ entry ∈ entries, IsRead (entry.2.write .json) entry.2.asLists)
    {done : Entries Value} (hnames : ((done ++ entries).map Prod.fst).Nodup) (frames : List Frame)
    (rest : List Char) :
    run (.next (.object done :: frames))
        (tokens (afterFirst (writeEntries .json entries) ('}' :: rest)))
      = run (deliver (.object (done ++ entries.map fun entry => (entry.1, entry.2.asLists))) frames)
        (tokens rest) := by
  induction entries generalizing done with
  | nil =>
    have hclose : step (.next (.object done :: frames)) .closeObject
        = .ok (deliver (.object done) frames) := rfl
    rw [List.map_nil, List.append_nil]
    exact (congrArg _ (tokens_mark rfl (by decide) rest)).trans (run_of_step hclose _)
  | cons entry entries ih =>
    obtain ⟨name, v⟩ := entry
    rw [List.forall_mem_cons] at hentries
    have hcomma : step (.next (.object done :: frames)) .comma
        = .ok (.name (.object done :: frames)) := rfl
    have hend : EndsValue ('}' :: rest) := endsValue_cons (by simp) rest
    -- The name is new, so the entry comes last.
    have hnew : name ∉ done.map Prod.fst := by
      rw [List.map_append, List.nodup_append] at hnames
      exact fun hmem => hnames.2.2 name hmem name List.mem_cons_self rfl
    have hnames' : (((done ++ [(name, v.asLists)]) ++ entries).map Prod.fst).Nodup := by
      simpa using hnames
    rw [writeEntries, afterFirst_cons, tokens_mark rfl (by decide), run_of_step hcomma,
      show Spelling.json.colon = [':'] from rfl, show Spelling.json.quote = quoteAscii from rfl,
      run_entry (.name _) name hentries.1 (endsValue_afterFirst _ hend),
      Entries.put_of_not_mem v.asLists hnew, ih hentries.2 hnames', List.append_assoc,
      List.singleton_append, List.map_cons]

theorem isRead_object {entries : Entries Value} (hnames : (entries.map Prod.fst).Nodup)
    (hentries : ∀ entry ∈ entries, IsRead (entry.2.write .json) entry.2.asLists) :
    IsRead ((object entries).write .json) (object entries).asLists := by
  intro state frames rest hstate _
  have htext : (object entries).write .json ++ rest
      = '{' :: ([','].intercalate (writeEntries .json entries) ++ '}' :: rest) := by
    rw [write]
    simp [Spelling.json]
  have hopen : step state .openObject = .ok (.firstName (.object [] :: frames)) :=
    hstate.step_eq (by simp)
  rw [htext, tokens_mark rfl (by decide), run_of_step hopen, asLists_object]
  cases entries with
  | nil =>
    have hclose : step (.firstName (.object [] :: frames)) .closeObject
        = .ok (deliver (.object []) frames) := rfl
    rw [writeEntries, List.intercalate_nil, List.nil_append, tokens_mark rfl (by decide),
      run_of_step hclose, List.map_nil]
  | cons entry entries =>
    obtain ⟨name, v⟩ := entry
    rw [List.forall_mem_cons] at hentries
    have hend : EndsValue ('}' :: rest) := endsValue_cons (by simp) rest
    have hnames' : (([(name, v.asLists)] ++ entries).map Prod.fst).Nodup := by simpa using hnames
    rw [writeEntries, intercalate_append]
    have hfirst := run_entry (.firstName (.object [] :: frames)) name hentries.1
      (endsValue_afterFirst (writeEntries .json entries) hend)
    exact hfirst.trans (run_entries hentries.2 hnames' frames rest)

/-! ## Whole texts -/

theorem isRead_write {v : Value} (h : v.FitsJson) : IsRead (v.write .json) v.asLists := by
  induction h with
  | null => exact isRead_word "null" List.mem_cons_self
  | bool b =>
    cases b with
    | false => exact isRead_word "false" (by simp [words, asLists, respell])
    | true => exact isRead_word "true" (by simp [words, asLists, respell])
  | int h => exact isRead_int h
  | float x => exact isRead_float x
  | string text => exact isRead_string text
  | sequence form _ ih => exact isRead_sequence form ih
  | object hnames _ ih => exact isRead_object hnames ih

/-- A value that is written is read as the value with lists for its tuples. -/
theorem read_write {v : Value} (h : v.FitsJson) : read (v.write .json) = .ok v.asLists := by
  have hrun := isRead_write h (.value []) endsValue_nil
  have hend : tokens [] = [] := by simp [tokens]
  rw [List.append_nil, hend] at hrun
  rw [read, hrun]
  rfl

/-- What documents hold is what can be read. -/
theorem isDocument_iff {v : Value} : v.IsDocument ↔ ∃ text, read text = .ok v := by
  constructor
  · intro h
    exact ⟨v.write .json, by rw [read_write h.fitsJson, h.asLists_eq]⟩
  · rintro ⟨text, htext⟩
    exact isDocument_of_read htext

end Json

end SymbolStyle

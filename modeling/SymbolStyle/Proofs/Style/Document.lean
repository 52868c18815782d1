import SymbolStyle.CommandLine.Report
import SymbolStyle.Proofs.Json.LongInt

/-! # Style documents that are not read

    What can keep a style document from being read, and what becomes of it.

    A document is opened, decoded, read as JSON and looked at, and each of these
    can fail. Two failures have no message: bytes that are no text, and a whole
    number with too many digits, at which the reader stops before it knows whether
    the rest is JSON.

    * `FailsWith`: all failures and their causes. `load_eq_error_iff`: there are no
      others.
    * `IsUndecodable`: the files for which there is no message.
    * `load_reports_unless_undecodable`: a file gives a style with a symbol or a
      message, and the command prints the message, unless the file is
      undecodable. `latinName_escapes`: a text in another encoding.
-/

namespace SymbolStyle

/-- Bytes are decoded to the text that they encode. -/
theorem fromUTF8?_eq_some_iff {bytes : ByteArray} {text : String} :
    String.fromUTF8? bytes = some text ↔ bytes = text.toUTF8 := by
  unfold String.fromUTF8?
  constructor
  · intro h
    split at h
    · obtain rfl := Option.some.inj h
      rfl
    · cases h
  · rintro rfl
    rw [String.toUTF8_eq_toByteArray, dif_pos text.isValidUTF8]
    rfl

theorem toUTF8_inj {text other : String} (h : text.toUTF8 = other.toUTF8) : text = other :=
  Option.some.inj <| (fromUTF8?_eq_some_iff.2 rfl).symm.trans (fromUTF8?_eq_some_iff.2 h)

namespace Style

/-! ## Causes of failures -/

/-- The value is an object that has an object for its symbol. -/
def HasSymbol (v : Value) : Prop :=
  ∃ entries symbol, v = .object entries ∧ entries.lookup "symbol" = some (.object symbol)

theorem isSome_symbol?_iff {v : Value} : (Fields.symbol? v).isSome ↔ HasSymbol v := by
  unfold Fields.symbol? HasSymbol
  cases v with
  | object entries =>
    show ((entries.lookup "symbol").filter _).isSome ↔ _
    cases hsymbol : entries.lookup "symbol" with
    | none => simp [hsymbol]
    | some symbol => cases symbol <;> simp [hsymbol, Value.entries?]
  | _ => simp [Value.get?, Value.entries?]

theorem symbol?_eq_none_iff {v : Value} : Fields.symbol? v = none ↔ ¬ HasSymbol v := by
  rw [← isSome_symbol?_iff, Option.not_isSome_iff_eq_none]

/-- Reading what is found at a path fails for the given reason. -/
inductive FailsWith : FileState → LoadError → Prop
  | missing : FailsWith .missing .missing
  | directory : FailsWith .directory .directory
  /-- The bytes encode no text. -/
  | notText {bytes : ByteArray} (h : ∀ text : String, bytes ≠ text.toUTF8) :
      FailsWith (.file bytes) .notText
  /-- The text is not JSON, and no long number comes before the place where this
      shows. -/
  | notJson {text : String} (h : Json.read text.toList = .error .malformed) :
      FailsWith (.file text.toUTF8) .notJson
  /-- A long number comes first. -/
  | longInt {text : String} (h : Json.StopsAtLongInt text.toList) :
      FailsWith (.file text.toUTF8) .longInt
  /-- The document is no object. -/
  | notAnObject {text : String} {v : Value} (hread : Json.read text.toList = .ok v)
      (h : ∀ entries, v ≠ .object entries) : FailsWith (.file text.toUTF8) .notAnObject
  /-- The document is an object without a symbol. -/
  | noSymbol {text : String} {entries : Entries Value}
      (hread : Json.read text.toList = .ok (.object entries))
      (h : ∀ symbol, entries.lookup "symbol" ≠ some (.object symbol)) :
      FailsWith (.file text.toUTF8) .noSymbol

theorem load_file (text : String) : load (.file text.toUTF8) = ofText text := by
  simp only [load, fromUTF8?_eq_some_iff.2 rfl]

theorem ofText_eq_ok {text : String} {style : Value} (hread : Json.read text.toList = .ok style)
    (hsymbol : HasSymbol style) : ofText text = .ok style := by
  have hfound : (Fields.symbol? style).isNone = false := by
    rw [← Option.not_isSome, isSome_symbol?_iff.2 hsymbol]
    rfl
  obtain ⟨entries, symbol, rfl, -⟩ := hsymbol
  rw [ofText, hread]
  simp [bind, Except.bind, Value.entries?, hfound]

theorem FailsWith.load_eq {state : FileState} {e : LoadError} (h : FailsWith state e) :
    load state = .error e := by
  cases h with
  | missing => rfl
  | directory => rfl
  | @notText bytes h =>
    have hbytes : String.fromUTF8? bytes = none := by
      rw [Option.eq_none_iff_forall_ne_some]
      exact fun text htext => h text (fromUTF8?_eq_some_iff.1 htext)
    rw [load, hbytes]
  | notJson h =>
    rw [load_file, ofText, h]
    rfl
  | longInt h =>
    rw [load_file, ofText, Json.read_eq_longInt_iff.2 h]
    rfl
  | @notAnObject text v hread h =>
    rw [load_file, ofText, hread]
    cases v with
    | object entries => exact absurd rfl (h entries)
    | _ => rfl
  | @noSymbol text entries hread h =>
    have hnone : Fields.symbol? (.object entries) = none := by
      rw [symbol?_eq_none_iff]
      rintro ⟨_, symbol, heq, hsymbol⟩
      obtain rfl := Value.object.inj heq
      exact h symbol hsymbol
    rw [load_file, ofText, hread]
    simp [bind, Except.bind, Value.entries?, hnone]

/-- Reading a text succeeds or fails for one of the reasons. -/
theorem ofText_cases (text : String) :
    (∃ style, Json.read text.toList = .ok style ∧ HasSymbol style) ∨
      ∃ e, FailsWith (.file text.toUTF8) e := by
  cases hread : Json.read text.toList with
  | error e =>
    cases e with
    | malformed => exact .inr ⟨_, .notJson hread⟩
    | longInt => exact .inr ⟨_, .longInt (Json.read_eq_longInt_iff.1 hread)⟩
  | ok style =>
    by_cases hobject : ∃ entries, style = .object entries
    · obtain ⟨entries, rfl⟩ := hobject
      by_cases hsymbol : HasSymbol (.object entries)
      · exact .inl ⟨_, rfl, hsymbol⟩
      · exact .inr ⟨_, .noSymbol hread fun symbol h => hsymbol ⟨entries, symbol, rfl, h⟩⟩
    · exact .inr ⟨_, .notAnObject hread fun entries h => hobject ⟨entries, h⟩⟩

/-- Reading what is found at a path gives a style with a symbol, or it fails for
    one of the reasons. -/
theorem load_cases (state : FileState) :
    (∃ text style, state = .file (String.toUTF8 text) ∧ Json.read text.toList = .ok style ∧
      HasSymbol style ∧ load state = .ok style) ∨
    ∃ e, FailsWith state e ∧ load state = .error e := by
  have hfails : ∀ {e}, FailsWith state e → ∃ e, FailsWith state e ∧ load state = .error e :=
    fun h => ⟨_, h, h.load_eq⟩
  cases state with
  | missing => exact .inr (hfails .missing)
  | directory => exact .inr (hfails .directory)
  | file bytes =>
    by_cases htext : ∃ text : String, bytes = text.toUTF8
    · obtain ⟨text, rfl⟩ := htext
      rcases ofText_cases text with ⟨style, hread, hsymbol⟩ | ⟨e, he⟩
      · exact .inl ⟨text, style, rfl, hread, hsymbol, (load_file text).trans
          (ofText_eq_ok hread hsymbol)⟩
      · exact .inr (hfails he)
    · exact .inr (hfails (.notText fun text h => htext ⟨text, h⟩))

/-- Reading fails for these reasons only, and one at a time. -/
theorem load_eq_error_iff {state : FileState} {e : LoadError} :
    load state = .error e ↔ FailsWith state e := by
  constructor
  · intro h
    rcases load_cases state with ⟨_, style, -, -, -, hload⟩ | ⟨e', he', hload⟩
    · rw [hload] at h
      cases h
    · obtain rfl := Except.error.inj (hload.symm.trans h)
      exact he'
  · exact FailsWith.load_eq

theorem hasSymbol_of_load {state : FileState} {style : Value} (h : load state = .ok style) :
    HasSymbol style := by
  rcases load_cases state with ⟨_, style', -, -, hsymbol, hload⟩ | ⟨e, -, hload⟩
  · obtain rfl := Except.ok.inj (hload.symm.trans h)
    exact hsymbol
  · rw [hload] at h
    cases h

/-! ## Failures without a message -/

/-- The file is not text, or its text goes well up to a whole number of too many
    digits. -/
inductive IsUndecodable : FileState → Prop
  | notText {bytes : ByteArray} (h : ∀ text : String, bytes ≠ text.toUTF8) :
      IsUndecodable (.file bytes)
  | longInt {text : String} (h : Json.StopsAtLongInt text.toList) :
      IsUndecodable (.file text.toUTF8)

theorem isUndecodable_iff {state : FileState} :
    IsUndecodable state ↔ FailsWith state .notText ∨ FailsWith state .longInt := by
  constructor
  · intro h
    cases h with
    | notText h => exact .inl (.notText h)
    | longInt h => exact .inr (.longInt h)
  · rintro (h | h)
    · cases h with
      | notText h => exact .notText h
    · cases h with
      | longInt h => exact .longInt h

/-- A text without so many digits in a row is never undecodable. -/
theorem not_isUndecodable {text : String} (h : ∀ ds, ds <:+: text.toList →
    (∀ c ∈ ds, Text.isAsciiDigit c) → ds.length ≤ Json.digitLimit) :
    ¬ IsUndecodable (.file text.toUTF8) := by
  intro hstate
  generalize hbytes : FileState.file text.toUTF8 = state at hstate
  cases hstate with
  | notText hother => exact hother text (FileState.file.inj hbytes).symm
  | longInt hstops =>
    obtain rfl := toUTF8_inj (FileState.file.inj hbytes)
    obtain ⟨ds, hds, hdigits, hlength⟩ := hstops.exists_digits
    have hshort := h ds hds hdigits
    omega

/-- A failure has a message unless the file is undecodable. -/
theorem message?_eq_none_iff {state : FileState} {e : LoadError} (h : load state = .error e)
    (path : String) : e.message? path = none ↔ IsUndecodable state := by
  rw [isUndecodable_iff, ← load_eq_error_iff, ← load_eq_error_iff, h]
  cases e <;> simp [LoadError.message?]

end Style

/-! ## What the command prints -/

namespace CommandLine

/-- The command ends with a message, which is logged and then printed, and does
    nothing else. -/
def Report.tells (message : String) : Report :=
  ⟨1, "", s!"ERROR styleshader.cli: Style compilation failed: {message}\n"
    ++ echoed s!"Error: {message}", none, []⟩

theorem Report.failure_eq_tells (message : String) :
    Report.failure "" "" false (some message) = .tells message := by
  show Report.mk 1 "" ("" ++ _ ++ _) none [] = _
  rw [String.empty_append]
  rfl

/-- A file that is not read ends the command, with its message if there is one. -/
theorem compile_of_load_error {look : String → FileState} {path : String}
    {outputDir : Option String} {verbose : Bool} {e : LoadError}
    (huse : compile look path outputDir verbose ≠ .misuse)
    (hload : Style.load (look (Path.shown path)) = .error e) :
    (∀ message, e.message? (Path.shown path) = some message →
      compile look path outputDir verbose = .tells message) ∧
    (e.message? (Path.shown path) = none →
      ∃ cause, compile look path outputDir verbose = .interrupted "" "" cause []) := by
  unfold compile at huse ⊢
  dsimp only at huse ⊢
  have hpath : path ≠ "" := by
    rintro rfl
    simp at huse
  rw [if_neg hpath] at huse ⊢
  rw [hload] at huse ⊢
  split_ifs at huse ⊢ with hmisuse
  · exact absurd rfl huse
  · constructor
    · intro message hmessage
      cases e with
      | notText => cases hmessage
      | longInt => cases hmessage
      | _ =>
        obtain rfl := Option.some.inj hmessage
        exact Report.failure_eq_tells _
    · intro hnone
      cases e with
      | notText => exact ⟨_, rfl⟩
      | longInt => exact ⟨_, rfl⟩
      | _ => cases hnone

end CommandLine

namespace Style

/-- A file that is read gives a style with a symbol. One that is not read is
    reported with a message, by itself and by the command, unless it is
    undecodable: then there is no message, and the command is cut short. Only bytes
    that are no text, or more than 4300 digits in a row, make a file so. -/
theorem load_reports_unless_undecodable (state : FileState) :
    (∀ style, load state = .ok style → HasSymbol style) ∧
    (∀ e path, load state = .error e →
      ((∃ message, e.message? path = some message) ↔ ¬ IsUndecodable state)) ∧
    (∀ look path outputDir verbose e, look (CommandLine.Path.shown path) = state →
      CommandLine.compile look path outputDir verbose ≠ .misuse → load state = .error e →
      (¬ IsUndecodable state → ∃ message, e.message? (CommandLine.Path.shown path) = some message ∧
        CommandLine.compile look path outputDir verbose = .tells message) ∧
      (IsUndecodable state → ∃ cause,
        CommandLine.compile look path outputDir verbose = .interrupted "" "" cause [])) ∧
    (∀ text : String, state = .file text.toUTF8 →
      (∀ ds, ds <:+: text.toList → (∀ c ∈ ds, Text.isAsciiDigit c) → ds.length ≤ 4300) →
      ¬ IsUndecodable state) := by
  have hmessage : ∀ e path, load state = .error e →
      ((∃ message, e.message? path = some message) ↔ ¬ IsUndecodable state) := by
    intro e path hload
    rw [← message?_eq_none_iff hload path, ← Option.isSome_iff_exists, Option.isSome_iff_ne_none]
  refine ⟨fun style => hasSymbol_of_load, hmessage, ?_, ?_⟩
  · rintro look path outputDir verbose e rfl huse hload
    obtain ⟨htells, hinterrupted⟩ := CommandLine.compile_of_load_error huse hload
    constructor
    · intro hstate
      obtain ⟨message, hsome⟩ := (hmessage e _ hload).2 hstate
      exact ⟨message, hsome, htells message hsome⟩
    · intro hstate
      exact hinterrupted ((message?_eq_none_iff hload _).2 hstate)
  · rintro text rfl hdigits
    exact not_isUndecodable hdigits

/-- The word `"é"` in a text that is encoded as Latin-1. -/
def latinName : FileState := .file ⟨#[0x22, 0xe9, 0x22]⟩

/-- Such a file is not read, but there is no message, and wherever it is, the
    command is cut short. -/
theorem latinName_escapes :
    load latinName = .error .notText ∧ (∀ path, LoadError.notText.message? path = none) ∧
      ∀ path outputDir verbose,
        CommandLine.compile (fun _ => latinName) path outputDir verbose ≠ .misuse →
        ∃ cause, CommandLine.compile (fun _ => latinName) path outputDir verbose
          = .interrupted "" "" cause [] := by
  have hload : load latinName = .error .notText := by
    have hbytes : String.fromUTF8? ⟨#[0x22, 0xe9, 0x22]⟩ = none := by decide +kernel
    rw [latinName, load, hbytes]
  refine ⟨hload, fun _ => rfl, ?_⟩
  intro path outputDir verbose huse
  exact (CommandLine.compile_of_load_error huse hload).2 rfl

end Style

end SymbolStyle

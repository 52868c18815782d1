import SymbolStyle.CommandLine.Report
import SymbolStyle.Proofs.Glsl.Constant
import SymbolStyle.Proofs.Json.RoundTrip
import SymbolStyle.Proofs.Message
import SymbolStyle.Proofs.Style.Document
import SymbolStyle.Proofs.Style.Refusal
import SymbolStyle.Proofs.Written

/-! # Messages of one line

    The message for an error is a single line, whatever texts and bytes stand in what
    it is about.

    What a user has written comes into a message only as a written value, and these
    are made of printable characters. So are the words around it, and no printable
    character ends a line. An error about an expression or a style without a number
    that is too long does have a message, since it quotes a part of it.

    * `ExpressionError.isShown_of_message?`, `StyleError.isShown_of_message?`: what
      messages are made of.
    * `Glsl.isPart_of_colorOf`, `Glsl.quoted_of_vectorOf`: what the errors about
      constants quote.
    * `messages_areLines`: the messages that there are, and the line with which a
      command ends.

    A message about a file is another matter. It shows the path as it is
    (`LoadError.isOneLine_iff`).
-/

namespace SymbolStyle

open Text Value

/-! ## Lines -/

/-- The characters that end a line. -/
def IsLineBreak (c : Char) : Prop :=
  0x0a ≤ c.toNat ∧ c.toNat ≤ 0x0d ∨ 0x1c ≤ c.toNat ∧ c.toNat ≤ 0x1e ∨ c.toNat = 0x85 ∨
    c.toNat = 0x2028 ∨ c.toNat = 0x2029

instance : DecidablePred IsLineBreak := fun _ => inferInstanceAs (Decidable (_ ∨ _))

/-- No line ends in the text. -/
def IsOneLine (text : String) : Prop := ∀ c ∈ text.toList, ¬ IsLineBreak c

instance : DecidablePred IsOneLine := fun _ => inferInstanceAs (Decidable (∀ c ∈ _, _))

/-- The text is made of printable characters. -/
def IsShown (text : String) : Prop := ∀ c ∈ text.toList, isPrintable c

instance : DecidablePred IsShown := fun _ => inferInstanceAs (Decidable (∀ c ∈ _, _))

theorem not_isLineBreak_of_isPrintable {c : Char} (h : isPrintable c) : ¬ IsLineBreak c := by
  have hlow : ¬ c.toNat < 0x20 := by
    intro hlow
    rw [isPrintable, if_pos (hlow.trans (by decide)), decide_eq_true_eq] at h
    exact absurd hlow (Nat.not_lt.2 h)
  have hother : ∀ d, isPrintable d = false → c.toNat ≠ d.toNat := by
    intro d hd heq
    rw [← Char.toNat_inj.1 heq, h] at hd
    cases hd
  have hnext : c.toNat ≠ 0x85 := hother '\u0085' (by decide)
  have hline : c.toNat ≠ 0x2028 := hother '\u2028' (by decide +kernel)
  have hparagraph : c.toNat ≠ 0x2029 := hother '\u2029' (by decide +kernel)
  unfold IsLineBreak
  omega

theorem IsShown.isOneLine {text : String} (h : IsShown text) : IsOneLine text :=
  fun c hc => not_isLineBreak_of_isPrintable (h c hc)

theorem isShown_append {text other : String} :
    IsShown (text ++ other) ↔ IsShown text ∧ IsShown other := by
  rw [IsShown, String.toList_append, List.forall_mem_append]
  rfl

theorem isShown_toString {text : String} : IsShown (toString text) ↔ IsShown text := Iff.rfl

theorem isShown_repr (n : Nat) : IsShown (toString n) := by
  intro c hc
  rw [show (toString n).toList = Nat.toDigits 10 n from Nat.toList_repr] at hc
  exact isPrintable_of_isVisible (Decimal.isVisible_of_mem_digits c hc)

/-! ## Messages -/

theorem Value.isShown_of_plain? {v : Value} {text : String} (h : v.plain? = some text) :
    IsShown text := by
  unfold plain? at h
  split at h
  · cases h
  · obtain rfl := Option.some.inj h
    rw [IsShown, String.toList_ofList]
    exact forall_mem_write Spelling.plain_isMadeOf v

theorem Value.isShown_of_describe? {v : Value} {text : String} (h : v.describe? = some text) :
    IsShown text := by
  unfold describe? at h
  split at h
  · cases h
  · obtain rfl := Option.some.inj h
    rw [IsShown, String.toList_ofList]
    split
    · exact forall_mem_write Spelling.plain_isMadeOf v
    · exact fun c hc => isPrintable_of_isVisible (forall_mem_write Spelling.json_isMadeOf v c hc)

/-- Words around a written value. -/
theorem isShown_of_bind {text? : Option String} {words : String → String} {message : String}
    (htext : ∀ text, text? = some text → IsShown text)
    (hwords : ∀ text, IsShown text → IsShown (words text))
    (h : (text?.bind fun text => some (words text)) = some message) : IsShown message := by
  obtain ⟨text, hsome, heq⟩ := Option.bind_eq_some_iff.1 h
  obtain rfl := Option.some.inj heq
  exact hwords text (htext text hsome)

theorem Operator.isShown_tag (op : Operator) : IsShown op.tag := by
  cases op <;> decide

theorem Kind.isShown_label (k : Kind) : IsShown k.label := by
  cases k <;> decide

theorem Field.isShown_name (field : Field) : IsShown field.name := by
  cases field <;> decide

theorem Slot.isShown_label (slot : Slot) : IsShown slot.label := by
  unfold label
  split
  · exact slot.field.isShown_name
  · simp +decide only [isShown_append, isShown_toString, slot.field.isShown_name, isShown_repr]

/-- The message for an error in an expression. -/
theorem ExpressionError.isShown_of_message? {e : ExpressionError} {message : String}
    (h : e.message? = some message) : IsShown message := by
  unfold message? at h
  split at h
  all_goals
    refine isShown_of_bind (fun _ => Value.isShown_of_describe?) (fun text htext => ?_) h
    simp +decide only [isShown_append, isShown_toString, Operator.isShown_tag, Kind.isShown_label,
      isShown_repr, htext]

/-- The message for an error in a style. -/
theorem StyleError.isShown_of_message? {e : StyleError} {message : String}
    (h : e.message? = some message) : IsShown message := by
  unfold message? at h
  split at h
  case h_1 =>
    obtain rfl := Option.some.inj h
    decide
  case h_3 | h_4 => exact ExpressionError.isShown_of_message? h
  case h_6 | h_8 => cases h
  case h_7 =>
    refine isShown_of_bind (fun _ => Value.isShown_of_plain?) (fun text htext => ?_) h
    simp +decide only [isShown_append, htext]
  all_goals
    refine isShown_of_bind (fun _ => Value.isShown_of_describe?) (fun text htext => ?_) h
    simp +decide only [isShown_append, isShown_toString, Field.isShown_name, Slot.isShown_label,
      Kind.isShown_label, isShown_repr, htext]

/-- There is a message, and it is a single line. -/
def HasLine (message? : Option String) : Prop :=
  ∃ message, message? = some message ∧ IsOneLine message

theorem ExpressionError.hasLine {e : ExpressionError} (h : e.quoted.hasLongInt = false) :
    HasLine e.message? := by
  obtain ⟨message, hmessage⟩ := Option.isSome_iff_exists.1 (isSome_message?_iff.2 h)
  exact ⟨message, hmessage, (isShown_of_message? hmessage).isOneLine⟩

theorem StyleError.hasLine {e : StyleError} (h : e.message?.isSome) : HasLine e.message? := by
  obtain ⟨message, hmessage⟩ := Option.isSome_iff_exists.1 h
  exact ⟨message, hmessage, (isShown_of_message? hmessage).isOneLine⟩

/-! ## Errors about constants -/

theorem Value.isPart_of_channels {v : Value} {e : ExpressionError} (h : v.channels = .error e) :
    e.quoted.IsPart v := by
  unfold channels at h
  split at h
  · split at h
    · cases h
    · cases h
      exact .refl
  · split at h
    · cases h
    · cases h
      exact .refl
  · cases h
    exact .refl

namespace Glsl

/-- The error about a color quotes a part of it. -/
theorem isPart_of_colorOf {v : Value} {e : ExpressionError}
    (h : colorOf v = .error (.expression e)) : e.quoted.IsPart v := by
  cases hchannels : v.channels with
  | error cause =>
    have herror : colorOf v = .error (.expression cause) := by
      simp [colorOf, hchannels, Except.mapError, bind, Except.bind]
    obtain rfl : cause = e := Fault.expression.inj (Except.error.inj (herror.symm.trans h))
    exact Value.isPart_of_channels hchannels
  | ok channels =>
    cases v with
    | string text =>
      -- A text with channels is a color.
      have hcolor : isColorText text := by
        rw [Value.channels] at hchannels
        split at hchannels
        · next color hread => rw [isColorText, hread, Option.isSome_some]
        · cases hchannels
      obtain ⟨_, _, _, _, hok⟩ := exists_colorOf_of_isColorText hcolor
      rw [hok] at h
      cases h
    | sequence form items =>
      -- A sequence with channels consists of numbers, and these are its channels.
      by_cases hnumbers : items.all Value.isNumber
      · have hitems := List.all_eq_true.1 hnumbers
        by_cases hcount : items.length = 3 ∨ items.length = 4
        · rcases colorOf_cases form hitems hcount with
            ⟨-, -, tree, hok⟩ | ⟨-, channel, hmem, -, herror⟩ | ⟨-, herror⟩
          · rw [hok] at h
            cases h
          · obtain rfl := Fault.expression.inj (Except.error.inj (herror.symm.trans h))
            exact .item hmem .refl
          · rw [herror] at h
            cases h
        · have herror := colorOf_of_wrong_count (channels_of_isNumber form hitems)
            (not_or.1 hcount)
          obtain rfl := Fault.expression.inj (Except.error.inj (herror.symm.trans h))
          exact .refl
      · rw [Value.channels, if_neg hnumbers] at hchannels
        cases hchannels
    | _ => cases hchannels

/-- The error about a vector quotes all components or one of them. -/
theorem quoted_of_vectorOf {components : List Value} {e : ExpressionError}
    (h : vectorOf components = .error (.expression e)) :
    e.quoted = .sequence .list components ∨ e.quoted ∈ components := by
  unfold vectorOf at h
  split at h
  · cases h
    exact .inl rfl
  · rcases bind_eq_error_iff.1 h with hliterals | ⟨literals, -, hcall⟩
    · obtain ⟨before, c, after, rfl, -, hliteral⟩ := mapM_eq_error_iff.1 hliterals
      have hc : e = .nonFinite c c := by
        unfold literalOf at hliteral
        split at hliteral <;> cases hliteral <;> rfl
      subst hc
      exact .inr (by simp [ExpressionError.quoted])
    · cases hcall

end Glsl

/-- The parts of a value can be written if the value can. -/
theorem Value.hasLongInt_of_parts? {v : Value} {parts : List Value} (h : v.parts? = some parts)
    (hv : v.hasLongInt = false) : ∀ part ∈ parts, part.hasLongInt = false := by
  cases v with
  | sequence form items =>
    cases h
    rwa [hasLongInt, anyLongInt_eq_false_iff] at hv
  | bytes bs =>
    cases h
    have hbound : 256 < longInt := by decide +kernel
    intro part hpart
    obtain ⟨b, -, rfl⟩ := List.mem_map.1 hpart
    have hb := b.toNat_lt
    rw [hasLongInt, decide_eq_false_iff_not]
    omega
  | string text =>
    cases h
    intro part hpart
    obtain ⟨c, -, rfl⟩ := List.mem_map.1 hpart
    rfl
  | object entries =>
    cases h
    intro part hpart
    obtain ⟨entry, -, rfl⟩ := List.mem_map.1 hpart
    rfl
  | _ => cases h

/-! ## Errors about files -/

theorem isOneLine_append {text other : String} :
    IsOneLine (text ++ other) ↔ IsOneLine text ∧ IsOneLine other := by
  rw [IsOneLine, String.toList_append, List.forall_mem_append]
  rfl

/-- The message for a file that is not read is a single line exactly if the path is,
    since it shows the path as it is. -/
theorem LoadError.isOneLine_iff {path message : String} {e : LoadError}
    (h : e.message? path = some message) : IsOneLine message ↔ IsOneLine path := by
  unfold message? at h
  split at h
  case h_6 | h_7 => cases h
  all_goals
    obtain rfl := Option.some.inj h
    simp +decide only [isOneLine_append, true_and, and_true]
    exact Iff.rfl

/-! ## What commands show -/

namespace CommandLine

open Terminal

theorem withoutSequences_eq_self {cs : List Char} (h : ∀ c ∈ cs, isPrintable c) :
    withoutSequences cs = cs := by
  fun_induction withoutSequences cs with
  | case1 => rfl
  | case2 rest => exact absurd (h '\x1b' List.mem_cons_self) (by decide)
  | case3 rest => exact absurd (h '\x1b' List.mem_cons_self) (by decide)
  | case4 c rest _ ih => rw [ih fun d hd => h d (List.mem_cons_of_mem _ hd)]

/-- The command fails, and what it shows last is an error in one line. The message
    stands in the log before. -/
structure Report.ShowsLine (report : Report) : Prop where
  exitCode_eq : report.exitCode = 1
  interruption_eq : report.interruption = none
  stderr_eq : ∃ log what message : String, IsOneLine message ∧ report.stderr
    = log ++ s!"ERROR styleshader.cli: {what}: {message}\n" ++ s!"Error: {message}\n"

theorem failure_showsLine {stdout stderr : String} {concernsExpression : Bool}
    {message? : Option String} (hsome : message?.isSome)
    (hshown : ∀ message, message? = some message → IsShown message) :
    (Report.failure stdout stderr concernsExpression message?).ShowsLine := by
  obtain ⟨message, rfl⟩ := Option.isSome_iff_exists.1 hsome
  have hmessage := hshown message rfl
  have hline : IsShown s!"Error: {message}" := by
    simp +decide only [isShown_append, isShown_toString, hmessage]
  have hecho : echoed s!"Error: {message}" = s!"Error: {message}\n" := by
    rw [echoed, withoutSequences_eq_self hline, String.ofList_toList]
    rfl
  refine ⟨rfl, rfl, stderr, if concernsExpression then "Invalid expression" else
    "Style compilation failed", message, hmessage.isOneLine, ?_⟩
  rw [← hecho]
  rfl

/-- An expression that is read but not compiled. -/
theorem check_showsLine {expression : String} {v : Value} {fault : Fault}
    (hread : Json.read expression.toList = .ok v)
    (h : v.compile Style.attributeStem none .empty = .error fault) :
    (check expression).ShowsLine := by
  have hv := (Json.isDocument_of_read hread).fitsJson.hasLongInt_eq_false
  obtain ⟨e, rfl, hpoints⟩ := pointsInto_of_compile h
  rw [check, hread]
  simp only [h]
  exact failure_showsLine (hpoints.isSome_message? hv) fun _ => ExpressionError.isShown_of_message?

/-- A style that is read but not compiled. -/
theorem compileStyle_showsLine {style : Value} {e : StyleError} (hstyle : style.hasLongInt = false)
    (h : (Style.compile style).result = .error e) (path : String) (outputDir : Option String)
    (blocked verbose : Bool) : (compileStyle path style outputDir blocked verbose).ShowsLine := by
  have hsome := ((Style.result_eq_error_iff hstyle).1 h).isSome_message? hstyle
  rw [compileStyle, h]
  exact failure_showsLine hsome fun _ => StyleError.isShown_of_message?

/-- What is loaded can be written. -/
theorem hasLongInt_of_load {state : FileState} {style : Value} (h : Style.load state = .ok style) :
    style.hasLongInt = false := by
  rcases Style.load_cases state with ⟨text, style', -, hread, -, hok⟩ | ⟨e, -, herror⟩
  · obtain rfl := Except.ok.inj (hok.symm.trans h)
    exact (Json.isDocument_of_read hread).fitsJson.hasLongInt_eq_false
  · rw [herror] at h
    cases h

/-- A style that is loaded but not compiled. Arguments that are wrong come first. -/
theorem compile_showsLine {look : String → FileState} {path : String} {style : Value}
    {e : StyleError} (hload : Style.load (look (Path.shown path)) = .ok style)
    (h : (Style.compile style).result = .error e) (outputDir : Option String) (verbose : Bool) :
    compile look path outputDir verbose = .misuse ∨
      (compile look path outputDir verbose).ShowsLine := by
  unfold compile
  by_cases hpath : path = ""
  · exact .inl (by simp [hpath])
  · simp only [if_neg hpath, hload]
    split_ifs with hwrong
    · exact .inl rfl
    · exact .inr (compileStyle_showsLine (hasLongInt_of_load hload) h _ _ _ _)

end CommandLine

/-- Whatever is wrong with a value or a style, there is a message for it, and it is a
    single line, if no number is too long to be written. Compiling, writing constants
    and reading channels fail with such errors, too. So where an expression or a style
    is read by a command but is wrong, the command ends with one line that says so. -/
theorem messages_areLines :
    (∀ v : Value, v.hasLongInt = false →
      (∀ e, v.validate = .error e → HasLine e.message?) ∧
      (∀ stem wanted names fault, v.compile stem wanted names = .error fault →
        ∃ e, fault = .expression e ∧ HasLine e.message?) ∧
      (∀ parts e, v.parts? = some parts → Glsl.vectorOf parts = .error (.expression e) →
        HasLine e.message?) ∧
      (∀ e, Glsl.colorOf v = .error (.expression e) → HasLine e.message?) ∧
      ∀ e, v.channels = .error e → HasLine e.message?) ∧
    (∀ style e, style.hasLongInt = false → (Style.compile style).result = .error e →
      HasLine e.message?) ∧
    (∀ expression v fault, Json.read expression.toList = .ok v →
      v.compile Style.attributeStem none .empty = .error fault →
      (CommandLine.check expression).ShowsLine) ∧
    ∀ look path style e outputDir verbose,
      Style.load (look (CommandLine.Path.shown path)) = .ok style →
      (Style.compile style).result = .error e →
      CommandLine.compile look path outputDir verbose = .misuse ∨
        (CommandLine.compile look path outputDir verbose).ShowsLine := by
  refine ⟨fun v hv => ⟨?_, ?_, ?_, ?_, ?_⟩, ?_, ?_, ?_⟩
  · intro e h
    exact e.hasLine ((blames_of_validate_eq_error h).quoted.hasLongInt_eq_false hv)
  · intro stem wanted names fault h
    obtain ⟨e, rfl, hpoints⟩ := pointsInto_of_compile h
    exact ⟨e, rfl, e.hasLine (hpoints.quoted.hasLongInt_eq_false hv)⟩
  · intro parts e hparts h
    have hall := hasLongInt_of_parts? hparts hv
    apply e.hasLine
    rcases Glsl.quoted_of_vectorOf h with hquoted | hmem
    · rw [hquoted, hasLongInt, anyLongInt_eq_false_iff]
      exact hall
    · exact hall _ hmem
  · intro e h
    exact e.hasLine ((Glsl.isPart_of_colorOf h).hasLongInt_eq_false hv)
  · intro e h
    exact e.hasLine ((isPart_of_channels h).hasLongInt_eq_false hv)
  · intro style e hstyle h
    exact e.hasLine (((Style.result_eq_error_iff hstyle).1 h).isSome_message? hstyle)
  · intro expression v fault
    exact CommandLine.check_showsLine
  · intro look path style e outputDir verbose hload h
    exact CommandLine.compile_showsLine hload h outputDir verbose

/-- An operator that does not exist, with a line break in its name. -/
def brokenTurn : Value := .sequence .list [.string "turn\nleft"]

/-- The same with a line break in bytes next to it. -/
def brokenBytes : Value := .sequence .tuple [.string "turn\nleft", .bytes [10]]

/-- A symbol with a component too many, which has a line break in it. -/
def brokenSize : Value :=
  .object [("symbol", .object [("size", .sequence .list [.int 1, .string "a\nb", .int 3])])]

/-- The file of a value. -/
def fileOf (v : Value) : FileState := .file (String.ofList (v.write .json)).toUTF8

theorem brokenTurn_fitsJson : brokenTurn.FitsJson :=
  .sequence .list (List.forall_mem_singleton.2 (.string _))

theorem brokenSize_fitsJson : brokenSize.FitsJson := by
  refine .object (by simp) (List.forall_mem_singleton.2 (.object (by simp) ?_))
  refine List.forall_mem_singleton.2 (.sequence .list ?_)
  simp only [List.forall_mem_cons, List.not_mem_nil, false_implies, implies_true, and_true]
  exact ⟨.int (by decide +kernel), .string _, .int (by decide +kernel)⟩

/-- Each of them is wrong in its way, and the messages are single lines, also where the
    command line reads the values from a document. -/
theorem broken_areLines :
    (brokenBytes.hasLongInt = false ∧
      brokenBytes.validate = .error (.unknownOperator brokenBytes) ∧
      HasLine (ExpressionError.unknownOperator brokenBytes).message? ∧
      Glsl.colorOf brokenBytes = .error (.expression (.colorValue brokenBytes)) ∧
      HasLine (ExpressionError.colorValue brokenBytes).message?) ∧
    (brokenSize.hasLongInt = false ∧ ∃ found,
      (Style.compile brokenSize).result = .error (.components .size 2 found) ∧
      HasLine (StyleError.components .size 2 found).message?) ∧
    (Json.read (brokenTurn.write .json) = .ok brokenTurn ∧
      (CommandLine.check (String.ofList (brokenTurn.write .json))).ShowsLine) ∧
    Style.load (fileOf brokenSize) = .ok brokenSize ∧
      (CommandLine.compile (fun _ => fileOf brokenSize) "style.json" none false = .misuse ∨
        (CommandLine.compile (fun _ => fileOf brokenSize) "style.json" none false).ShowsLine) := by
  obtain ⟨hvalue, hstyle, hcheck, hcompile⟩ := messages_areLines
  have hbytes : brokenBytes.hasLongInt = false := rfl
  have hsize := brokenSize_fitsJson.hasLongInt_eq_false
  have hvalidate : ∀ {form rest}, (Value.sequence form (.string "turn\nleft" :: rest)).validate
      = .error (.unknownOperator (.sequence form (.string "turn\nleft" :: rest))) := by
    intro form rest
    rw [validate]
    rfl
  have hcolor : Glsl.colorOf brokenBytes = .error (.expression (.colorValue brokenBytes)) := rfl
  have hresult : (Style.compile brokenSize).result
      = .error (.components .size 2 (.sequence .list [.int 1, .string "a\nb", .int 3])) := rfl
  have hread : Json.read (brokenTurn.write .json) = .ok brokenTurn :=
    Json.read_write brokenTurn_fitsJson
  have hturn : brokenTurn.compile Style.attributeStem none .empty
      = .error (.expression (.unknownOperator brokenTurn)) :=
    compile_of_validate_error hvalidate _ _ _
  have hload : Style.load (fileOf brokenSize) = .ok brokenSize := by
    rw [fileOf, Style.load_file]
    apply Style.ofText_eq_ok
    · rw [String.toList_ofList, Json.read_write brokenSize_fitsJson]
      rfl
    · exact ⟨_, _, rfl, rfl⟩
  refine ⟨⟨hbytes, hvalidate, (hvalue _ hbytes).1 _ hvalidate, hcolor,
    (hvalue _ hbytes).2.2.2.1 _ hcolor⟩, ⟨hsize, _, hresult, hstyle _ _ hsize hresult⟩,
    ⟨hread, hcheck _ _ _ ?_ hturn⟩, hload, hcompile _ _ _ _ none false hload hresult⟩
  rw [String.toList_ofList, hread]

example : (ExpressionError.unknownOperator brokenBytes).message?
    = some "Unrecognized operator in style expression: ('turn\\nleft', b'\\n')" := by
  decide +kernel

end SymbolStyle

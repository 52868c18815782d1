import SymbolStyle.CommandLine.Arguments
import SymbolStyle.CommandLine.Path
import SymbolStyle.Style.Document
import SymbolStyle.Style.Variables
import SymbolStyle.Terminal.Escape
import SymbolStyle.Terminal.Markup
import SymbolStyle.Terminal.Table

/-! # What a command does

    The effects of a command as a value: the texts it prints, the files it
    writes and its exit code, computed from the arguments and from what is
    found at the paths in them.

    * Exit code 2 says that the arguments are wrong, exit code 1 that the
      expression or the style is.
    * Errors and notices appear on the error output. Notices that are not
      warnings appear only on request.
    * Names and values are printed as marked-up texts: a name with a tag in it
      shows without the tag. Code is printed as it is, apart from escape
      sequences.
-/

namespace SymbolStyle.CommandLine

open Terminal

/-- Why a command ends without a message of its own. -/
inductive Interruption where
  /-- A file is not text. -/
  | notText
  /-- A number is too long to be read or written. -/
  | longInt
  /-- A path leads through a file. -/
  | throughFile
  /-- A marked-up text cannot be shown. -/
  | markup (fault : MarkupFault)
  deriving DecidableEq

/-- Lines as a text. -/
def unlines (lines : List String) : String := String.join (lines.map (· ++ "\n"))

/-- A text as it is printed without looking for tags in it. -/
def echoed (text : String) : String := String.ofList (withoutSequences text.toList) ++ "\n"

/-- A marked-up text as it is printed. -/
def printed (text : String) : Except MarkupFault String :=
  return unlines ((brokenLines terminalWidth .fold (← shown text)).map String.ofList)

/-- Texts that are printed in turn, up to the first that cannot be shown, and
    why that one cannot. -/
def printedInTurn : List (Except MarkupFault String) → String × Option MarkupFault
  | [] => ("", none)
  | .error fault :: _ => ("", some fault)
  | .ok text :: rest =>
    let (texts, fault) := printedInTurn rest
    (text ++ texts, fault)

/-- The effects of a command. -/
structure Report where
  exitCode : Nat
  stdout : String
  stderr : String
  /-- What cut the command short, if anything did. -/
  interruption : Option Interruption
  /-- Paths and texts of the files that are written. -/
  files : List (String × String)

namespace Report

/-- The arguments are wrong. What is printed then is no concern of this
    module. -/
def misuse : Report := ⟨2, "", "", none, []⟩

/-- The command ended well. -/
def success (stdout stderr : String) (files : List (String × String)) : Report :=
  ⟨0, stdout, stderr, none, files⟩

/-- The command was cut short. -/
def interrupted (stdout stderr : String) (cause : Interruption)
    (files : List (String × String)) : Report :=
  ⟨1, stdout, stderr, some cause, files⟩

/-- The command did its work and prints texts in turn. -/
def printing (outputs : List (Except MarkupFault String)) (stderr : String)
    (files : List (String × String)) : Report :=
  match printedInTurn outputs with
  | (stdout, none) => success stdout stderr files
  | (stdout, some fault) => interrupted stdout stderr (.markup fault) files

/-- The command ended with an error, which is logged and then printed. An
    error that cannot be worded cuts the command short. -/
def failure (stdout stderr : String) (concernsExpression : Bool) (message? : Option String) :
    Report :=
  match message? with
  | none => interrupted stdout stderr .longInt []
  | some message =>
    let what := if concernsExpression then "Invalid expression" else "Style compilation failed"
    let logged := s!"ERROR styleshader.cli: {what}: {message}\n"
    ⟨1, stdout, stderr ++ logged ++ echoed s!"Error: {message}", none, []⟩

end Report

/-- Names as they are listed, or a word that there are none. -/
def listed (names : List String) : String :=
  let text := ", ".intercalate names
  if text = "" then "none" else text

/-- The place in the log of what notices are about. -/
def logName : Topic → String
  | .loading => "style_loader"
  | .compiling => "literal_style"
  | .rendering => "shader_builder"

/-- The log of notices. -/
def log (verbose : Bool) (notices : List Notice) : String :=
  unlines <| notices.filterMap fun notice => do
    let message ← notice.message?
    match notice.level with
    | .warning => some s!"WARNING styleshader.{logName notice.topic}: {message}"
    | .debug =>
      if verbose then some s!"DEBUG styleshader.{logName notice.topic}: {message}" else none

/-! ### Checking an expression -/

/-- Checks and compiles an expression. -/
def check (expression : String) : Report :=
  match Json.read expression.toList with
  | .error .malformed => .misuse
  | .error .longInt => .interrupted "" "" .longInt []
  | .ok v =>
    let head := s!"Kind: {v.kind.label}\n"
    match v.compile Style.attributeStem none .empty with
    | .ok (code, names) =>
      .printing
        [.ok (head ++ echoed code), printed ("Attributes: " ++ listed names.attributeNames),
          printed ("Variables: " ++ listed names.variableNames)] "" []
    | .error (.expression e) => .failure head "" true e.message?
    | .error (.conversion _) => .interrupted head "" .longInt []

/-! ### Compiling a style -/

/-- Where the value of a uniform comes from, and the value. -/
def sourceAndValue : UniformValue → String × String
  | .value v => ("variable", v.display?.getD "")
  | .texture source => ("texture", source)

/-- The table of the uniforms of a compiled style. The names are looked at
    before the values. -/
def uniformTable (style : Value) (compiled : CompiledStyle) : Except MarkupFault String := do
  let uniforms := Style.readUniforms style compiled.uniforms
  let names ← uniforms.mapM fun (name, _) => shown name
  let values ← uniforms.mapM fun (_, v) => do
    let (source, value) := sourceAndValue v
    return [source.toList, ← shown value]
  let rows := names.zipWith (· :: ·) values
  return unlines (table "Uniforms" ["Name", "Source", "Current value"] rows)

/-- The number of lines of a text. -/
def lineCount (text : String) : Nat := (text.toList.filter (· = '\n')).length + 1

/-- Prints a compiled style, or writes its shaders to a directory. -/
def present (style : Value) (compiled : CompiledStyle) (outputDir : Option String)
    (stderr : String) : Report :=
  let vertex := compiled.program.vertexSource
  let fragment := compiled.program.fragmentSource
  let inputs :=
    [printed ("[bold]Attributes:[/bold] " ++ listed compiled.attributes),
      uniformTable style compiled]
  match outputDir with
  | none =>
    let shaders := unlines [rule "vertex shader"] ++ echoed vertex
      ++ unlines [rule "fragment shader"] ++ echoed fragment
    .printing (.ok shaders :: inputs) stderr []
  | some dir =>
    .printing (printed ("[green]Wrote shaders to " ++ Path.shown dir) :: inputs) stderr
      [(Path.inside dir "symbol.vert", vertex ++ "\n"),
        (Path.inside dir "symbol.frag", fragment ++ "\n")]

/-- Compiles a style that was read from a path. -/
def compileStyle (path : String) (style : Value) (outputDir : Option String)
    (blocked verbose : Bool) : Report :=
  let outcome := Style.compile style
  let notices := Style.loadNotice path style :: outcome.notices
  match outcome.result with
  | .error e => .failure "" (log verbose notices) e.concernsExpression e.message?
  | .ok compiled =>
    let stderr := log verbose <| notices ++
      [.rendered "vertex" (lineCount compiled.program.vertexSource),
        .rendered "fragment" (lineCount compiled.program.fragmentSource)]
    if blocked then .interrupted "" stderr .throughFile []
    else present style compiled outputDir stderr

/-- Compiles the style at a path, given what is found at paths. -/
def compile (look : String → FileState) (path : String) (outputDir : Option String)
    (verbose : Bool) : Report :=
  let found := if path = "" then .missing else look (Path.shown path)
  let isFile := fun state : FileState => match state with
    | .file _ => true
    | _ => false
  let occupied := outputDir.any fun dir =>
    dir ≠ "" && !Path.namesDirectory dir && isFile (look (Path.shown dir))
  let blocked := outputDir.any fun dir => (Path.above dir).any fun above => isFile (look above)
  if !isFile found || Path.namesDirectory path || occupied then .misuse
  else
    match Style.load found with
    | .ok style => compileStyle (Path.shown path) style outputDir blocked verbose
    | .error .notText => .interrupted "" "" .notText []
    | .error .longInt => .interrupted "" "" .longInt []
    | .error e => .failure "" "" false (e.message? (Path.shown path))

/-- What a list of arguments does, given what is found at paths. -/
def respond (look : String → FileState) (args : List String) : Report :=
  match parse? args with
  | none => .misuse
  | some (.check expression) => check expression
  | some (.compile path outputDir verbose) => compile look path outputDir verbose

end SymbolStyle.CommandLine

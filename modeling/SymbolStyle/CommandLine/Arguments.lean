/-! # Command line arguments

    What a list of arguments asks for.

    * `check EXPRESSION` and `compile STYLE` take one positional argument
      each; flags may stand before and after it.
    * An argument that starts with a minus is a flag, or several one-letter
      flags at once. The argument `--` ends the flags.
    * A flag that takes a value has it behind `=`, behind its letter, or in
      the next argument. The last value counts.
-/

namespace SymbolStyle.CommandLine

/-- What a user asks for. -/
inductive Command where
  /-- To check and compile one expression, given as JSON. -/
  | check (expression : String)
  /-- To compile the style in a file, and to write the shaders to a directory
      if one is given. -/
  | compile (style : String) (outputDir : Option String) (verbose : Bool)
  deriving DecidableEq

/-- A flag of a command. -/
inductive Flag where
  /-- Where to write the shaders; takes a value. -/
  | outputDir
  /-- To tell the details, too. -/
  | verbose
  deriving DecidableEq

namespace Flag

/-- The long name of a flag. -/
def name : Flag → String
  | .outputDir => "--output-dir"
  | .verbose => "--verbose"

/-- The letter of a flag. -/
def letter : Flag → Char
  | .outputDir => 'o'
  | .verbose => 'v'

end Flag

/-- What arguments have said so far. -/
structure Given where
  /-- The positional arguments. -/
  positional : List String
  outputDir : Option String
  verbose : Bool

/-- What one argument with flags says. -/
inductive Flagged where
  /-- No value belongs to it. -/
  | plain
  /-- It ends in a flag and its value. -/
  | withValue (value : String)
  /-- The next argument is its value. -/
  | needsValue

/-- Reads one-letter flags behind a minus: whether details are asked for, and
    what becomes of a value. -/
def readLetters (flags : List Flag) : List Char → Option (Bool × Flagged)
  | [] => some (false, .plain)
  | c :: rest =>
    match flags.find? (·.letter = c) with
    | none => none
    | some .verbose => (readLetters flags rest).map fun (_, flagged) => (true, flagged)
    | some .outputDir =>
      some (false, if rest = [] then .needsValue else .withValue (String.ofList rest))

/-- Reads a flag with its long name, which may have a value behind `=`. -/
def readLong (flags : List Flag) (arg : List Char) : Option (Bool × Flagged) :=
  let (name, behind) := arg.span (· ≠ '=')
  match flags.find? (·.name.toList = name), behind with
  | some .verbose, [] => some (true, .plain)
  | some .outputDir, [] => some (false, .needsValue)
  | some .outputDir, _ :: value => some (false, .withValue (String.ofList value))
  | _, _ => none

/-- Reads an argument that starts with a minus. -/
def readFlags (flags : List Flag) (arg : List Char) : Option (Bool × Flagged) :=
  match arg with
  | '-' :: '-' :: _ => readLong flags arg
  | '-' :: letters => readLetters flags letters
  | _ => none

/-- Reads the arguments of a command with the given flags. -/
def readArguments (flags : List Flag) : List String → Given → Option Given
  | [], given => some given
  | arg :: rest, given =>
    if arg = "--" then some { given with positional := given.positional ++ rest }
    else if arg.toList.head? = some '-' ∧ arg ≠ "-" then
      match readFlags flags arg.toList, rest with
      | some (verbose, .plain), rest =>
        readArguments flags rest { given with verbose := given.verbose || verbose }
      | some (verbose, .withValue dir), rest =>
        readArguments flags rest
          { given with verbose := given.verbose || verbose, outputDir := some dir }
      | some (verbose, .needsValue), dir :: rest =>
        readArguments flags rest
          { given with verbose := given.verbose || verbose, outputDir := some dir }
      | _, _ => none
    else readArguments flags rest { given with positional := given.positional ++ [arg] }

/-- The command that arguments ask for. They may be misused in many ways, none
    of which is told apart here. -/
def parse? (args : List String) : Option Command := do
  let args := if args.head? = some "--" then args.tail else args
  match args with
  | "check" :: rest =>
    match ← readArguments [.verbose] rest ⟨[], none, false⟩ with
    | ⟨[expression], _, _⟩ => some (.check expression)
    | _ => none
  | "compile" :: rest =>
    match ← readArguments [.outputDir, .verbose] rest ⟨[], none, false⟩ with
    | ⟨[style], outputDir, verbose⟩ => some (.compile style outputDir verbose)
    | _ => none
  | _ => none

end SymbolStyle.CommandLine

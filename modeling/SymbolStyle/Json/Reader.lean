import SymbolStyle.Json.Token

/-! # Reading JSON

    A machine that takes the tokens of a document one at a time. Its state is
    what may come next together with the brackets that are still open, each
    with what has been read inside it, so that no depth of nesting is too
    large and the first token that does not fit decides what is wrong.

    * An entry whose name came before replaces the earlier value in its
      place.
    * `read` reads a text that holds exactly one value.
-/

namespace SymbolStyle.Json

/-- Why a text is not read. -/
inductive ReadError where
  /-- The text is not a JSON document. -/
  | malformed
  /-- A whole number has too many digits. -/
  | longInt
  deriving DecidableEq

/-- An open bracket and what has been read behind it. -/
inductive Frame where
  /-- An array: its items, the last one first. -/
  | array (items : List Value)
  /-- An object: its entries. -/
  | object (entries : Entries Value)
  /-- An object in the midst of an entry: the entries before it, and its
      name. -/
  | entry (entries : Entries Value) (name : String)

/-- What may come next. -/
inductive State where
  /-- A value. -/
  | value (frames : List Frame)
  /-- The first item of an array, or its end. -/
  | firstItem (frames : List Frame)
  /-- The first name of an object, or its end. -/
  | firstName (frames : List Frame)
  /-- A name. -/
  | name (frames : List Frame)
  /-- The colon behind a name. -/
  | colon (frames : List Frame)
  /-- A comma or the end of the innermost bracket. -/
  | next (frames : List Frame)
  /-- Nothing: the value is complete. -/
  | finished (v : Value)

/-- Puts a complete value where it belongs: into the innermost open bracket,
    or at the end of the document. -/
def deliver (v : Value) : List Frame → State
  | [] => .finished v
  | .array items :: frames => .next (.array (v :: items) :: frames)
  | .entry entries name :: frames => .next (.object (entries.put name v) :: frames)
  | .object entries :: frames => .next (.object entries :: frames)

/-- A token in the place of a value. -/
def startValue (frames : List Frame) : Token → Except ReadError State
  | .scalar v => .ok (deliver v frames)
  | .openArray => .ok (.firstItem (.array [] :: frames))
  | .openObject => .ok (.firstName (.object [] :: frames))
  | .longInt => .error .longInt
  | _ => .error .malformed

/-- A token in the place of a name. -/
def startName : List Frame → Token → Except ReadError State
  | .object entries :: frames, .scalar (.string name) =>
    .ok (.colon (.entry entries name :: frames))
  | _, _ => .error .malformed

/-- One step of the machine. -/
def step : State → Token → Except ReadError State
  | .value frames, token => startValue frames token
  | .firstItem (.array [] :: frames), .closeArray => .ok (deliver (.sequence .list []) frames)
  | .firstItem frames, token => startValue frames token
  | .firstName (.object [] :: frames), .closeObject => .ok (deliver (.object []) frames)
  | .firstName frames, token => startName frames token
  | .name frames, token => startName frames token
  | .colon frames, .colon => .ok (.value frames)
  | .next (.array items :: frames), .comma => .ok (.value (.array items :: frames))
  | .next (.array items :: frames), .closeArray =>
    .ok (deliver (.sequence .list items.reverse) frames)
  | .next (.object entries :: frames), .comma => .ok (.name (.object entries :: frames))
  | .next (.object entries :: frames), .closeObject => .ok (deliver (.object entries) frames)
  | _, _ => .error .malformed

/-- Runs the machine over tokens. -/
def run (state : State) (tokens : List Token) : Except ReadError State :=
  tokens.foldlM step state

/-- The value that a text writes in JSON. -/
def read (text : List Char) : Except ReadError Value := do
  match ← run (.value []) (tokens text) with
  | .finished v => .ok v
  | _ => .error .malformed

theorem run_cons (state : State) (token : Token) (tokens : List Token) :
    run state (token :: tokens) = step state token >>= (run · tokens) :=
  List.foldlM_cons

theorem run_append (state : State) (front back : List Token) :
    run state (front ++ back) = run state front >>= (run · back) := by
  simp [run, List.foldlM_append]

end SymbolStyle.Json

/-! # Paths

    Paths as texts. A path is shown without parts that say nothing: empty
    ones and single dots.
-/

namespace SymbolStyle.CommandLine.Path

/-- The parts of a path between slashes. -/
def parts (path : String) : List String :=
  (path.splitOn "/").filter fun part => part ≠ "" ∧ part ≠ "."

/-- Whether a path starts at the root. -/
def isAbsolute (path : String) : Bool := path.toList.head? = some '/'

/-- A path of parts. -/
def ofParts (absolute : Bool) (parts : List String) : String :=
  if absolute then "/" ++ "/".intercalate parts
  else if parts = [] then "." else "/".intercalate parts

/-- A path as it is shown. -/
def shown (path : String) : String := ofParts (isAbsolute path) (parts path)

/-- Whether a path can only be that of a directory. -/
def namesDirectory (path : String) : Bool :=
  let last := (path.splitOn "/").getLast?
  last = some "" || last = some "."

/-- Takes back a part for every double dot behind it. -/
def collapse (parts : List String) : List String :=
  parts.foldl (fun done part =>
    if part = ".." ∧ done ≠ [] ∧ done.getLast? ≠ some ".." then done.dropLast
    else done ++ [part]) []

/-- The path of a file in a directory, without detours. -/
def inside (dir name : String) : String :=
  ofParts (isAbsolute dir) (collapse (parts dir ++ [name]))

/-- The directory of a file. -/
def directory (path : String) : String := ofParts (isAbsolute path) (parts path).dropLast

/-- The directories above a path, the nearest one last. -/
def above (path : String) : List String :=
  let all := parts path
  (List.range all.length).tail.map fun n => ofParts (isAbsolute path) (all.take n)

end SymbolStyle.CommandLine.Path

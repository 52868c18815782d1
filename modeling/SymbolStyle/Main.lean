import SymbolStyle.CommandLine.Report

/-! # The program

    The outer layer of the command line: looks at the paths that the arguments
    name, and carries out the effects of the command.
-/

namespace SymbolStyle.CommandLine

/-- What is found at a path. Only the bytes of a file can be read. -/
def lookAt (path : String) : IO FileState :=
  try return .file (← IO.FS.readBinFile path)
  catch
    | .noFileOrDirectory .. => return .missing
    | _ => return .directory

/-- Carries out the effects of a command. -/
def carryOut (report : Report) : IO UInt32 := do
  for (path, text) in report.files do
    IO.FS.createDirAll (Path.directory path)
    IO.FS.writeFile path text
  IO.print report.stdout
  IO.eprint report.stderr
  return report.exitCode.toUInt32

/-- Looks at the paths in the arguments and does what they ask for. -/
def runProgram (args : List String) : IO UInt32 := do
  let paths := match parse? args with
    | some (.compile path outputDir _) => Path.shown path :: (outputDir.map Path.shown).toList
    | _ => []
  let found ← paths.mapM fun path => return (path, ← lookAt path)
  carryOut (respond (fun path => (found.lookup path).getD .missing) args)

end SymbolStyle.CommandLine

/-- The command line. -/
def main (args : List String) : IO UInt32 := SymbolStyle.CommandLine.runProgram args

import LintBus.Program.CommandLine
import LintBus.Program.Snapshot

/-!
# The program

The program serves one client over its standard streams: it answers requests from the standard
input on the standard output. Files are read before each line is handled.
-/

namespace LintBus
namespace Program

open CommandLine

/-- What an error of the file system is called. -/
def fileError (error : IO.Error) : FileError :=
  match error with
  | .noFileOrDirectory .. => .notFound
  | .inappropriateType .. => .isDirectory
  | .alreadyExists .. => .alreadyExists
  | _ => .notFound

/-- Read a file. -/
def readText (path : FilePath) : IO (Except FileError String) := do
  try
    let bytes ← IO.FS.readBinFile path.text
    match String.fromUTF8? bytes with
    | some text => return .ok text
    | none => return .error .invalidUtf8
  catch error => return .error (fileError error)

/-- The surroundings of the program. -/
def setting (runtimeDirectory baseDirectory : String) : Setting Snapshot :=
  { fileText := Snapshot.fileText
    bind := fun snapshot _ => .ok snapshot
    runtimeDirectory := ⟨runtimeDirectory⟩
    baseDirectory := ⟨baseDirectory⟩ }

/-- Answer lines until the input ends or the program is over. -/
partial def serveLines (name : String) (serving : Serving Snapshot) : IO Unit := do
  let line ← (← IO.getStdin).getLine
  if line.isEmpty || serving.isOver then return
  let mut snapshot : Snapshot := []
  for path in Snapshot.neededByLine serving.service.addressing name line do
    snapshot := snapshot ++ [(path, ← readText path)]
  let endpoint :=
    { serving.endpoint with roster := serving.endpoint.roster.setWorld snapshot }
  let bytes := line.toUTF8.toList.filter (· != 10)
  let (responses, serving) := { serving with endpoint := endpoint }.receive name bytes
  for response in responses do
    IO.println response.line
  (← IO.getStdout).flush
  serveLines name serving

/-- What is written about arguments that make no sense. -/
def usage : String := "usage: lintbus [--socket PATH] [--persist] LANGUAGE | --list\n"

/-- Run the program with some arguments; the result is its exit code. -/
def run (arguments : List String) : IO UInt32 := do
  let runtimeDirectory := (← IO.getEnv "XDG_RUNTIME_DIR").getD "/tmp"
  let baseDirectory ← IO.currentDir
  match start (setting runtimeDirectory baseDirectory.toString) [] arguments with
  | .ended ending =>
      IO.print ending.output
      IO.eprint (ending.errors.getD usage)
      return UInt32.ofNat ending.code
  | .serving serving =>
      let (name, serving) := serving.accept
      serveLines name serving
      return 0

end Program
end LintBus

/-- The entry point of the program. -/
def main (arguments : List String) : IO UInt32 := LintBus.Program.run arguments

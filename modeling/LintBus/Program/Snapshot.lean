import LintBus.Rpc.Connection

/-!
# Snapshots of files

The files that a call needs can be told from the call alone, so they are read before it is
handled. A snapshot holds what was read; a file that was not read is not there.
-/

namespace LintBus

/-- The texts of some files, or why they could not be read. -/
abbrev Snapshot := List (FilePath × Except FileError String)

namespace Snapshot

/-- The text of a file. -/
def fileText (snapshot : Snapshot) (path : FilePath) : Except FileError String :=
  match snapshot.find? (·.1 == path) with
  | some (_, text) => text
  | none => .error .notFound

/-- The files that a call has parsed. -/
def neededBy (addressing : Addressing) (call : Call) : List FilePath :=
  match Method.all.find? (·.member == call.member) with
  | none => []
  | some method =>
      match Job.ofArgs method call.args with
      | .error _ => []
      | .ok job =>
          job.opens.map fun (path, contents) =>
            addressing.canonical (if contents.isEmpty then path else contents)

/-- The files that a line of a client has parsed. -/
def neededByLine (addressing : Addressing) (name line : String) : List FilePath :=
  match Connection.demand name line with
  | .call _ call => neededBy addressing call
  | _ => []

end Snapshot
end LintBus

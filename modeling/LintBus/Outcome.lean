import LintBus.Document
import LintBus.File.Tree

/-!
# How handlers end

A handler of a backend ends with a result, with problems of the source text, with a failure, or by
panicking. Problems are no failure: they become the diagnostics of the document. A panic is a
failure like any other, but nobody knows where it was raised.
-/

namespace LintBus

/-- A failure of a handler. -/
structure Failure where
  name : String
  message : String
  /-- Where it was raised. -/
  location : Option String
deriving DecidableEq, Repr

namespace Failure

/-- A failure raised by a part of the service. -/
def raised (place name message : String) : Failure := ⟨name, message, some place⟩

/-- The failure for a file that cannot be used. -/
def ofFileError (error : FileError) : Failure := raised "files" error.kind error.message

/-- The failure for a panic, with its message if there was one. -/
def ofPanic (message : Option String) : Failure :=
  ⟨"Panic", message.getD "backend panicked", none⟩

end Failure

/-- How a handler ended. -/
inductive Outcome (α : Type) where
  | done (result : α)
  | problems (found : List Problem)
  | failed (failure : Failure)
  | panicked (message : Option String)

namespace Outcome

/-- Change the result. -/
def map {α β : Type} (change : α → β) : Outcome α → Outcome β
  | .done result => .done (change result)
  | .problems found => .problems found
  | .failed failure => .failed failure
  | .panicked message => .panicked message

end Outcome

/-- Record how a parse of a document went. Problems replace its diagnostics and count as success;
failures are handed back. -/
def Document.conclude (document : Document) : Outcome Unit → Except Failure Unit × Document
  | .done () => (.ok (), document)
  | .problems found => (.ok (), document.diagnosed (found.map Problem.toDiagnostic))
  | .failed failure => (.error failure, document)
  | .panicked message => (.error (.ofPanic message), document)

end LintBus

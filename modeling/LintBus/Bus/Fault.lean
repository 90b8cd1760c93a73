import LintBus.Bus.Gate
import LintBus.Json.Decode
import LintBus.Json.Reader
import LintBus.Outcome
import LintBus.Signature.Check

/-!
# Faults

Every call that fails is answered by a fault: a name, a message and, when it is known, where it
was raised. Faults come from calls that address nothing or carry the wrong arguments, from
handlers that fail, from replies that do not fit their signature, and from the bus.
-/

namespace LintBus

/-- Beginning of the error names that every bus knows. -/
def standardErrors : String := "org.freedesktop.DBus.Error"

/-- Beginning of the error names of the service for a language. -/
def languageErrors (language : String) : String := busName ++ "." ++ language

/-- Why arguments are refused. -/
inductive ArgumentError where
  /-- They do not have the declared types. -/
  | undecodable (error : Json.DecodeError)
  /-- They are no JSON; the text is the one that was read. -/
  | unreadable (error : Json.ReadError) (text : String)

/-- The text of an argument error. -/
def ArgumentError.message : ArgumentError → String
  | .undecodable error => error.message
  | .unreadable error text => error.located text

/-- A call that is malformed or addresses nothing. -/
inductive CallError where
  | invalidArgs (member : String) (error : ArgumentError)
  | emptyPath
  | unknownObject (path : String)
  | unknownInterface (path interface : String)
  | unknownMethod (interface member : String)

namespace CallError

/-- The last word of the name of the fault. -/
def shortName : CallError → String
  | .invalidArgs _ _ | .emptyPath => "InvalidArgs"
  | .unknownObject _ => "UnknownObject"
  | .unknownInterface _ _ => "UnknownInterface"
  | .unknownMethod _ _ => "UnknownMethod"

/-- The text of the error. -/
def message : CallError → String
  | .invalidArgs member error => s!"invalid arguments for {member}: {error.message}"
  | .emptyPath => "document path must not be empty"
  | .unknownObject path => s!"no object at `{path}`"
  | .unknownInterface path interface => s!"object `{path}` does not implement `{interface}`"
  | .unknownMethod interface member => s!"no method `{member}` on interface `{interface}`"

end CallError

/-- The answer to a call that failed. -/
structure Fault where
  name : String
  message : String
  /-- Where the error was raised; it has nothing to do with places in documents. -/
  location : Option String
deriving DecidableEq, Repr

namespace Fault

/-- The fault for a malformed or misaddressed call. -/
def ofCallError (error : CallError) : Fault :=
  ⟨standardErrors ++ "." ++ error.shortName, error.message, none⟩

/-- The fault for a failure of a handler. A name without a dot stands below the error names of
the language. -/
def ofFailure (language : String) (failure : Failure) : Fault :=
  { name :=
      if failure.name.toList.contains '.' then failure.name
      else languageErrors language ++ ".Error." ++ failure.name
    message := failure.message
    location := failure.location }

/-- The fault for a reply that does not fit; `context` describes the call. -/
def ofBodyError (language context : String) (error : BodyError) : Fault :=
  ⟨languageErrors language ++ ".ValueError",
    s!"Failed to encode return value in `{context}`: {error.message}", none⟩

/-- The fault for a failure of the bus. -/
def ofBusError (error : BusError) : Fault :=
  ⟨standardErrors ++ ".Failed", error.message, none⟩

/-- The fault for a session that is gone in the middle of a call. -/
def sessionGone : Fault := ⟨standardErrors ++ ".Failed", "session vanished", none⟩

/-- The fault for a call that the service does not get to any more. -/
def serviceGone : Fault := ⟨standardErrors ++ ".NoReply", "service is shutting down", none⟩

/-- The text of a fault. -/
def text (fault : Fault) : String :=
  match fault.location with
  | some location => s!"{fault.name}: {location}: {fault.message}"
  | none => s!"{fault.name}: {fault.message}"

end Fault
end LintBus

import LintBus.Bus.Call
import LintBus.Client.Roster

/-!
# Answering calls

A call addresses a method of an interface that is exported at its path. Its arguments make a job:
the documents that it names are opened, the backend runs, and the reply is checked against the
output signature of the method. Events are handled one after the other.
-/

namespace LintBus

/-- Interface through which every object can be described. -/
def introspectable : String := "org.freedesktop.DBus.Introspectable"

/-- What a service reacts to. -/
inductive Event where
  | call (call : Call)
  | ownerChanged (change : OwnerChange)

namespace Service

variable {ω σ : Type}

/-- The method that a call addresses. -/
def resolve (roster : Roster ω σ) (call : Call) : Except CallError Method :=
  let exported := roster.around.bus.interfaces call.path
  if exported.isEmpty then .error (.unknownObject call.path)
  else
    match (Interface.ofName? call.interface).filter exported.contains with
    | none => .error (.unknownInterface call.path call.interface)
    | some interface =>
        match Method.find? interface call.member with
        | none => .error (.unknownMethod call.interface call.member)
        | some method => .ok method

/-- The object path of a document that a call has just parsed. -/
def objectOf (roster : Roster ω σ) (sender : String) (canonical : FilePath) :
    Except Fault String :=
  match (roster.session? sender).bind (·.documents.find? canonical) with
  | some document => .ok document.object
  | none => .error (.ofCallError (.unknownObject canonical.text))

/-- Parse one document. -/
def parse (service : Service ω σ) (roster : Roster ω σ) (sender : String)
    (request : ParseRequest) : Reply × Roster ω σ :=
  match roster.openDocument service sender request.path request.contents request.cursor with
  | (.error error, roster) => (.error (.ofBusError error), roster)
  | (.ok canonical, roster) =>
      match roster.parse service sender canonical request.options with
      | (none, roster) => (.error .sessionGone, roster)
      | (some (.error failure), roster) =>
          (.error (.ofFailure service.backend.language failure), roster)
      | (some (.ok ()), roster) =>
          ((objectOf roster sender canonical).map fun object => [.string object], roster)

/-- One entry of the reply about a project: the path as this call spells it, and the object path
of the document. -/
def projectEntry (service : Service ω σ) (roster : Roster ω σ) (sender : String)
    (spellings : List (FilePath × String)) (canonical : FilePath) : Except Fault Json.Value :=
  match (roster.session? sender).bind (·.documents.find? canonical) with
  | none =>
      .error
        (.ofFailure service.backend.language
          (.raised "service" "UnknownDocument"
            s!"backend reported {canonical.text} which is not open"))
  | some document =>
      let spelling :=
        match spellings.find? (·.1.same canonical) with
        | some (_, spelling) => spelling
        | none => document.spelling
      .ok (.array [.string spelling, .string document.object])

/-- Parse the documents of a project. -/
def parseAll (service : Service ω σ) (roster : Roster ω σ) (sender : String)
    (request : ParseAllRequest) : Reply × Roster ω σ :=
  match roster.openDocument service sender request.path "" request.cursor with
  | (.error error, roster) => (.error (.ofBusError error), roster)
  | (.ok root, roster) =>
      match roster.openMembers service sender request.members with
      | (.error error, roster) => (.error (.ofBusError error), roster)
      | (.ok members, roster) =>
          match roster.parseAll service sender root members request.options with
          | (none, roster) => (.error .sessionGone, roster)
          | (some (.error failure), roster) =>
              (.error (.ofFailure service.backend.language failure), roster)
          | (some (.ok parsed), roster) =>
              let spellings := members.zip (request.members.map (·.1))
              let entries :=
                parsed.mapM (projectEntry service roster sender spellings)
              (entries.map fun entries => [.array entries], roster)

/-- The diagnostics of the document at an object path; the placeholder has none. -/
def diagnostics (service : Service ω σ) (roster : Roster ω σ) (path : String) : Reply :=
  if path = service.addressing.placeholderObject then .ok [.array []]
  else
    match roster.exportedAt? path with
    | none => .error (.ofCallError (.unknownObject path))
    | some document => .ok [Diagnostic.listToValue document.diagnostics]

/-- Describe the object at the path of a call. -/
def describe (roster : Roster ω σ) (call : Call) : Reply :=
  if call.member ≠ "Introspect" then
    .error (.ofCallError (.unknownMethod call.interface call.member))
  else
    match roster.around.bus.interfaces call.path with
    | [] => .error (.ofCallError (.unknownObject call.path))
    | interfaces => .ok [.string (Introspection.xml interfaces)]

/-- Do a job for a sender that has called the object at a path. -/
def perform (service : Service ω σ) (roster : Roster ω σ) (sender path : String) :
    Job → Reply × Roster ω σ
  | .parse request => service.parse roster sender request
  | .close document => (.ok [], roster.closeDocument service sender document)
  | .parseAll request => service.parseAll roster sender request
  | .diagnostics => (service.diagnostics roster path, roster)

/-- Answer a call. -/
def answer (service : Service ω σ) (roster : Roster ω σ) (call : Call) : Reply × Roster ω σ :=
  if call.interface = introspectable then (describe roster call, roster)
  else
    match resolve roster call with
    | .error error => (.error (.ofCallError error), roster)
    | .ok method =>
        match Job.ofArgs method call.args with
        | .error error => (.error (.ofCallError error), roster)
        | .ok job =>
            match service.perform roster call.sender call.path job with
            | (.error fault, roster) => (.error fault, roster)
            | (.ok body, roster) =>
                (call.answerWith service.backend.language method body, roster)

/-- Handle an event; calls are answered. -/
def handle (service : Service ω σ) (roster : Roster ω σ) :
    Event → Option Reply × Roster ω σ
  | .call call =>
      let (reply, roster) := service.answer roster call
      (some reply, roster)
  | .ownerChanged change => (none, (roster.ownerChanged service change).2)

/-- Handle some events in order; the replies are those of the calls. -/
def run (service : Service ω σ) : List Event → Roster ω σ → List Reply × Roster ω σ
  | [], roster => ([], roster)
  | event :: rest, roster =>
      let (reply, roster) := service.handle roster event
      let (replies, roster) := run service rest roster
      (reply.toList ++ replies, roster)

end Service
end LintBus

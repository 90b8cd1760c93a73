import LintBus.Backend
import LintBus.Bus.Gate

/-!
# Sessions

A session holds the open documents of one client and the backend state that goes with them. A
document is exported when it is opened and retracted when it is closed; nothing is recorded of a
document that cannot be exported.
-/

namespace LintBus

/-- What sessions share: the bus, the world of the backend, and the documents released so far. -/
structure Surroundings (ω : Type) where
  bus : Bus
  world : ω
  /-- Documents whose release the backend was asked for, the last one first. -/
  released : List Document

/-- The open documents of one client. -/
structure Session (σ : Type) where
  /-- Number of the session. -/
  id : Nat
  /-- Bus name of the client. -/
  identity : String
  /-- State of the backend. -/
  state : σ
  /-- Open documents. -/
  documents : Documents
  /-- Number of the next document. -/
  nextDocument : Nat

namespace Session

variable {ω σ : Type}

/-- A session without documents. -/
def opened (id : Nat) (identity : String) (state : σ) : Session σ :=
  ⟨id, identity, state, [], 0⟩

/-- Refresh the document at a canonical path with what a call says about it. -/
def refresh (session : Session σ) (canonical contents : FilePath) (cursor : Location) :
    Session σ :=
  { session with documents := session.documents.update canonical (·.refresh contents cursor) }

/-- Find the document at a path or open it, and refresh it. The result is its canonical path, or
why it could not be exported. -/
def openDocument (session : Session σ) (addressing : Addressing) (bus : Bus)
    (path contents : String) (cursor : Location) : Except BusError FilePath × Session σ × Bus :=
  let canonical := addressing.canonical path
  let contents := addressing.contentsPath contents
  match session.documents.find? canonical with
  | some _ => (.ok canonical, session.refresh canonical contents cursor, bus)
  | none =>
      let object := addressing.documentObject session.id session.nextDocument
      match bus.exportTogether object addressing.interfaces with
      | (.error error, bus) => (.error error, session, bus)
      | (.ok (), bus) =>
          let document := Document.opened session.nextDocument canonical path object
          let session :=
            { session with
              documents := session.documents ++ [document]
              nextDocument := session.nextDocument + 1 }
          (.ok canonical, session.refresh canonical contents cursor, bus)

/-- Parse the document at a path. Its diagnostics are cleared first and stay so if the backend
fails. -/
def parse (session : Session σ) (backend : Backend ω σ) (world : ω) (path : FilePath)
    (options : Options) : Except Failure Unit × Session σ × ω :=
  match session.documents.find? path with
  | none =>
      (.error (.raised "session" "UnknownDocument" s!"{path.text} is not open"), session, world)
  | some document =>
      let handled := backend.parse world session.state (document.diagnosed []) options
      let (result, concluded) :=
        (document.diagnosed handled.result.diagnostics).conclude handled.result.outcome
      (result,
        { session with
          state := handled.state
          documents := session.documents.update path fun _ => concluded },
        handled.world)

/-- The documents with those at the paths in `scope` cleared of diagnostics. -/
def clearDiagnostics (scope : List FilePath) (documents : Documents) : Documents :=
  documents.map fun document =>
    if ProjectRun.inScope scope document.path then document.diagnosed [] else document

/-- Parse a root together with members. Problems of the project as a whole become those of the
root, and paths outside the project are dropped from the result. -/
def parseAll (session : Session σ) (backend : Backend ω σ) (world : ω) (root : FilePath)
    (members : List FilePath) (options : Options) :
    Except Failure (List FilePath) × Session σ × ω :=
  let scope := root :: members
  let (documents, handled) :=
    (backend.parseAll world session.state root members options).run scope
      (clearDiagnostics scope session.documents)
  let session := { session with state := handled.state, documents := documents }
  match handled.result with
  | .done parsed => (.ok (parsed.filter (ProjectRun.inScope scope)), session, handled.world)
  | .problems found =>
      (.ok [root],
        { session with
          documents := documents.update root (·.diagnosed (found.map Problem.toDiagnostic)) },
        handled.world)
  | .failed failure => (.error failure, session, handled.world)
  | .panicked message => (.error (.ofPanic message), session, handled.world)

/-- Let the backend release a document, and retract it. How the backend fares changes nothing. -/
def release (session : Session σ) (backend : Backend ω σ) (addressing : Addressing)
    (around : Surroundings ω) (document : Document) : Session σ × Surroundings ω :=
  let retract (around : Surroundings ω) : Surroundings ω :=
    { around with bus := around.bus.retractAll document.object addressing.interfaces }
  match backend.dispose with
  | none => (session, retract around)
  | some dispose =>
      let handled := dispose around.world session.state document
      ({ session with state := handled.state },
        retract
          { around with world := handled.world, released := document :: around.released })

/-- Close the document at a path; tell whether there was one. -/
def closeDocument (session : Session σ) (backend : Backend ω σ) (addressing : Addressing)
    (around : Surroundings ω) (path : FilePath) : Bool × Session σ × Surroundings ω :=
  match session.documents.find? path with
  | none => (false, session, around)
  | some document =>
      let (session, around) := session.release backend addressing around document
      (true, { session with documents := session.documents.erase path }, around)

/-- Release some documents one after the other. -/
def releaseAll (backend : Backend ω σ) (addressing : Addressing) :
    List Document → Session σ → Surroundings ω → Session σ × Surroundings ω
  | [], session, around => (session, around)
  | document :: rest, session, around =>
      let (session, around) := session.release backend addressing around document
      releaseAll backend addressing rest session around

/-- Close all documents. -/
def closeAll (session : Session σ) (backend : Backend ω σ) (addressing : Addressing)
    (around : Surroundings ω) : Session σ × Surroundings ω :=
  let (session, around) := releaseAll backend addressing session.documents session around
  ({ session with documents := [] }, around)

end Session
end LintBus

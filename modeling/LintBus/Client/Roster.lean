import LintBus.Bus.OwnerChange
import LintBus.Client.Session
import LintBus.Service

/-!
# The roster of sessions

One session for each client that has documents open. A session is made for the first document and
goes away with the last one, or when its client leaves the bus. Whenever no session is left, that
is counted.
-/

namespace LintBus

/-- The sessions of a service. -/
structure Roster (ω σ : Type) where
  /-- Sessions in the order in which they were made. -/
  sessions : List (Session σ)
  /-- Number of the next session. -/
  nextId : Nat
  /-- How often the last session has gone away. -/
  emptied : Nat
  /-- What the sessions share. -/
  around : Surroundings ω

namespace Roster

variable {ω σ : Type}

/-- A roster without sessions. -/
def opened (bus : Bus) (world : ω) : Roster ω σ := ⟨[], 0, 0, ⟨bus, world, []⟩⟩

/-- The session of a client. -/
def session? (roster : Roster ω σ) (identity : String) : Option (Session σ) :=
  roster.sessions.find? (·.identity == identity)

/-- The client has a session. -/
def contains (roster : Roster ω σ) (identity : String) : Bool :=
  (roster.session? identity).isSome

/-- Replace the session of a client. -/
def setSession (roster : Roster ω σ) (session : Session σ) : Roster ω σ :=
  { roster with
    sessions := roster.sessions.map fun other =>
      if other.identity == session.identity then session else other }

/-- Forget the session of a client. -/
def eraseSession (roster : Roster ω σ) (identity : String) : Roster ω σ :=
  { roster with sessions := roster.sessions.filter (·.identity != identity) }

/-- Replace the world of the backend. -/
def setWorld (roster : Roster ω σ) (world : ω) : Roster ω σ :=
  { roster with around := { roster.around with world := world } }

/-- Replace the bus. -/
def setBus (roster : Roster ω σ) (bus : Bus) : Roster ω σ :=
  { roster with around := { roster.around with bus := bus } }

/-- The session of a client, made with the next number if there is none. -/
def sessionFor (service : Service ω σ) (roster : Roster ω σ) (identity : String) :
    Session σ × Roster ω σ :=
  match roster.session? identity with
  | some session => (session, roster)
  | none =>
      let session := Session.opened roster.nextId identity service.backend.create
      (session,
        { roster with
          sessions := roster.sessions ++ [session]
          nextId := roster.nextId + 1 })

/-- Find or open a document of a client. A session made for a document that cannot be exported is
dropped again. -/
def openDocument (service : Service ω σ) (roster : Roster ω σ)
    (identity path contents : String) (cursor : Location) :
    Except BusError FilePath × Roster ω σ :=
  let created := !roster.contains identity
  let (session, roster) := roster.sessionFor service identity
  match session.openDocument service.addressing roster.around.bus path contents cursor with
  | (.ok canonical, session, bus) => (.ok canonical, (roster.setSession session).setBus bus)
  | (.error error, _, bus) =>
      let roster := roster.setBus bus
      (.error error, if created then roster.eraseSession identity else roster)

/-- Open the members of a project one after the other, up to the first that cannot be exported. -/
def openMembers (service : Service ω σ) (identity : String) :
    List (String × String) → Roster ω σ → Except BusError (List FilePath) × Roster ω σ
  | [], roster => (.ok [], roster)
  | (path, contents) :: rest, roster =>
      match roster.openDocument service identity path contents .origin with
      | (.error error, roster) => (.error error, roster)
      | (.ok canonical, roster) =>
          match openMembers service identity rest roster with
          | (.error error, roster) => (.error error, roster)
          | (.ok others, roster) => (.ok (canonical :: others), roster)

/-- Parse the document of a client at a path; there is no result without a session. -/
def parse (service : Service ω σ) (roster : Roster ω σ) (identity : String) (path : FilePath)
    (options : Options) : Option (Except Failure Unit) × Roster ω σ :=
  match roster.session? identity with
  | none => (none, roster)
  | some session =>
      let (result, session, world) :=
        session.parse service.backend roster.around.world path options
      (some result, (roster.setSession session).setWorld world)

/-- Parse a project of a client; there is no result without a session. -/
def parseAll (service : Service ω σ) (roster : Roster ω σ) (identity : String)
    (root : FilePath) (members : List FilePath) (options : Options) :
    Option (Except Failure (List FilePath)) × Roster ω σ :=
  match roster.session? identity with
  | none => (none, roster)
  | some session =>
      let (result, session, world) :=
        session.parseAll service.backend roster.around.world root members options
      (some result, (roster.setSession session).setWorld world)

/-- End the session of a client with all its documents. -/
def dismiss (service : Service ω σ) (roster : Roster ω σ) (identity : String) :
    Roster ω σ :=
  match roster.session? identity with
  | none => roster
  | some session =>
      let roster := roster.eraseSession identity
      let (_, around) := session.closeAll service.backend service.addressing roster.around
      { roster with
        around := around
        emptied := roster.emptied + if roster.sessions.isEmpty then 1 else 0 }

/-- Close a single document of a client, and keep the session even if it was the last one. Tell
whether there was one; there is no result without a session. -/
def closeOnly (service : Service ω σ) (roster : Roster ω σ) (identity : String)
    (path : FilePath) : Option (Bool × Session σ) × Roster ω σ :=
  match roster.session? identity with
  | none => (none, roster)
  | some session =>
      let (closed, session, around) :=
        session.closeDocument service.backend service.addressing roster.around path
      (some (closed, session), { roster.setSession session with around := around })

/-- Close the document of a client at a path in any spelling. The session goes away with its last
document. -/
def closeDocument (service : Service ω σ) (roster : Roster ω σ) (identity path : String) :
    Roster ω σ :=
  match roster.closeOnly service identity (service.addressing.canonical path) with
  | (some (true, session), roster) =>
      if session.documents.isEmpty then roster.dismiss service identity else roster
  | (_, roster) => roster

/-- The document that is exported at an object path, of whichever client. -/
def exportedAt? (roster : Roster ω σ) (object : String) : Option Document :=
  roster.sessions.findSome? (·.documents.exportedAt? object)

/-- End the session of a client that has left; tell whether there was one. -/
def ownerChanged (service : Service ω σ) (roster : Roster ω σ) (change : OwnerChange) :
    Bool × Roster ω σ :=
  match change.departed? with
  | none => (false, roster)
  | some identity =>
      if roster.contains identity then (true, roster.dismiss service identity)
      else (false, roster)

end Roster
end LintBus

import LintBus.Backend.Scripted
import LintBus.Proofs.Client.Frame
import LintBus.Proofs.Service.Routing

/-!
# Courses of a service

Each event is a row of moves for the client that it comes from.  In the course of a service events
alternate with changes from outside: another gate in front of the bus, which may refuse exports
that the last one admitted, or another world.  A course that begins with a successful start keeps
the roster orderly and the bus in agreement with it.
-/

namespace LintBus

variable {ω σ : Type}

/-- The client that an event comes from: the caller, or the one that has left. -/
def Event.client? : Event → Option String
  | .call request => some request.sender
  | .ownerChanged change => change.departed?

/-- A client that is named leaves the bus. -/
theorem OwnerChange.departed?_departure {identity : String} (named : identity ≠ "") :
    (departure identity).departed? = some identity := by
  simp [departure, departed?, named]

/-- What can happen to a service.  An event asks for no export twice, so a gate that changes its
mind between two exports is no more than one that changes between two events. -/
inductive Occurrence (ω : Type) where
  | event (event : Event)
  | gate (gate : Gate)
  | world (world : ω)

namespace Service

variable {service : Service ω σ} {roster : Roster ω σ}

/-- The roster after an occurrence. -/
def react (service : Service ω σ) (roster : Roster ω σ) : Occurrence ω → Roster ω σ
  | .event event => (service.handle roster event).2
  | .gate gate => roster.setBus { roster.around.bus with gate := gate }
  | .world world => roster.setWorld world

/-- The roster after some occurrences in order. -/
def course (service : Service ω σ) (occurrences : List (Occurrence ω)) (roster : Roster ω σ) :
    Roster ω σ :=
  occurrences.foldl service.react roster

@[simp]
theorem course_nil (service : Service ω σ) (roster : Roster ω σ) :
    service.course [] roster = roster := rfl

@[simp]
theorem course_cons (service : Service ω σ) (occurrence : Occurrence ω)
    (occurrences : List (Occurrence ω)) (roster : Roster ω σ) :
    service.course (occurrence :: occurrences) roster =
      service.course occurrences (service.react roster occurrence) := rfl

@[simp]
theorem course_append (service : Service ω σ) (earlier later : List (Occurrence ω))
    (roster : Roster ω σ) :
    service.course (earlier ++ later) roster =
      service.course later (service.course earlier roster) := by
  simp [course, List.foldl_append]

/-- Handling events in order is a course without changes from outside. -/
theorem run_eq_course (service : Service ω σ) (events : List Event) (roster : Roster ω σ) :
    (service.run events roster).2 = service.course (events.map .event) roster := by
  induction events generalizing roster with
  | nil => rfl
  | cons event rest induction => exact induction (service.handle roster event).2

private theorem moves_parse (orderly : roster.Orderly service.addressing)
    (agrees : service.Agrees roster) (sender : String) (request : ParseRequest) :
    roster.Moves service sender (service.parse roster sender request).2 := by
  have opening := Roster.moves_openDocument orderly (Roster.shows_of_agrees agrees) sender
    request.path request.contents request.cursor
  rw [parse]
  split
  · next error opened outcome =>
      rw [outcome] at opening
      exact opening
  · next canonical opened outcome =>
      rw [outcome] at opening
      have parsing := Roster.moves_parse (opening.sound orderly agrees).1 sender canonical
        request.options
      split
      all_goals
        next outcome =>
          rw [outcome] at parsing
          exact opening.trans parsing

private theorem moves_parseAll (orderly : roster.Orderly service.addressing)
    (agrees : service.Agrees roster) (sender : String) (request : ParseAllRequest) :
    roster.Moves service sender (service.parseAll roster sender request).2 := by
  have opening := Roster.moves_openDocument orderly (Roster.shows_of_agrees agrees) sender
    request.path "" request.cursor
  rw [parseAll]
  split
  · next error opened outcome =>
      rw [outcome] at opening
      exact opening
  · next root opened outcome =>
      rw [outcome] at opening
      obtain ⟨opened_orderly, opened_agrees⟩ := opening.sound orderly agrees
      have joining := Roster.moves_openMembers request.members opened_orderly opened_agrees sender
      split
      · next error joined outcome =>
          rw [outcome] at joining
          exact opening.trans joining
      · next members joined outcome =>
          rw [outcome] at joining
          have parsing := Roster.moves_parseAll service joined sender root members
            request.options
          split
          all_goals
            next outcome =>
              rw [outcome] at parsing
              exact opening.trans (joining.trans parsing)

private theorem moves_perform (orderly : roster.Orderly service.addressing)
    (agrees : service.Agrees roster) (sender path : String) (job : Job) :
    roster.Moves service sender (service.perform roster sender path job).2 := by
  cases job with
  | parse request => exact moves_parse orderly agrees sender request
  | close document => exact Roster.moves_closeDocument orderly sender document
  | parseAll request => exact moves_parseAll orderly agrees sender request
  | diagnostics => exact .refl

theorem moves_answer (orderly : roster.Orderly service.addressing)
    (agrees : service.Agrees roster) (call : Call) :
    roster.Moves service call.sender (service.answer roster call).2 := by
  cases found : job? roster call with
  | none =>
      rw [answer_idle found]
      exact .refl
  | some job =>
      obtain ⟨method, -, -, answered⟩ := answer_job service found
      rw [answered]
      exact moves_perform orderly agrees call.sender call.path job

theorem handle_departed {change : OwnerChange} {identity : String}
    (departed : change.departed? = some identity) :
    (service.handle roster (.ownerChanged change)).2 = roster.dismiss service identity :=
  congrArg Prod.snd (Roster.ownerChanged_departed departed)

/-- An event is a row of moves for its client. -/
theorem moves_handle (orderly : roster.Orderly service.addressing)
    (agrees : service.Agrees roster) {event : Event} {identity : String}
    (client : event.client? = some identity) :
    roster.Moves service identity (service.handle roster event).2 := by
  cases event with
  | call call =>
      obtain rfl : call.sender = identity := by simpa [Event.client?] using client
      exact moves_answer orderly agrees call
  | ownerChanged change =>
      simp only [Event.client?] at client
      rw [handle_departed client]
      exact Roster.moves_dismiss orderly identity

/-- An event that comes from no client changes nothing. -/
theorem handle_idle {event : Event} (client : event.client? = none) :
    (service.handle roster event).2 = roster := by
  cases event with
  | call call => simp [Event.client?] at client
  | ownerChanged change =>
      exact congrArg Prod.snd (Roster.ownerChanged_idle client)

/-- An event of another client, or of none, leaves the session of a client alone. -/
theorem handle_frame (orderly : roster.Orderly service.addressing)
    (agrees : service.Agrees roster) {event : Event} {client : String}
    (different : event.client? ≠ some client) :
    (service.handle roster event).2.session? client = roster.session? client := by
  cases sender : event.client? with
  | none => rw [handle_idle sender]
  | some identity =>
      rw [sender, ne_eq, Option.some.injEq] at different
      exact (moves_handle orderly agrees sender).frame (Ne.symm different)

/-- A service has begun with a roster: its objects have been exported on a bus where nothing was
exported, behind some gate. -/
def Begins (service : Service ω σ) (roster : Roster ω σ) : Prop :=
  ∃ gate bus world, service.start ⟨.empty, gate⟩ = (.ok (), bus) ∧ roster = .opened bus world

theorem Begins.sound (begins : service.Begins roster) :
    roster.Orderly service.addressing ∧ service.Agrees roster := by
  obtain ⟨gate, bus, world, started, rfl⟩ := begins
  constructor
  · constructor <;> simp [Roster.opened]
  · simp only [start] at started
    split at started
    · simp at started
    · next shown outcome =>
        have service_adds := Bus.exportEach_ok outcome
        have document_adds := Bus.exportEach_ok started
        intro pair
        rw [show (Roster.opened (σ := σ) bus world).around.bus = bus from rfl,
          document_adds.mem_iff, service_adds.mem_iff]
        simp [Roster.Holds, Roster.opened]

/-- Each occurrence keeps a roster orderly and the bus in agreement with it. -/
theorem react_sound (orderly : roster.Orderly service.addressing)
    (agrees : service.Agrees roster) (occurrence : Occurrence ω) :
    (service.react roster occurrence).Orderly service.addressing ∧
      service.Agrees (service.react roster occurrence) := by
  cases occurrence with
  | event event =>
      rw [react]
      cases client : event.client? with
      | none =>
          rw [handle_idle client]
          exact ⟨orderly, agrees⟩
      | some identity => exact (moves_handle orderly agrees client).sound orderly agrees
  | gate gate => exact ⟨⟨orderly.1, orderly.2, orderly.3, orderly.4⟩, agrees⟩
  | world world => exact ⟨⟨orderly.1, orderly.2, orderly.3, orderly.4⟩, agrees⟩

/-- In every course from a successful start the roster is orderly and the bus agrees with it. -/
theorem course_sound (orderly : roster.Orderly service.addressing)
    (agrees : service.Agrees roster) (occurrences : List (Occurrence ω)) :
    (service.course occurrences roster).Orderly service.addressing ∧
      service.Agrees (service.course occurrences roster) := by
  induction occurrences generalizing roster with
  | nil => exact ⟨orderly, agrees⟩
  | cons occurrence rest induction =>
      obtain ⟨orderly, agrees⟩ := react_sound orderly agrees occurrence
      exact induction orderly agrees

end Service

namespace Rehearsal

/-- A backend for scripted stylesheets. -/
def backend : Backend Stage Unit := Scripted.backend "css" [.diagnostics, .project]

/-- The directory of the rehearsed service. -/
def directory : FilePath := ⟨"/work"⟩

/-- A service for scripted stylesheets. -/
abbrev service : Service Stage Unit := .ofBackend backend directory

/-- The roster of the rehearsed service at its start, without any files. -/
def roster : Roster Stage Unit :=
  .opened (service.start .empty).2 (Scripted.stage ⟨[], []⟩)

theorem begins : service.Begins roster :=
  ⟨.objectPaths, _, _, by rfl, rfl⟩

/-- A client asks to parse the file at a path. -/
def parse (sender path : String) : Event :=
  .call
    { sender := sender
      path := "/org/gnome/CodeAssist/v1/css"
      interface := "org.gnome.CodeAssist.v1.Service"
      member := "Parse"
      args := [.string path, .string "", .array [.number (.integer 0), .number (.integer 0)],
        .object []] }

/-- A client asks to close the file at a path. -/
def dispose (sender path : String) : Call :=
  { sender := sender
    path := "/org/gnome/CodeAssist/v1/css"
    interface := "org.gnome.CodeAssist.v1.Service"
    member := "Dispose"
    args := [.string path] }

/-- A client calls for parsing the project of a file and some members. -/
def parseAll (sender root : String) (members : List String) (script : Json.Entries) : Call :=
  { sender := sender
    path := "/org/gnome/CodeAssist/v1/css"
    interface := "org.gnome.CodeAssist.v1.Project"
    member := "ParseAll"
    args := [.string root, .array (members.map fun path => .array [.string path, .string ""]),
      .array [.number (.integer 0), .number (.integer 0)], .object script] }

/-- A script that leaves a message in the file `a.css` and ends in some way. -/
def scribble (message : String) (ending : Json.Entries) : Json.Entries :=
  ending ++ [("touch", .array [.array [.string "/work/a.css", .string message]])]

/-- A client leaves the bus. -/
def leave (sender : String) : Event := .ownerChanged (.departure sender)

end Rehearsal
end LintBus

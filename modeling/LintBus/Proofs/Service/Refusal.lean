import LintBus.Proofs.Client.Opening
import LintBus.Proofs.Service.Surface

/-!
# Refused calls

When the bus refuses a document that a call opens, the call is answered by the fault of the bus and
the backend is not asked.  The refused document leaves no trace, but those that the call has opened
before it stay open: only a call whose first document is refused leaves everything as it was.
-/

namespace LintBus

namespace Service

variable {ω σ : Type} {service : Service ω σ} {roster : Roster ω σ}

/-- The bus refuses a document that a call opens for its job. -/
structure Refuses (service : Service ω σ) (roster : Roster ω σ) (call : Call) (job : Job)
    (error : BusError) : Prop where
  found : job? roster call = some job
  refused : (roster.openEach service call.sender job.openings).1 = .error error

theorem Refuses.answer {call : Call} {job : Job} {error : BusError}
    (refuses : service.Refuses roster call job error) :
    service.answer roster call =
      (.error (.ofBusError error), (roster.openEach service call.sender job.openings).2) := by
  obtain ⟨found, refused⟩ := refuses
  obtain ⟨method, -, -, answered⟩ := answer_job service found
  rw [answered, perform_refused (Prod.ext refused rfl)]
  rfl

/-- In every course a call that the bus refuses a document is answered by the fault of the bus.  The
documents that it has opened before are then open and exported as in a call that names only them,
and the refused document is not; the sessions of other clients, the world of the backend, what has
been released and the count of empty rosters stay as they were.  If already the first document is
refused, nothing at all has changed but the number of the next session. -/
theorem course_refused (begins : service.Begins roster) (occurrences : List (Occurrence ω))
    {call : Call} {job : Job} {error : BusError}
    (refuses : service.Refuses (service.course occurrences roster) call job error) :
    let before := service.course occurrences roster
    let after := (service.answer before call).2
    (service.answer before call).1 = .error (.ofBusError error) ∧
    (∀ client, client ≠ call.sender → after.session? client = before.session? client) ∧
    after.emptied = before.emptied ∧
    after.around = { before.around with bus := after.around.bus } ∧
    service.Agrees after ∧
    ∃ opened refused rest, job.openings = opened ++ refused :: rest ∧
      (∀ document ∈ after.documentsOf call.sender,
        document.path.same (service.addressing.canonical refused.path) = false) ∧
      (opened = [] → after = { before with nextId := after.nextId }) ∧
      (opened ≠ [] → after.session? call.sender =
        some ((before.sessionFor service call.sender).1.openingEach service.addressing
          opened)) := by
  intro before after
  obtain ⟨orderly, agrees⟩ := begins.sound
  obtain ⟨orderly, agrees⟩ := course_sound orderly agrees occurrences
  have after_eq : after = (before.openEach service call.sender job.openings).2 :=
    congrArg Prod.snd refuses.answer
  have moves := Roster.moves_openEach job.openings orderly agrees call.sender
  obtain ⟨emptied_eq, around_eq⟩ :=
    before.openEach_keeps service call.sender job.openings
  rw [← after_eq] at moves emptied_eq around_eq
  obtain ⟨opened, refused, rest, middle, openings_eq, opened_ok, refused_error⟩ :=
    Roster.openEach_error (Prod.ext refuses.refused after_eq.symm)
  have opened_moves := Roster.moves_openEach opened orderly agrees call.sender
  rw [opened_ok] at opened_moves
  obtain ⟨middle_orderly, middle_agrees⟩ := opened_moves.sound orderly agrees
  -- What the call has done before the refusal stays, the refusal itself leaves no trace.
  have kept : after = { middle with nextId := _ } :=
    Roster.openDocument_error middle_orderly (Roster.shows_of_agrees middle_agrees)
      refused_error
  have session_eq : after.session? call.sender = middle.session? call.sender := by
    rw [kept]
    rfl
  refine ⟨congrArg Prod.fst refuses.answer, fun client different => moves.frame different,
    emptied_eq, around_eq, (moves.sound orderly agrees).2, opened, refused, rest, openings_eq,
    ?_, ?_, ?_⟩
  · rw [Roster.documentsOf, session_eq]
    exact Roster.openDocument_error_absent refused_error
  · rintro rfl
    obtain rfl : before = middle := congrArg Prod.snd opened_ok
    rw [kept]
  · intro some_opened
    rw [session_eq]
    exact Roster.openEach_ok some_opened opened_ok

end Service

namespace Rehearsal

/-- The second document of the first session. -/
def crowdedObject : String := "/org/gnome/CodeAssist/v1/css/0/documents/1"

/-- There is no room for a second document. -/
def crowded : List (Occurrence Stage) :=
  [.gate fun path interface =>
    if path = crowdedObject then some (.refused path interface.name "refused") else none]

/-- A client asks for a project of two files. -/
def project : ParseAllRequest := ⟨"a.css", [("b.css", "")], .origin, []⟩

private theorem crowded_refuses :
    service.Refuses (service.course crowded roster) (parseAll ":1.7" "a.css" ["b.css"] [])
      (.parseAll project) (.refused crowdedObject Interface.document.name "refused") :=
  ⟨by rfl, by decide +kernel⟩

end Rehearsal

theorem Service.course_refused_crowded :
    Rehearsal.service.Begins Rehearsal.roster ∧
      (Rehearsal.service.answer (Rehearsal.service.course Rehearsal.crowded Rehearsal.roster)
        (Rehearsal.parseAll ":1.7" "a.css" ["b.css"] [])).1 = .error (.ofBusError
          (.refused Rehearsal.crowdedObject Interface.document.name "refused")) ∧
      Rehearsal.service.Agrees
        (Rehearsal.service.answer (Rehearsal.service.course Rehearsal.crowded Rehearsal.roster)
          (Rehearsal.parseAll ":1.7" "a.css" ["b.css"] [])).2 := by
  obtain ⟨reply_eq, -, -, -, agrees, -⟩ :=
    course_refused Rehearsal.begins Rehearsal.crowded Rehearsal.crowded_refuses
  exact ⟨Rehearsal.begins, reply_eq, agrees⟩

/-- The root of a project stays open when a member is refused. -/
theorem Service.refused_member_keeps_root :
    let before := Rehearsal.service.course Rehearsal.crowded Rehearsal.roster
    let answered := Rehearsal.service.answer before (Rehearsal.parseAll ":1.7" "a.css" ["b.css"] [])
    answered.1 = .error (.ofBusError
        (.refused Rehearsal.crowdedObject Interface.document.name "refused")) ∧
      before.documents = [] ∧
      answered.2.documents.map Document.object =
        ["/org/gnome/CodeAssist/v1/css/0/documents/0"] ∧
      answered.2.around.bus.interfaces "/org/gnome/CodeAssist/v1/css/0/documents/0" =
        [.document, .diagnostics] :=
  ⟨congrArg Prod.fst Rehearsal.crowded_refuses.answer, by decide +kernel, by decide +kernel,
    by decide +kernel⟩

end LintBus

import LintBus.Proofs.Client.Strike
import LintBus.Proofs.Service.Reclamation
import LintBus.Proofs.Service.Surface
import LintBus.Proofs.Service.Vacancy

/-!
# Disposing of one document

A client that disposes of a document is always answered, and with nothing.  It loses the document at
the path that it names and nothing else; if there is none, nothing changes.  So it makes no
difference whether a call comes once or twice, nor which of two calls comes first.
-/

namespace LintBus

variable {ω σ τ : Type} {service : Service ω σ} {roster : Roster ω σ}

/-- A client asks a service to close the document at a path. -/
def Addressing.disposal (addressing : Addressing) (sender path : String) : Call :=
  { sender := sender
    path := addressing.serviceObject
    interface := Interface.service.name
    member := Method.dispose.member
    args := [.string path] }

namespace Service

theorem Begins.inOrder (begins : service.Begins roster) : roster.InOrder service := by
  obtain ⟨orderly, agrees⟩ := begins.sound
  refine ⟨orderly, agrees, begins.accounts, ?_⟩
  obtain ⟨gate, bus, world, -, rfl⟩ := begins
  simp [Roster.Occupied, Roster.opened]

/-- In every course from a roster in order the roster stays in order. -/
theorem course_inOrder (inOrder : roster.InOrder service) (occurrences : List (Occurrence ω)) :
    (service.course occurrences roster).InOrder service := by
  obtain ⟨orderly, agrees, accounts, occupied⟩ := inOrder
  obtain ⟨after_orderly, after_agrees⟩ := course_sound orderly agrees occurrences
  exact ⟨after_orderly, after_agrees, (course_accounts orderly agrees accounts occurrences).1,
    occupied_course orderly agrees occupied occurrences⟩

/-- A client that asks to close a document is answered with nothing. -/
theorem handle_disposal (inOrder : roster.InOrder service) (sender path : String) :
    service.handle roster (.call (service.addressing.disposal sender path)) =
      (some (.ok []), roster.closeDocument service sender path) := by
  have offered : .service ∈ service.backend.offer.service := Offer.mem_service.mpr (.inl rfl)
  have shown : .service ∈ roster.around.bus.interfaces service.addressing.serviceObject :=
    (Exports.mem_interfaces ..).mpr
      ((inOrder.agrees.mem_serviceObject inOrder.orderly .service).mpr offered)
  have routed : Routed roster (service.addressing.disposal sender path) .dispose :=
    routed_iff.mpr ⟨by simp [Method.all], rfl, rfl, shown⟩
  have fits : Signature.checkText Method.dispose.outputSignature [] = .ok () := by rfl
  have decoded : Job.ofArgs .dispose (service.addressing.disposal sender path).args =
      .ok (.close path) := rfl
  simp only [handle, answer_of_job routed.1 routed.2 decoded, perform, Except.bind,
    Call.answerWith, fits]
  rfl

/-- In every course from a successful start a client that disposes of a path is answered with
nothing.  Its document at that path is gone, its session is gone with the last document, and all
else stays; if there is no document at that path, nothing changes.  The same call again changes
nothing, and two calls of whichever clients have the same effect in either order, but for the world
of the backend and for what is not seen in a view of its states that releases keep. -/
theorem course_disposal (begins : service.Begins roster) (occurrences : List (Occurrence ω))
    {view : σ → τ} (keeps : service.backend.Keeps view) :
    let before := service.course occurrences roster
    let dispose := fun (current : Roster ω σ) (sender path : String) =>
      service.handle current (.call (service.addressing.disposal sender path))
    (∀ sender path,
      let after := (dispose before sender path).2
      (dispose before sender path).1 = some (.ok []) ∧
      (∀ session document, before.session? sender = some session →
        session.documents.find? (service.addressing.canonical path) = some document →
          Roster.Closes service session document before after) ∧
      (before.documentAt? service sender path = none → after = before) ∧
      dispose after sender path = (some (.ok []), after)) ∧
    ∀ first firstPath second secondPath,
      Roster.Coincides view
        (dispose (dispose before first firstPath).2 second secondPath).2
        (dispose (dispose before second secondPath).2 first firstPath).2 := by
  intro before dispose
  have inOrder : before.InOrder service := course_inOrder begins.inOrder occurrences
  have disposes : ∀ {current : Roster ω σ}, current.InOrder service → ∀ sender path,
      dispose current sender path =
        (some (.ok []), current.closeDocument service sender path) :=
    fun current_order sender path => handle_disposal current_order sender path
  refine ⟨fun sender path => ?_, fun first firstPath second secondPath => ?_⟩
  · have after_order := inOrder.closeDocument sender path
    rw [disposes inOrder]
    refine ⟨rfl, fun session document found held => ?_, fun absent => ?_, ?_⟩
    · obtain ⟨-, rfl⟩ := Roster.session?_some found
      exact Roster.closes_closeDocument inOrder.orderly inOrder.agrees found held
    · exact Roster.closeDocument_absent inOrder.orderly.identities absent
    · rw [disposes after_order, Roster.closeDocument_again inOrder.orderly]
  · have first_order := inOrder.closeDocument first firstPath
    have second_order := inOrder.closeDocument second secondPath
    have first_strikes := Roster.strikes_closeDocument keeps inOrder first firstPath
    have second_strikes := Roster.strikes_closeDocument keeps inOrder second secondPath
    rw [disposes inOrder, disposes inOrder, disposes first_order, disposes second_order]
    refine (first_strikes.trans (Roster.strikes_closeDocument keeps first_order ..)).coincides
      (second_strikes.trans (Roster.strikes_closeDocument keeps second_order ..))
      (first_order.closeDocument ..) (second_order.closeDocument ..) fun client document _ => ?_
    exact Bool.or_comm ..

end Service

/-- Two clients open a document each, and the release of the first one is going to panic. -/
def Rehearsal.tenants : List (Occurrence Stage) :=
  [.event (Rehearsal.parse ":1.7" "a.css"),
    .world { Scripted.stage ⟨[], []⟩ with traps := [⟨"/work/a.css"⟩] },
    .event (Rehearsal.parse ":1.8" "b.css")]

theorem Service.course_disposal_tenants :
    let before := Rehearsal.service.course Rehearsal.tenants Rehearsal.roster
    let dispose := fun (current : Roster Stage Unit) (sender path : String) =>
      Rehearsal.service.handle current
        (.call (Rehearsal.service.addressing.disposal sender path))
    let after := (dispose before ":1.7" "./a.css").2
    Rehearsal.service.Begins Rehearsal.roster ∧ Rehearsal.service.backend.Keeps id ∧
      (∃ session document, before.session? ":1.7" = some session ∧
        session.documents.find? (Rehearsal.service.addressing.canonical "./a.css") =
          some document ∧
        Roster.Closes Rehearsal.service session document before after) ∧
      before.documentAt? Rehearsal.service ":1.8" "a.css" = none ∧
      (dispose before ":1.8" "a.css").2 = before ∧
      Roster.Coincides id (dispose after ":1.8" "b.css").2
        (dispose (dispose before ":1.8" "b.css").2 ":1.7" "./a.css").2 := by
  intro before dispose after
  have keeps : Rehearsal.service.backend.Keeps id := fun _ _ _ => rfl
  obtain ⟨closing, commuting⟩ := course_disposal Rehearsal.begins Rehearsal.tenants keeps
  obtain ⟨named, absent⟩ :
      (before.documentAt? Rehearsal.service ":1.7" "./a.css").isSome = true ∧
        before.documentAt? Rehearsal.service ":1.8" "a.css" = none := by
    decide +kernel
  obtain ⟨document, named⟩ := Option.isSome_iff_exists.mp named
  obtain ⟨session, found, held⟩ := Option.bind_eq_some_iff.mp named
  exact ⟨Rehearsal.begins, keeps,
    ⟨session, document, found, held, (closing _ _).2.1 session document found held⟩, absent,
    (closing _ _).2.2.1 absent, commuting ":1.7" "./a.css" ":1.8" "b.css"⟩

end LintBus

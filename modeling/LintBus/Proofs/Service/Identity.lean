import LintBus.Proofs.Client.Succession
import LintBus.Proofs.Service.Course

/-!
# Identity of sessions and documents

In every course each session stands under its client and each document under its path, and the
numbers of both determine the object path.  An object path that a document has had is never given
to another one, not even when the document, its session or its client has gone away.
-/

namespace LintBus
namespace Service

variable {ω σ : Type} {service : Service ω σ} {roster : Roster ω σ}

private theorem react_follows (orderly : roster.Orderly service.addressing)
    (agrees : service.Agrees roster) (occurrence : Occurrence ω) :
    (service.react roster occurrence).Follows roster := by
  cases occurrence with
  | event event =>
      rw [react]
      cases client : event.client? with
      | none =>
          rw [handle_idle client]
          exact .refl roster
      | some identity => exact (moves_handle orderly agrees client).follows
  | gate gate => exact ⟨Nat.le_refl _, (Roster.Follows.refl roster).sessions⟩
  | world world => exact ⟨Nat.le_refl _, (Roster.Follows.refl roster).sessions⟩

theorem course_follows (orderly : roster.Orderly service.addressing)
    (agrees : service.Agrees roster) (occurrences : List (Occurrence ω)) :
    (service.course occurrences roster).Follows roster := by
  induction occurrences generalizing roster with
  | nil => exact .refl roster
  | cons occurrence rest induction =>
      have first := react_follows orderly agrees occurrence
      obtain ⟨orderly, agrees⟩ := react_sound orderly agrees occurrence
      exact (induction orderly agrees).trans first

/-- In every course from a successful start sessions and documents are found under their own names,
their numbers are distinct and below the next ones, and object paths follow from the numbers and
are distinct.  Documents that have the same object path at two times are the same document, open
in the same session all the time in between. -/
theorem course_identities (begins : service.Begins roster) (occurrences : List (Occurrence ω)) :
    let addressing := service.addressing
    let after := service.course occurrences roster
    (∀ session ∈ after.sessions,
      after.session? session.identity = some session ∧ session.id < after.nextId ∧
      (session.documents.map Document.id).Nodup ∧
      ∀ document ∈ session.documents,
        session.documents.find? document.path = some document ∧
        addressing.canonical document.spelling = document.path ∧
        document.id < session.nextDocument ∧
        document.object = addressing.documentObject session.id document.id) ∧
    (after.sessions.map Session.id).Nodup ∧
    (after.documents.map Document.object).Nodup ∧
    (∀ document ∈ after.documents,
      document.object ≠ addressing.serviceObject ∧
      document.object ≠ addressing.placeholderObject) ∧
    ∀ earlier middle later, occurrences = earlier ++ middle ++ later →
      ∀ former ∈ (service.course earlier roster).sessions, ∀ formerDocument ∈ former.documents,
      ∀ session ∈ after.sessions, ∀ document ∈ session.documents,
        document.object = formerDocument.object →
          document.handle = formerDocument.handle ∧
          session.id = former.id ∧ session.identity = former.identity ∧
          ∃ holder ∈ (service.course (earlier ++ middle) roster).sessions,
            holder.id = former.id ∧ holder.identity = former.identity ∧
            ∃ held ∈ holder.documents, held.handle = document.handle := by
  intro addressing after
  obtain ⟨begin_orderly, begin_agrees⟩ := begins.sound
  have sound := course_sound begin_orderly begin_agrees
  have orderly : after.Orderly addressing := (sound occurrences).1
  refine ⟨fun session session_mem => ?_, orderly.ids, orderly.objects_nodup, ?_, ?_⟩
  · have session_orderly := orderly.sessions session session_mem
    have numbers := session_orderly.numbers
    rw [Session.handles, Documents.handles, List.map_map] at numbers
    refine ⟨Roster.session?_eq_some orderly.identities session_mem,
      orderly.numbered session session_mem, numbers, fun document held => ?_⟩
    have handle_held := Documents.handle_mem held
    exact ⟨Documents.find?_eq_some session_orderly.distinct held document.path.same_refl,
      session_orderly.spelled document.handle handle_held,
      session_orderly.numbered document.handle handle_held,
      session_orderly.object_eq held⟩
  · intro document open_in
    have holds := Roster.holds_of_mem_documents open_in
    exact ⟨orderly.ne_serviceObject holds, orderly.ne_placeholderObject holds⟩
  · rintro earlier middle later rfl former former_mem formerDocument former_held session
      session_mem document document_held same
    obtain ⟨first_orderly, first_agrees⟩ := sound earlier
    obtain ⟨middle_orderly, middle_agrees⟩ := sound (earlier ++ middle)
    have first_to_middle := course_follows first_orderly first_agrees middle
    have middle_to_last := course_follows middle_orderly middle_agrees later
    rw [← course_append] at first_to_middle middle_to_last
    obtain ⟨handle_eq, continues, holder, holder_mem, continued, held⟩ :=
      middle_to_last.held_between first_to_middle first_orderly orderly former_mem
        (Documents.handle_mem former_held) session_mem (Documents.handle_mem document_held) same
    exact ⟨handle_eq, continues.id_eq, continues.identity_eq, holder, holder_mem,
      continued.id_eq, continued.identity_eq, Documents.mem_handles.mp held⟩

end Service

/-- A client leaves and comes back under the same name, and opens the same document. -/
def Rehearsal.comeback : List (Occurrence Stage) :=
  [.event (Rehearsal.parse ":1.7" "a.css"), .event (Rehearsal.leave ":1.7"),
    .event (Rehearsal.parse ":1.7" "a.css")]

theorem Service.course_identities_comeback :
    let before := Rehearsal.service.course (Rehearsal.comeback.take 1) Rehearsal.roster
    let after := Rehearsal.service.course Rehearsal.comeback Rehearsal.roster
    Rehearsal.service.Begins Rehearsal.roster ∧
      before.documents.length = 1 ∧ after.documents.length = 1 ∧
      ∀ former ∈ before.sessions, ∀ formerDocument ∈ former.documents,
        ∀ session ∈ after.sessions, ∀ document ∈ session.documents,
          document.object ≠ formerDocument.object := by
  refine ⟨Rehearsal.begins, by decide +kernel, by decide +kernel, ?_⟩
  intro former former_mem formerDocument former_held session session_mem document held same
  obtain ⟨-, -, -, holder, holder_mem, -⟩ :=
    (course_identities Rehearsal.begins Rehearsal.comeback).2.2.2.2
      (Rehearsal.comeback.take 1) [.event (Rehearsal.leave ":1.7")]
      [.event (Rehearsal.parse ":1.7" "a.css")] rfl former former_mem formerDocument former_held
      session session_mem document held same
  have gone : (Rehearsal.service.course
      (Rehearsal.comeback.take 1 ++ [.event (Rehearsal.leave ":1.7")])
      Rehearsal.roster).sessions = [] :=
    List.eq_nil_of_length_eq_zero (by decide +kernel)
  rw [gone] at holder_mem
  exact absurd holder_mem List.not_mem_nil

end LintBus

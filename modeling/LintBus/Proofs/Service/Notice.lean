import LintBus.Proofs.Client.Occupancy
import LintBus.Proofs.Service.Course

/-!
# Notices of owners

A notice tells of a bus name who has owned it and who owns it now.  When nobody owns it any more,
the session of the former owner is torn down, whatever the name was, and nothing else changes.  So
only a client that leaves is reaped as long as the notices are about the names that clients have
from the bus; a client that gives up another name is reaped as well.
-/

namespace LintBus

namespace OwnerChange

/-- A client has owned the name, and nobody owns it any more. -/
structure LostBy (change : OwnerChange) (identity : String) : Prop where
  named : identity ≠ ""
  owned : change.oldOwner = identity
  vacant : change.newOwner = ""

private theorem departed?_eq_some {change : OwnerChange} {identity : String} :
    change.departed? = some identity ↔ change.LostBy identity := by
  simp only [departed?]
  constructor
  · intro departed
    split at departed
    · next lost =>
        obtain rfl := Option.some.inj departed
        simp only [Bool.and_eq_true, Bool.not_eq_true', String.isEmpty_iff,
          String.isEmpty_eq_false_iff] at lost
        exact ⟨lost.2, rfl, lost.1⟩
    · simp at departed
  · rintro ⟨named, rfl, vacant⟩
    simp [named, vacant]

/-- A name without an owner is the one that its former owner has from the bus. -/
def Unique (change : OwnerChange) : Prop :=
  change.newOwner = "" → change.name = change.oldOwner

end OwnerChange

namespace Roster

variable {ω σ : Type} {service : Service ω σ} {roster after : Roster ω σ}

/-- One roster comes from another by tearing down a session and by nothing else. -/
structure Reaps (service : Service ω σ) (session : Session σ) (before after : Roster ω σ) :
    Prop where
  /-- The client has no session any more. -/
  gone : after.session? session.identity = none
  /-- Other clients have what they had. -/
  others : ∀ client, client ≠ session.identity → after.session? client = before.session? client
  /-- The backend has been asked to release the documents of the session. -/
  released : after.around.released =
    service.backend.informed session.documents.reverse ++ before.around.released
  /-- Just the interfaces of its documents are no longer exported. -/
  retracted : ∀ pair, pair ∈ after.around.bus.exports.pairs ↔
    pair ∈ before.around.bus.exports.pairs ∧ ∀ document ∈ session.documents,
      ¬ (pair.1 = document.object ∧ pair.2 ∈ service.addressing.interfaces)
  /-- It is counted whether it was the last session. -/
  emptied : after.emptied = before.emptied + if after.sessions.isEmpty then 1 else 0

private theorem reaps_dismiss {session : Session σ}
    (found : roster.session? session.identity = some session) :
    roster.Reaps service session (roster.dismiss service session.identity) := by
  constructor
  · rw [session?_dismiss, if_pos rfl]
  · intro client different
    rw [session?_dismiss, if_neg different]
  · rw [dismiss_released, documentsOf, found, Option.elim_some]
  · intro pair
    rw [dismiss_around found, Session.mem_releaseAll]
  · exact dismiss_emptied service found

section Notices

variable {change : OwnerChange}

private theorem ownerChanged_lost {session : Session σ}
    (found : roster.session? session.identity = some session)
    (lost : change.LostBy session.identity) :
    roster.Reaps service session (roster.ownerChanged service change).2 := by
  rw [ownerChanged_departed (OwnerChange.departed?_eq_some.mpr lost)]
  exact reaps_dismiss found

private theorem session?_ownerChanged (service : Service ω σ) (roster : Roster ω σ)
    {identity : String}
    (stays : ¬ change.LostBy identity) :
    (roster.ownerChanged service change).2.session? identity = roster.session? identity := by
  cases departed : change.departed? with
  | none => rw [ownerChanged_idle departed]
  | some other =>
      have different : identity ≠ other := by
        rintro rfl
        exact stays (OwnerChange.departed?_eq_some.mp departed)
      rw [ownerChanged_departed departed, session?_dismiss, if_neg different]

private theorem ownerChanged_absent (service : Service ω σ)
    (absent : ∀ identity, change.LostBy identity → roster.session? identity = none) :
    (roster.ownerChanged service change).2 = roster := by
  cases departed : change.departed? with
  | none => rw [ownerChanged_idle departed]
  | some identity =>
      have missing := absent identity (OwnerChange.departed?_eq_some.mp departed)
      rw [ownerChanged_departed departed, dismiss_none missing]

end Notices

/-- For every roster and every notice: the session of a client is torn down if the client has owned
the name and nobody owns it now, and stays as it is otherwise; if that client has no session nothing
changes at all.  The name itself makes no difference.  When it is the one that its owner has from
the bus, a client is reaped if and only if the notice tells that this very client has left, and any
other notice leaves everything as it is. -/
theorem ownerChanged_reaps (service : Service ω σ) (roster : Roster ω σ) (change : OwnerChange) :
    let after := (roster.ownerChanged service change).2
    (∀ identity session, roster.session? identity = some session →
      (change.LostBy identity → roster.Reaps service session after) ∧
      (¬ change.LostBy identity → after.session? identity = some session)) ∧
    ((∀ identity, change.LostBy identity → roster.session? identity = none) → after = roster) ∧
    (change.Unique →
      (∀ identity session, identity ≠ "" → roster.session? identity = some session →
        (after.session? identity = none ↔
          change.name = identity ∧ change.oldOwner = identity ∧ change.newOwner = "")) ∧
      ((∀ identity, change.LostBy identity → change.name = identity →
        roster.session? identity = none) → after = roster)) := by
  intro after
  refine ⟨fun identity session found => ⟨fun lost => ?_, fun stays => ?_⟩,
    ownerChanged_absent service,
    fun unique => ⟨fun identity session named found => ⟨fun gone => ?_, ?_⟩, fun absent => ?_⟩⟩
  · obtain ⟨-, rfl⟩ := session?_some found
    exact ownerChanged_lost found lost
  · exact (session?_ownerChanged service roster stays).trans found
  · by_contra other
    have stays : ¬ change.LostBy identity := fun lost =>
      other ⟨(unique lost.vacant).trans lost.owned, lost.owned, lost.vacant⟩
    have kept := session?_ownerChanged service roster stays
    rw [show (roster.ownerChanged service change).2.session? identity = none from gone,
      found] at kept
    exact absurd kept.symm (Option.some_ne_none session)
  · rintro ⟨-, owned, vacant⟩
    obtain ⟨-, rfl⟩ := session?_some found
    exact (ownerChanged_lost found ⟨named, owned, vacant⟩).gone
  · exact ownerChanged_absent service fun identity lost =>
      absent identity lost ((unique lost.vacant).trans lost.owned)

end Roster

namespace Rehearsal

/-- Two clients have a document open each. -/
def companions : Roster Stage Unit :=
  service.course [.event (parse ":1.7" "a.css"), .event (parse ":1.8" "b.css")] roster

/-- A client that is still there gives up a name that other clients know it by. -/
def retirement : OwnerChange := ⟨"org.example.Editor", ":1.7", ""⟩

end Rehearsal

theorem Roster.ownerChanged_reaps_departure :
    let notice := OwnerChange.departure ":1.7"
    let after := (Rehearsal.companions.ownerChanged Rehearsal.service notice).2
    notice.Unique ∧ notice.LostBy ":1.7" ∧ ¬ notice.LostBy ":1.8" ∧
      (Rehearsal.companions.session? ":1.8").isSome = true ∧
      after.session? ":1.7" = none ∧
      after.session? ":1.8" = Rehearsal.companions.session? ":1.8" := by
  intro notice after
  have lost : notice.LostBy ":1.7" := ⟨by decide, rfl, rfl⟩
  have stays : ¬ notice.LostBy ":1.8" := fun ⟨_, owned, _⟩ => absurd owned (by decide)
  obtain ⟨decides, -, unique⟩ := ownerChanged_reaps Rehearsal.service Rehearsal.companions notice
  have leaving : (Rehearsal.companions.session? ":1.7").isSome = true := by decide +kernel
  have staying : (Rehearsal.companions.session? ":1.8").isSome = true := by decide +kernel
  obtain ⟨left, left_found⟩ := Option.isSome_iff_exists.mp leaving
  obtain ⟨right, right_found⟩ := Option.isSome_iff_exists.mp staying
  refine ⟨fun _ => rfl, lost, stays, staying, ?_, ?_⟩
  · exact ((unique fun _ => rfl).1 ":1.7" left lost.named left_found).mpr ⟨rfl, rfl, rfl⟩
  · rw [(decides ":1.8" right right_found).2 stays, right_found]

/-- A client that gives up a name is reaped although it has not left the bus. -/
theorem Roster.ownerChanged_retirement :
    let after := (Rehearsal.companions.ownerChanged Rehearsal.service Rehearsal.retirement).2
    Rehearsal.retirement.name ≠ ":1.7" ∧
      Rehearsal.companions.contains ":1.7" = true ∧ after.contains ":1.7" = false ∧
      after.around.released.map Document.spelling = ["a.css"] ∧
      after.around.bus.interfaces (Rehearsal.service.addressing.documentObject 0 0) = [] := by
  decide +kernel

end LintBus

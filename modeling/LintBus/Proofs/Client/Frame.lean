import LintBus.Proofs.Backend.Confined
import LintBus.Proofs.Client.Moves

/-!
# What moves leave alone

The moves of one client leave the sessions of all others and the gate of the bus alone, and with
a confined backend the world.
-/

namespace LintBus

variable {ω σ : Type}

namespace Session

theorem release_state (session : Session σ) (backend : Backend ω σ) (addressing : Addressing)
    (around : Surroundings ω) (document : Document) :
    (session.release backend addressing around document).1.state =
      backend.stateAfterRelease around.world session.state document := by
  simp only [release, Backend.stateAfterRelease]
  cases backend.dispose with
  | none => rfl
  | some dispose => rfl

private theorem release_world {backend : Backend ω σ} {addressing : Addressing}
    (confined : backend.Confined addressing) (session : Session σ) (around : Surroundings ω)
    (document : Document) :
    (session.release backend addressing around document).2.world = around.world := by
  simp only [release]
  split
  · rfl
  · next dispose present => exact confined.dispose_world dispose present _ _ _

end Session

private theorem Backend.Leaves.world_eq {backend : Backend ω σ} {addressing : Addressing}
    (confined : backend.Confined addressing) {before after : ω}
    (leaves : backend.Leaves before after) : after = before := by
  cases leaves with
  | untouched => rfl
  | parse state document options => exact confined.parse_world _ _ _ _
  | parseAll state root members options documents =>
      exact (confined.parseAll _ _ _ _ _).run_world _ _

namespace Roster

variable {service : Service ω σ} {identity : String} {before after : Roster ω σ}

private theorem Move.gate_eq (move : Move service identity before after) :
    after.around.bus.gate = before.around.bus.gate := by
  cases move with
  | enroll absent => rfl
  | enlist found fresh adds => exact adds.gate_eq
  | revise found revises leaves => rfl
  | @close session document found held =>
      have bus_eq := session.release_bus service.backend service.addressing before.around document
      rw [Roster.close, bus_eq, Bus.retractAll_gate]
  | drop emptied found empty => rfl

/-- Each move of one client leaves the sessions of others alone. -/
theorem Move.frame (move : Move service identity before after) {other : String}
    (different : other ≠ identity) : after.session? other = before.session? other := by
  cases move with
  | enroll absent => rw [session?_enroll service absent, if_neg different]
  | @enlist session path bus found fresh adds =>
      obtain ⟨-, rfl⟩ := session?_some found
      have replaced := session?_setSession (session.enlist service.addressing path) found other
      rw [if_neg (show other ≠ (session.enlist _ _).identity from different)] at replaced
      exact replaced
  | @revise session revised world found revises leaves =>
      obtain ⟨-, rfl⟩ := session?_some found
      rw [← revises.identity_eq] at found different
      have replaced := session?_setSession revised found other
      rw [if_neg different] at replaced
      exact replaced
  | @close session document found held =>
      obtain ⟨-, rfl⟩ := session?_some found
      rw [session?_close service found, if_neg different]
  | drop emptied found empty =>
      have erased := session?_eraseSession before identity other
      rw [if_neg different] at erased
      exact erased

private theorem Move.world_eq (confined : service.backend.Confined service.addressing)
    (move : Move service identity before after) : after.around.world = before.around.world := by
  cases move with
  | enroll absent => rfl
  | enlist found fresh adds => rfl
  | revise found revises leaves => exact leaves.world_eq confined
  | @close session document found held =>
      exact session.release_world confined before.around document
  | drop emptied found empty => rfl

theorem Moves.gate_eq (moves : Moves service identity before after) :
    after.around.bus.gate = before.around.bus.gate := by
  induction moves with
  | refl => rfl
  | tail _ move induction => exact move.gate_eq.trans induction

theorem Moves.frame (moves : Moves service identity before after) {other : String}
    (different : other ≠ identity) : after.session? other = before.session? other := by
  induction moves with
  | refl => rfl
  | tail _ move induction => exact (move.frame different).trans induction

theorem Moves.world_eq (confined : service.backend.Confined service.addressing)
    (moves : Moves service identity before after) : after.around.world = before.around.world := by
  induction moves with
  | refl => rfl
  | tail _ move induction => exact (move.world_eq confined).trans induction

/-- An orderly roster in agreement with a bus whose gate admits all documents. -/
structure Ready (service : Service ω σ) (roster : Roster ω σ) : Prop where
  orderly : roster.Orderly service.addressing
  agrees : service.Agrees roster
  admits : ∀ number id interface,
    roster.around.bus.gate (service.addressing.documentObject number id) interface = none

theorem Moves.ready (moves : Moves service identity before after)
    (ready : before.Ready service) : after.Ready service := by
  obtain ⟨orderly, agrees⟩ := moves.sound ready.orderly ready.agrees
  refine ⟨orderly, agrees, ?_⟩
  rw [moves.gate_eq]
  exact ready.admits

end Roster
end LintBus

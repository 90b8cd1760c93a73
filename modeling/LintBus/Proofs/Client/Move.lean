import LintBus.Proofs.Client.Roster
import Mathlib.Logic.Relation

/-!
# Moves

Whatever a service does for a client is a row of five kinds of moves: it enrolls a session, enlists
a document in it, revises it, closes a document of it, or drops it once it has no documents.  Each
move keeps a roster orderly and keeps the bus in agreement with the open documents.
-/

namespace LintBus

open Relation (ReflTransGen)

variable {ω σ : Type}

/-- A service that has the handles of a roster open exports exactly what it offers at its own
path and at the placeholder, and the interfaces of documents at the path of each handle. -/
def Service.Agrees (service : Service ω σ) (roster : Roster ω σ) : Prop :=
  ∀ pair, pair ∈ roster.around.bus.exports.pairs ↔
    pair.1 = service.addressing.serviceObject ∧ pair.2 ∈ service.backend.offer.service ∨
    pair.1 = service.addressing.placeholderObject ∧ pair.2 ∈ service.backend.offer.document ∨
    ∃ handle, roster.Holds handle ∧ pair.1 = handle.object ∧
      pair.2 ∈ service.addressing.interfaces

namespace Service.Agrees

variable {service : Service ω σ} {roster : Roster ω σ}

/-- Nothing is exported but at the path of the service, at the placeholder and at open documents. -/
theorem exported (agrees : service.Agrees roster) {path : String}
    (shown : roster.around.bus.interfaces path ≠ []) :
    path = service.addressing.serviceObject ∨ path = service.addressing.placeholderObject ∨
      ∃ handle, roster.Holds handle ∧ path = handle.object := by
  obtain ⟨interface, listed⟩ := List.exists_mem_of_ne_nil _ shown
  rcases (agrees _).mp ((Exports.mem_interfaces ..).mp listed) with
    ⟨same, -⟩ | ⟨same, -⟩ | ⟨handle, holds, same, -⟩
  · exact .inl same
  · exact .inr (.inl same)
  · exact .inr (.inr ⟨handle, holds, same⟩)

theorem mem_serviceObject (agrees : service.Agrees roster)
    (orderly : roster.Orderly service.addressing) (interface : Interface) :
    (service.addressing.serviceObject, interface) ∈ roster.around.bus.exports.pairs ↔
      interface ∈ service.backend.offer.service := by
  rw [agrees]
  constructor
  · rintro (⟨-, listed⟩ | ⟨same, -⟩ | ⟨handle, holds, same, -⟩)
    · exact listed
    · exact absurd same.symm service.addressing.placeholderObject_ne_serviceObject
    · exact absurd same.symm (orderly.ne_serviceObject holds)
  · exact fun listed => .inl ⟨rfl, listed⟩

theorem mem_placeholderObject (agrees : service.Agrees roster)
    (orderly : roster.Orderly service.addressing) (interface : Interface) :
    (service.addressing.placeholderObject, interface) ∈ roster.around.bus.exports.pairs ↔
      interface ∈ service.backend.offer.document := by
  rw [agrees]
  constructor
  · rintro (⟨same, -⟩ | ⟨-, listed⟩ | ⟨handle, holds, same, -⟩)
    · exact absurd same service.addressing.placeholderObject_ne_serviceObject
    · exact listed
    · exact absurd same.symm (orderly.ne_placeholderObject holds)
  · exact fun listed => .inr (.inl ⟨rfl, listed⟩)

theorem mem_object (agrees : service.Agrees roster)
    (orderly : roster.Orderly service.addressing) {handle : Handle}
    (holds : roster.Holds handle) (interface : Interface) :
    (handle.object, interface) ∈ roster.around.bus.exports.pairs ↔
      interface ∈ service.addressing.interfaces := by
  rw [agrees]
  constructor
  · rintro (⟨same, -⟩ | ⟨same, -⟩ | ⟨-, -, -, listed⟩)
    · exact absurd same (orderly.ne_serviceObject holds)
    · exact absurd same (orderly.ne_placeholderObject holds)
    · exact listed
  · exact fun listed => .inr (.inr ⟨handle, holds, rfl, listed⟩)

end Service.Agrees

namespace Roster

/-- Where documents are going to be, exactly the interfaces of the open ones are exported. -/
def Shows (addressing : Addressing) (roster : Roster ω σ) : Prop :=
  ∀ number id interface,
    (addressing.documentObject number id, interface) ∈ roster.around.bus.exports.pairs ↔
      interface ∈ addressing.interfaces ∧
        ∃ handle, roster.Holds handle ∧ handle.object = addressing.documentObject number id

/-- A bus that agrees with a roster shows its open documents. -/
theorem shows_of_agrees {service : Service ω σ} {roster : Roster ω σ}
    (agrees : service.Agrees roster) : roster.Shows service.addressing := by
  intro number id interface
  rw [agrees]
  constructor
  · rintro (⟨same, -⟩ | ⟨same, -⟩ | ⟨handle, holds, same, listed⟩)
    · exact absurd same (service.addressing.documentObject_ne_serviceObject number id)
    · exact absurd same (service.addressing.documentObject_ne_placeholderObject number id)
    · exact ⟨listed, handle, holds, same.symm⟩
  · rintro ⟨listed, handle, holds, same⟩
    exact .inr (.inr ⟨handle, holds, same.symm, listed⟩)

/-- The roster with a new session for a client. -/
def enroll (service : Service ω σ) (roster : Roster ω σ) (identity : String) : Roster ω σ :=
  { roster with
    sessions := roster.sessions ++
      [Session.opened roster.nextId identity service.backend.create]
    nextId := roster.nextId + 1 }

/-- The roster with a document of a session closed. -/
def close (service : Service ω σ) (roster : Roster ω σ) (session : Session σ)
    (document : Document) : Roster ω σ :=
  let released := session.release service.backend service.addressing roster.around document
  { roster.setSession (session.forget released.1.state document.path) with
    around := released.2 }

/-- One move that a service makes for a client. -/
inductive Move (service : Service ω σ) (identity : String) (roster : Roster ω σ) :
    Roster ω σ → Prop
  | enroll (absent : roster.session? identity = none) :
      Move service identity roster (roster.enroll service identity)
  | enlist {session : Session σ} {path : String} {bus : Bus}
      (found : roster.session? identity = some session)
      (fresh : session.documents.find? (service.addressing.canonical path) = none)
      (adds : bus.Adds roster.around.bus
        (service.addressing.documentObject session.id session.nextDocument)
        service.addressing.interfaces) :
      Move service identity roster
        ((roster.setSession (session.enlist service.addressing path)).setBus bus)
  | revise {session revised : Session σ} {world : ω}
      (found : roster.session? identity = some session)
      (revises : revised.Revises session)
      (leaves : service.backend.Leaves roster.around.world world) :
      Move service identity roster ((roster.setSession revised).setWorld world)
  | close {session : Session σ} {document : Document}
      (found : roster.session? identity = some session)
      (held : document ∈ session.documents) :
      Move service identity roster (roster.close service session document)
  | drop {session : Session σ} (emptied : Nat)
      (found : roster.session? identity = some session)
      (empty : session.documents = []) :
      Move service identity roster { roster.eraseSession identity with emptied := emptied }

/-- A row of moves that a service makes for a client. -/
def Moves (service : Service ω σ) (identity : String) : Roster ω σ → Roster ω σ → Prop :=
  ReflTransGen (Move service identity)

section Enroll

variable {service : Service ω σ} {roster : Roster ω σ} {identity : String}

theorem sessionFor_some {session : Session σ}
    (found : roster.session? identity = some session) :
    roster.sessionFor service identity = (session, roster) := by
  simp [sessionFor, found]

theorem sessionFor_none (absent : roster.session? identity = none) :
    roster.sessionFor service identity =
      (Session.opened roster.nextId identity service.backend.create,
        roster.enroll service identity) := by
  simp [sessionFor, absent, enroll]

theorem session?_enroll (service : Service ω σ) (absent : roster.session? identity = none)
    (other : String) :
    (roster.enroll service identity).session? other =
      if other = identity then
        some (Session.opened roster.nextId identity service.backend.create)
      else roster.session? other := by
  simp only [session?, enroll, List.find?_append]
  split
  · next same =>
      subst same
      unfold session? at absent
      simp [absent, Session.opened]
  · next different =>
      have unlike : identity ≠ other := fun same => different same.symm
      simp [Session.opened, unlike]

theorem session?_enroll_self (service : Service ω σ)
    (absent : roster.session? identity = none) :
    (roster.enroll service identity).session? identity =
      some (Session.opened roster.nextId identity service.backend.create) := by
  rw [session?_enroll service absent, if_pos rfl]

theorem session?_sessionFor (service : Service ω σ) (roster : Roster ω σ) (identity : String) :
    (roster.sessionFor service identity).2.session? identity =
      some (roster.sessionFor service identity).1 := by
  cases found : roster.session? identity with
  | some session => simpa only [sessionFor_some found] using found
  | none => simpa only [sessionFor_none found] using session?_enroll_self service found

theorem holds_enroll (handle : Handle) :
    (roster.enroll service identity).Holds handle ↔ roster.Holds handle := by
  simp only [Holds, enroll, List.mem_append, List.mem_singleton]
  constructor
  · rintro ⟨holder, holder_mem | rfl, held⟩
    · exact ⟨holder, holder_mem, held⟩
    · simp [Session.opened, Session.handles, Documents.handles] at held
  · rintro ⟨holder, holder_mem, held⟩
    exact ⟨holder, .inl holder_mem, held⟩

end Enroll

section Replace

variable {addressing : Addressing} {roster : Roster ω σ} {identity : String}
  {session revised : Session σ}

theorem holds_revise (orderly : roster.Orderly addressing)
    (found : roster.session? identity = some session) (revises : revised.Revises session)
    {world : ω} (handle : Handle) :
    ((roster.setSession revised).setWorld world).Holds handle ↔ roster.Holds handle := by
  obtain ⟨session_mem, rfl⟩ := session?_some found
  rw [← revises.identity_eq] at found
  change (roster.setSession revised).Holds handle ↔ _
  rw [holds_setSession _ found, holds_iff orderly.identities found, revises.handles_eq]

theorem holds_drop (orderly : roster.Orderly addressing)
    (found : roster.session? identity = some session) (empty : session.documents = [])
    {emptied : Nat} (handle : Handle) :
    Holds { roster.eraseSession identity with emptied := emptied } handle ↔
      roster.Holds handle := by
  have none_held : handle ∉ session.handles := by
    simp [Session.handles, Documents.handles, empty]
  change (roster.eraseSession identity).Holds handle ↔ _
  rw [holds_iff orderly.identities found]
  simp only [none_held, false_or, Holds, HeldElsewhere, mem_eraseSession, and_assoc]

end Replace

section Enlist

variable {service : Service ω σ} {roster : Roster ω σ} {identity : String}
  {session : Session σ}

theorem holds_enlist (orderly : roster.Orderly service.addressing)
    (found : roster.session? identity = some session) (path : String) (bus : Bus)
    (handle : Handle) :
    ((roster.setSession (session.enlist service.addressing path)).setBus bus).Holds handle ↔
      roster.Holds handle ∨
        handle =
          ⟨session.nextDocument, service.addressing.canonical path, path,
            service.addressing.documentObject session.id session.nextDocument⟩ := by
  obtain ⟨session_mem, rfl⟩ := session?_some found
  change (roster.setSession (session.enlist service.addressing path)).Holds handle ↔ _
  rw [holds_setSession (session.enlist service.addressing path) found,
    holds_iff orderly.identities found, Session.handles_enlist, List.mem_append,
    List.mem_singleton]
  exact or_right_comm

end Enlist

section Close

variable {service : Service ω σ} {roster : Roster ω σ} {identity : String}
  {session : Session σ} {document : Document}

theorem session?_close (service : Service ω σ)
    (found : roster.session? session.identity = some session) (document : Document)
    (other : String) :
    (roster.close service session document).session? other =
      if other = session.identity then
        some (session.forget
          (session.release service.backend service.addressing roster.around document).1.state
          document.path)
      else roster.session? other :=
  session?_setSession (session.forget _ document.path) found other

private theorem mem_exports_close (roster : Roster ω σ) (pair : String × Interface) :
    pair ∈ (roster.close service session document).around.bus.exports.pairs ↔
      pair ∈ roster.around.bus.exports.pairs ∧
        ¬ (pair.1 = document.object ∧ pair.2 ∈ service.addressing.interfaces) := by
  simp [Roster.close]

theorem holds_close (orderly : roster.Orderly service.addressing)
    (found : roster.session? identity = some session) (held : document ∈ session.documents)
    (handle : Handle) :
    (roster.close service session document).Holds handle ↔
      roster.Holds handle ∧ handle ≠ document.handle := by
  obtain ⟨session_mem, rfl⟩ := session?_some found
  have distinct := (orderly.sessions session session_mem).distinct
  have document_held := Documents.handle_mem held
  let remaining := session.forget
    (session.release service.backend service.addressing roster.around document).1.state
    document.path
  change (roster.setSession remaining).Holds handle ↔ _
  rw [holds_setSession remaining found, holds_iff orderly.identities found]
  have erased : handle ∈ remaining.handles ↔
      handle ∈ session.handles ∧ handle ≠ document.handle :=
    Documents.mem_handles_erase distinct held handle
  rw [erased]
  constructor
  · rintro (⟨held, different⟩ | ⟨holder, holder_mem, elsewhere, held⟩)
    · exact ⟨.inl held, different⟩
    · refine ⟨.inr ⟨holder, holder_mem, elsewhere, held⟩, ?_⟩
      rintro rfl
      obtain rfl := (orderly.eq_of_object holder_mem session_mem held document_held rfl).1
      exact elsewhere rfl
  · rintro ⟨held | elsewhere, different⟩
    · exact .inl ⟨held, different⟩
    · exact .inr elsewhere

end Close

namespace Move

variable {service : Service ω σ} {identity : String} {before after : Roster ω σ}

/-- Each move keeps a roster orderly. -/
theorem orderly (move : Move service identity before after)
    (orderly : before.Orderly service.addressing) : after.Orderly service.addressing := by
  cases move with
  | enroll absent =>
      have absent := session?_none.mp absent
      constructor
      · rw [Roster.enroll, List.map_append, List.nodup_append]
        refine ⟨orderly.identities, List.nodup_singleton _, ?_⟩
        intro held held_mem other other_mem
        obtain ⟨session, session_mem, rfl⟩ := List.mem_map.mp held_mem
        obtain rfl : other = identity := by simpa [Session.opened] using other_mem
        exact absent session session_mem
      · rw [Roster.enroll, List.map_append, List.nodup_append]
        refine ⟨orderly.ids, List.nodup_singleton _, ?_⟩
        intro held held_mem other other_mem
        obtain ⟨session, session_mem, rfl⟩ := List.mem_map.mp held_mem
        obtain rfl : other = before.nextId := by simpa [Session.opened] using other_mem
        exact Nat.ne_of_lt (orderly.numbered session session_mem)
      · intro session session_mem
        rcases List.mem_append.mp session_mem with session_mem | session_mem
        · exact Nat.lt_succ_of_lt (orderly.numbered session session_mem)
        · obtain rfl := List.mem_singleton.mp session_mem
          exact Nat.lt_succ_self _
      · intro session session_mem
        rcases List.mem_append.mp session_mem with session_mem | session_mem
        · exact orderly.sessions session session_mem
        · obtain rfl := List.mem_singleton.mp session_mem
          exact Session.opened_orderly ..
  | @enlist session path bus found fresh adds =>
      obtain ⟨session_mem, rfl⟩ := session?_some found
      have enlisted := Session.enlist_orderly (orderly.sessions session session_mem) fresh
      have replaced :=
        orderly.setSession (session.enlist service.addressing path) found rfl enlisted
      exact ⟨replaced.identities, replaced.ids, replaced.numbered, replaced.sessions⟩
  | @revise session revised world found revises leaves =>
      obtain ⟨session_mem, rfl⟩ := session?_some found
      rw [← revises.identity_eq] at found
      have replaced := orderly.setSession revised found revises.id_eq
        (revises.orderly (orderly.sessions session session_mem))
      exact ⟨replaced.identities, replaced.ids, replaced.numbered, replaced.sessions⟩
  | @close session document found held =>
      obtain ⟨session_mem, rfl⟩ := session?_some found
      have forgotten := Session.forget_orderly (orderly.sessions session session_mem)
        (session.release service.backend service.addressing before.around document).1.state
        document.path
      have replaced := orderly.setSession (session.forget _ document.path) found rfl forgotten
      exact ⟨replaced.identities, replaced.ids, replaced.numbered, replaced.sessions⟩
  | drop emptied found empty =>
      have kept : (before.eraseSession identity).sessions.Sublist before.sessions :=
        List.filter_sublist
      constructor
      · exact orderly.identities.sublist (kept.map Session.identity)
      · exact orderly.ids.sublist (kept.map Session.id)
      · exact fun session found => orderly.numbered session (kept.subset found)
      · exact fun session found => orderly.sessions session (kept.subset found)

/-- Each move keeps the bus in agreement with the open documents. -/
theorem agrees (move : Move service identity before after)
    (orderly : before.Orderly service.addressing) (agrees : service.Agrees before) :
    service.Agrees after := by
  cases move with
  | enroll absent =>
      intro pair
      simp only [holds_enroll]
      exact agrees pair
  | @enlist session path bus found fresh adds =>
      intro pair
      simp only [holds_enlist orderly found, or_and_right, exists_or, exists_eq_left]
      rw [← or_assoc, ← or_assoc, or_assoc (b := _ ∧ _), ← agrees pair]
      exact adds.mem_iff pair
  | @revise session revised world found revises leaves =>
      intro pair
      simp only [holds_revise orderly found revises]
      exact agrees pair
  | @close session document found held =>
      obtain ⟨session_mem, rfl⟩ := session?_some found
      have document_held := holds_document session_mem held
      intro pair
      rw [mem_exports_close, agrees pair]
      simp only [holds_close orderly found held]
      constructor
      · rintro ⟨shown | shown | ⟨handle, handle_held, path_eq, listed⟩, kept⟩
        · exact .inl shown
        · exact .inr (.inl shown)
        · refine .inr (.inr ⟨handle, ⟨handle_held, ?_⟩, path_eq, listed⟩)
          rintro rfl
          exact kept ⟨path_eq, listed⟩
      · rintro (shown | shown | ⟨handle, ⟨handle_held, different⟩, path_eq, listed⟩)
        · refine ⟨.inl shown, fun same => ?_⟩
          exact orderly.ne_serviceObject document_held (same.1.symm.trans shown.1)
        · refine ⟨.inr (.inl shown), fun same => ?_⟩
          exact orderly.ne_placeholderObject document_held (same.1.symm.trans shown.1)
        · refine ⟨.inr (.inr ⟨handle, handle_held, path_eq, listed⟩), fun same => different ?_⟩
          exact orderly.handle_eq_of_object handle_held document_held (path_eq.symm.trans same.1)
  | @drop session emptied found empty =>
      intro pair
      simp only [holds_drop orderly found empty]
      exact agrees pair

/-- Each move keeps showing the open documents. -/
theorem shows (move : Move service identity before after)
    (orderly : before.Orderly service.addressing) (shows : before.Shows service.addressing) :
    after.Shows service.addressing := by
  intro number id interface
  cases move with
  | enroll absent =>
      simp only [holds_enroll]
      exact shows number id interface
  | @enlist session path bus found fresh adds =>
      simp only [holds_enlist orderly found, or_and_right, exists_or, exists_eq_left]
      rw [and_or_left, ← shows number id interface]
      refine (adds.mem_iff _).trans (or_congr_right ?_)
      rw [and_comm, eq_comm]
  | @revise session revised world found revises leaves =>
      simp only [holds_revise orderly found revises]
      exact shows number id interface
  | @close session document found held =>
      obtain ⟨session_mem, rfl⟩ := session?_some found
      have document_held := holds_document session_mem held
      rw [mem_exports_close, shows number id interface]
      simp only [holds_close orderly found held]
      constructor
      · rintro ⟨⟨listed, handle, handle_held, same⟩, kept⟩
        refine ⟨listed, handle, ⟨handle_held, ?_⟩, same⟩
        rintro rfl
        exact kept ⟨same.symm, listed⟩
      · rintro ⟨listed, handle, ⟨handle_held, different⟩, same⟩
        refine ⟨⟨listed, handle, handle_held, same⟩, fun retracted => different ?_⟩
        exact orderly.handle_eq_of_object handle_held document_held (same.trans retracted.1)
  | @drop session emptied found empty =>
      simp only [holds_drop orderly found empty]
      exact shows number id interface

end Move

end Roster
end LintBus

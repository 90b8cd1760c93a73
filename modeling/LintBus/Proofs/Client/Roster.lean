import LintBus.Client.Roster
import LintBus.Proofs.Client.Session
import LintBus.Proofs.Document.Addressing

/-!
# Orderly rosters

In an orderly roster no client has two sessions, no number is used twice and every session is
orderly.  An object path then belongs to at most one open document.
-/

namespace LintBus
namespace Roster

variable {ω σ : Type}

theorem session?_some {roster : Roster ω σ} {identity : String} {session : Session σ}
    (found : roster.session? identity = some session) :
    session ∈ roster.sessions ∧ session.identity = identity := by
  unfold session? at found
  have same := List.find?_some found
  exact ⟨List.mem_of_find?_eq_some found, by simpa using same⟩

theorem session?_none {roster : Roster ω σ} {identity : String} :
    roster.session? identity = none ↔
      ∀ session ∈ roster.sessions, session.identity ≠ identity := by
  simp [session?, List.find?_eq_none]

theorem session?_eq_some {roster : Roster ω σ}
    (identities : (roster.sessions.map Session.identity).Nodup) {session : Session σ}
    (found : session ∈ roster.sessions) : roster.session? session.identity = some session := by
  cases outcome : roster.session? session.identity with
  | none => exact absurd rfl (session?_none.mp outcome session found)
  | some other =>
      obtain ⟨other_mem, same⟩ := session?_some outcome
      rw [List.inj_on_of_nodup_map identities other_mem found same]

theorem mem_setSession {roster : Roster ω σ} {session replacement : Session σ}
    (found : roster.session? replacement.identity = some session) (other : Session σ) :
    other ∈ (roster.setSession replacement).sessions ↔
      other = replacement ∨
        other ∈ roster.sessions ∧ other.identity ≠ replacement.identity := by
  obtain ⟨session_mem, session_identity⟩ := session?_some found
  simp only [setSession, List.mem_map, beq_iff_eq]
  constructor
  · rintro ⟨held, held_mem, rfl⟩
    by_cases same : held.identity = replacement.identity
    · simp [same]
    · simp [same, held_mem]
  · rintro (rfl | ⟨other_mem, different⟩)
    · exact ⟨session, session_mem, by simp [session_identity]⟩
    · exact ⟨other, other_mem, by simp [different]⟩

theorem identities_setSession (roster : Roster ω σ) (replacement : Session σ) :
    (roster.setSession replacement).sessions.map Session.identity =
      roster.sessions.map Session.identity := by
  simp only [setSession, List.map_map]
  refine List.map_congr_left fun held _ => ?_
  by_cases same : held.identity = replacement.identity
  · simp [same]
  · simp [same]

private theorem ids_setSession {roster : Roster ω σ}
    (identities : (roster.sessions.map Session.identity).Nodup)
    {session replacement : Session σ}
    (found : roster.session? replacement.identity = some session)
    (id_eq : replacement.id = session.id) :
    (roster.setSession replacement).sessions.map Session.id =
      roster.sessions.map Session.id := by
  obtain ⟨session_mem, session_identity⟩ := session?_some found
  simp only [setSession, List.map_map]
  refine List.map_congr_left fun held held_mem => ?_
  by_cases same : held.identity = replacement.identity
  · have held_eq : held = session :=
      List.inj_on_of_nodup_map identities held_mem session_mem (same.trans session_identity.symm)
    simp [held_eq, session_identity, id_eq]
  · simp [same]

theorem session?_setSession {roster : Roster ω σ} {session : Session σ}
    (replacement : Session σ) (found : roster.session? replacement.identity = some session)
    (identity : String) :
    (roster.setSession replacement).session? identity =
      if identity = replacement.identity then some replacement
      else roster.session? identity := by
  have kept : (fun held : Session σ =>
      (if held.identity == replacement.identity then replacement else held).identity ==
        identity) = fun held => held.identity == identity := by
    funext held
    by_cases same : held.identity = replacement.identity
    · simp [same]
    · simp [same]
  have mapped : (roster.setSession replacement).session? identity =
      (roster.session? identity).map fun held =>
        if held.identity == replacement.identity then replacement else held := by
    simp only [session?, setSession, List.find?_map, Function.comp_def, kept]
  rw [mapped]
  split
  · next same =>
      subst same
      simp [found, (session?_some found).2]
  · next different =>
      cases outcome : roster.session? identity with
      | none => rfl
      | some held => simp [(session?_some outcome).2, different]

theorem session?_setSession_self {roster : Roster ω σ} {session : Session σ}
    (replacement : Session σ) (found : roster.session? session.identity = some session)
    (identity_eq : replacement.identity = session.identity) :
    (roster.setSession replacement).session? session.identity = some replacement := by
  rw [← identity_eq] at found ⊢
  rw [session?_setSession _ found, if_pos rfl]

theorem setSession_setSession (roster : Roster ω σ) (first second : Session σ)
    (same : first.identity = second.identity) :
    (roster.setSession first).setSession second = roster.setSession second := by
  simp only [setSession, List.map_map, Roster.mk.injEq, and_true]
  refine List.map_congr_left fun held _ => ?_
  by_cases held_same : held.identity = second.identity
  · simp [same, held_same]
  · simp [same, held_same]

theorem mem_eraseSession (roster : Roster ω σ) (identity : String) (session : Session σ) :
    session ∈ (roster.eraseSession identity).sessions ↔
      session ∈ roster.sessions ∧ session.identity ≠ identity := by
  simp [eraseSession]

theorem sessions_eraseSession_setSession (roster : Roster ω σ) (replacement : Session σ) :
    ((roster.setSession replacement).eraseSession replacement.identity).sessions =
      (roster.eraseSession replacement.identity).sessions := by
  simp only [eraseSession, setSession]
  induction roster.sessions with
  | nil => rfl
  | cons held rest induction =>
      by_cases same : held.identity = replacement.identity
      · simpa [same] using induction
      · simpa [same] using induction

theorem session?_eraseSession (roster : Roster ω σ) (identity other : String) :
    (roster.eraseSession identity).session? other =
      if other = identity then none else roster.session? other := by
  split
  · next same =>
      rw [session?_none, same]
      exact fun session found => ((mem_eraseSession roster identity session).mp found).2
  · next different =>
      simp only [session?, eraseSession, List.find?_filter]
      congr 1
      funext held
      by_cases same : held.identity = other
      · simp [same, different]
      · simp [same]

/-- Some session has a document with the handle. -/
def Holds (roster : Roster ω σ) (handle : Handle) : Prop :=
  ∃ session ∈ roster.sessions, handle ∈ session.handles

/-- A session of another client has a document with the handle. -/
def HeldElsewhere (roster : Roster ω σ) (identity : String) (handle : Handle) : Prop :=
  ∃ session ∈ roster.sessions, session.identity ≠ identity ∧ handle ∈ session.handles

/-- All open documents. -/
def documents (roster : Roster ω σ) : List Document := roster.sessions.flatMap (·.documents)

theorem mem_documents {roster : Roster ω σ} {document : Document} :
    document ∈ roster.documents ↔ ∃ session ∈ roster.sessions, document ∈ session.documents :=
  List.mem_flatMap

/-- The open documents of a client. -/
def documentsOf (roster : Roster ω σ) (identity : String) : List Document :=
  (roster.session? identity).elim [] Session.documents

theorem mem_documentsOf {roster : Roster ω σ} {identity : String} {document : Document} :
    document ∈ roster.documentsOf identity ↔
      ∃ session, roster.session? identity = some session ∧ document ∈ session.documents := by
  unfold documentsOf
  cases roster.session? identity <;> simp

theorem documentsOf_subset (roster : Roster ω σ) (identity : String) :
    roster.documentsOf identity ⊆ roster.documents := by
  intro document held
  obtain ⟨session, found, held⟩ := mem_documentsOf.mp held
  exact mem_documents.mpr ⟨session, (session?_some found).1, held⟩

theorem holds_document {roster : Roster ω σ} {session : Session σ} {document : Document}
    (session_mem : session ∈ roster.sessions) (held : document ∈ session.documents) :
    roster.Holds document.handle :=
  ⟨session, session_mem, Documents.handle_mem held⟩

theorem holds_of_mem_documents {roster : Roster ω σ} {document : Document}
    (open_in : document ∈ roster.documents) : roster.Holds document.handle := by
  obtain ⟨session, session_mem, held⟩ := mem_documents.mp open_in
  exact holds_document session_mem held

theorem holds_iff {roster : Roster ω σ}
    (identities : (roster.sessions.map Session.identity).Nodup) {identity : String}
    {session : Session σ} (found : roster.session? identity = some session) (handle : Handle) :
    roster.Holds handle ↔
      handle ∈ session.handles ∨ roster.HeldElsewhere identity handle := by
  obtain ⟨session_mem, session_identity⟩ := session?_some found
  constructor
  · rintro ⟨holder, holder_mem, held⟩
    by_cases same : holder.identity = identity
    · left
      have holder_eq : holder = session :=
        List.inj_on_of_nodup_map identities holder_mem session_mem
          (same.trans session_identity.symm)
      rwa [← holder_eq]
    · exact .inr ⟨holder, holder_mem, same, held⟩
  · rintro (held | ⟨holder, holder_mem, -, held⟩)
    · exact ⟨session, session_mem, held⟩
    · exact ⟨holder, holder_mem, held⟩

theorem holds_setSession {roster : Roster ω σ} {session : Session σ} (replacement : Session σ)
    (found : roster.session? replacement.identity = some session) (handle : Handle) :
    (roster.setSession replacement).Holds handle ↔
      handle ∈ replacement.handles ∨ roster.HeldElsewhere replacement.identity handle := by
  simp only [Holds, HeldElsewhere, mem_setSession found]
  constructor
  · rintro ⟨holder, rfl | ⟨holder_mem, different⟩, held⟩
    · exact .inl held
    · exact .inr ⟨holder, holder_mem, different, held⟩
  · rintro (held | ⟨holder, holder_mem, different, held⟩)
    · exact ⟨replacement, .inl rfl, held⟩
    · exact ⟨holder, .inr ⟨holder_mem, different⟩, held⟩

/-- No client has two sessions, numbers are used once, and all sessions are orderly. -/
structure Orderly (addressing : Addressing) (roster : Roster ω σ) : Prop where
  identities : (roster.sessions.map Session.identity).Nodup
  ids : (roster.sessions.map Session.id).Nodup
  /-- Numbers come before the next one. -/
  numbered : ∀ session ∈ roster.sessions, session.id < roster.nextId
  sessions : ∀ session ∈ roster.sessions, session.Orderly addressing

namespace Orderly

variable {addressing : Addressing} {roster : Roster ω σ}

/-- No document is at the object path of the service. -/
theorem ne_serviceObject (orderly : roster.Orderly addressing) {handle : Handle}
    (holds : roster.Holds handle) : handle.object ≠ addressing.serviceObject := by
  obtain ⟨session, session_mem, held⟩ := holds
  rw [(orderly.sessions session session_mem).objects handle held]
  exact addressing.documentObject_ne_serviceObject session.id handle.id

/-- No document is at the object path of the placeholder. -/
theorem ne_placeholderObject (orderly : roster.Orderly addressing) {handle : Handle}
    (holds : roster.Holds handle) : handle.object ≠ addressing.placeholderObject := by
  obtain ⟨session, session_mem, held⟩ := holds
  rw [(orderly.sessions session session_mem).objects handle held]
  exact addressing.documentObject_ne_placeholderObject session.id handle.id

/-- Documents at the same object path are in the same session and have the same handle. -/
theorem eq_of_object (orderly : roster.Orderly addressing) {left right : Session σ}
    {leftHandle rightHandle : Handle} (left_mem : left ∈ roster.sessions)
    (right_mem : right ∈ roster.sessions) (left_held : leftHandle ∈ left.handles)
    (right_held : rightHandle ∈ right.handles) (same : leftHandle.object = rightHandle.object) :
    left = right ∧ leftHandle = rightHandle := by
  rw [(orderly.sessions left left_mem).objects leftHandle left_held,
    (orderly.sessions right right_mem).objects rightHandle right_held,
    addressing.documentObject_inj] at same
  obtain rfl : left = right := List.inj_on_of_nodup_map orderly.ids left_mem right_mem same.1
  exact ⟨rfl, List.inj_on_of_nodup_map (orderly.sessions left left_mem).numbers left_held
    right_held same.2⟩

theorem handle_eq_of_object (orderly : roster.Orderly addressing) {left right : Handle}
    (left_held : roster.Holds left) (right_held : roster.Holds right)
    (same : left.object = right.object) : left = right := by
  obtain ⟨leftSession, left_mem, left_held⟩ := left_held
  obtain ⟨rightSession, right_mem, right_held⟩ := right_held
  exact (orderly.eq_of_object left_mem right_mem left_held right_held same).2

/-- No two open documents have the same object path. -/
theorem objects_nodup (orderly : roster.Orderly addressing) :
    (roster.documents.map Document.object).Nodup := by
  have objects_of : ∀ session : Session σ,
      session.documents.map Document.object = session.handles.map Handle.object := by
    simp [Session.handles, Documents.handles, Document.handle]
  simp only [documents, List.map_flatMap, objects_of]
  rw [List.nodup_flatMap]
  constructor
  · intro session session_mem
    have session_orderly := orderly.sessions session session_mem
    refine (List.nodup_map_iff_inj_on (session_orderly.numbers.of_map _)).mpr ?_
    intro left left_held right right_held same
    exact (orderly.eq_of_object session_mem session_mem left_held right_held same).2
  · have apart : roster.sessions.Nodup := orderly.ids.of_map _
    refine (List.pairwise_iff_forall_sublist.mpr fun {left right} sub => ?_)
    intro object left_object right_object
    obtain ⟨leftHandle, left_held, rfl⟩ := List.mem_map.mp left_object
    obtain ⟨rightHandle, right_held, same⟩ := List.mem_map.mp right_object
    have left_mem : left ∈ roster.sessions := sub.subset (by simp)
    have right_mem : right ∈ roster.sessions := sub.subset (by simp)
    obtain rfl := (orderly.eq_of_object left_mem right_mem left_held right_held same.symm).1
    simpa using apart.sublist sub

/-- Putting an orderly session with the same number in the place of one keeps a roster orderly. -/
theorem setSession (orderly : roster.Orderly addressing) {session : Session σ}
    (replacement : Session σ)
    (found : roster.session? replacement.identity = some session)
    (id_eq : replacement.id = session.id)
    (replacement_orderly : replacement.Orderly addressing) :
    (roster.setSession replacement).Orderly addressing := by
  constructor
  · rw [identities_setSession]
    exact orderly.identities
  · rw [ids_setSession orderly.identities found id_eq]
    exact orderly.ids
  · intro other other_mem
    rcases (mem_setSession found other).mp other_mem with rfl | ⟨other_mem, -⟩
    · rw [id_eq]
      exact orderly.numbered session (session?_some found).1
    · exact orderly.numbered other other_mem
  · intro other other_mem
    rcases (mem_setSession found other).mp other_mem with rfl | ⟨other_mem, -⟩
    · exact replacement_orderly
    · exact orderly.sessions other other_mem

end Orderly
end Roster
end LintBus

import LintBus.Proofs.Client.Release

/-!
# The ledger of released documents

A document of an orderly roster is either open or on the list of released documents, if its backend
is asked to release documents at all.  The list names no object path twice and none that is still
open or that is still to be given out.
-/

namespace LintBus
namespace Roster

variable {ω σ : Type} {service : Service ω σ} {identity : String} {before after : Roster ω σ}

/-- The object path has been given out: no session will open another document there. -/
def Issued (addressing : Addressing) (roster : Roster ω σ) (object : String) : Prop :=
  ∃ number id, object = addressing.documentObject number id ∧ number < roster.nextId ∧
    ∀ session ∈ roster.sessions, session.id = number → id < session.nextDocument

private theorem Orderly.issued {addressing : Addressing} {roster : Roster ω σ}
    (orderly : roster.Orderly addressing) {handle : Handle} (holds : roster.Holds handle) :
    roster.Issued addressing handle.object := by
  obtain ⟨session, session_mem, held⟩ := holds
  have session_orderly := orderly.sessions session session_mem
  refine ⟨session.id, handle.id, session_orderly.objects handle held,
    orderly.numbered session session_mem, fun other other_mem same => ?_⟩
  obtain rfl := List.inj_on_of_nodup_map orderly.ids other_mem session_mem same
  exact session_orderly.numbered handle held

private theorem Issued.setSession {addressing : Addressing} {roster : Roster ω σ} {object : String}
    (issued : roster.Issued addressing object) {session : Session σ} (replacement : Session σ)
    (found : roster.session? replacement.identity = some session)
    (id_eq : replacement.id = session.id)
    (nextDocument_le : session.nextDocument ≤ replacement.nextDocument) :
    (roster.setSession replacement).Issued addressing object := by
  obtain ⟨number, id, object_eq, number_lt, below⟩ := issued
  refine ⟨number, id, object_eq, number_lt, fun other other_mem same => ?_⟩
  rcases (mem_setSession found other).mp other_mem with rfl | ⟨other_mem, -⟩
  · have former := below session (session?_some found).1 (id_eq.symm.trans same)
    exact Nat.lt_of_lt_of_le former nextDocument_le
  · exact below other other_mem same

/-- What has been given out stays so in each move. -/
theorem Move.issued (move : Move service identity before after) {object : String}
    (issued : before.Issued service.addressing object) :
    after.Issued service.addressing object := by
  cases move with
  | enroll absent =>
      obtain ⟨number, id, object_eq, number_lt, below⟩ := issued
      refine ⟨number, id, object_eq, Nat.lt_succ_of_lt number_lt,
        fun session session_mem same => ?_⟩
      rcases List.mem_append.mp session_mem with session_mem | session_mem
      · exact below session session_mem same
      · obtain rfl := List.mem_singleton.mp session_mem
        exact absurd same (Nat.ne_of_gt number_lt)
  | @enlist session path bus found fresh adds =>
      obtain ⟨-, rfl⟩ := session?_some found
      exact issued.setSession (session.enlist service.addressing path) found rfl
        (Nat.le_succ _)
  | @revise session revised world found revises leaves =>
      obtain ⟨-, rfl⟩ := session?_some found
      rw [← revises.identity_eq] at found
      exact issued.setSession revised found revises.id_eq
        (Nat.le_of_eq revises.nextDocument_eq.symm)
  | @close session document found held =>
      obtain ⟨-, rfl⟩ := session?_some found
      exact issued.setSession (session.forget _ document.path) found rfl
        (Nat.le_refl _)
  | drop emptied found empty =>
      obtain ⟨number, id, object_eq, number_lt, below⟩ := issued
      refine ⟨number, id, object_eq, number_lt, fun session session_mem => ?_⟩
      exact below session ((mem_eraseSession ..).mp session_mem).1

private theorem not_issued_next (addressing : Addressing) {roster : Roster ω σ}
    {session : Session σ}
    (found : session ∈ roster.sessions) :
    ¬ roster.Issued addressing
      (addressing.documentObject session.id session.nextDocument) := by
  rintro ⟨number, id, object_eq, -, below⟩
  obtain ⟨number_eq, rfl⟩ := addressing.documentObject_inj.mp object_eq
  exact absurd (below session found number_eq) (Nat.lt_irrefl _)

/-- The list of released documents fits the open documents and the numbers given out. -/
structure Accounts (service : Service ω σ) (roster : Roster ω σ) : Prop where
  /-- A backend without a release hears of nothing. -/
  unheard : service.backend.dispose.isSome = false → roster.around.released = []
  once : (roster.around.released.map Document.object).Nodup
  issued : ∀ document ∈ roster.around.released,
    roster.Issued service.addressing document.object
  gone : ∀ document ∈ roster.around.released, ∀ handle, roster.Holds handle →
    handle.object ≠ document.object

private theorem close_released (roster : Roster ω σ) (service : Service ω σ) (session : Session σ)
    (document : Document) :
    (roster.close service session document).around.released =
      service.backend.informed [document] ++ roster.around.released :=
  session.release_released service.backend service.addressing roster.around document

theorem opened_accounts (service : Service ω σ) (bus : Bus) (world : ω) :
    (Roster.opened bus world).Accounts service := by
  constructor <;> simp [Roster.opened]

/-- Each move keeps the ledger in order. -/
theorem Move.accounts (move : Move service identity before after)
    (orderly : before.Orderly service.addressing) (accounts : before.Accounts service) :
    after.Accounts service := by
  have still_issued := fun document released => move.issued (accounts.issued document released)
  have document_issued : ∀ handle, before.Holds handle →
      after.Issued service.addressing handle.object :=
    fun handle holds => move.issued (orderly.issued holds)
  obtain ⟨unheard, once, issued, gone⟩ := accounts
  cases move with
  | enroll absent =>
      refine ⟨unheard, once, still_issued, fun document released handle holds => ?_⟩
      exact gone document released handle ((holds_enroll handle).mp holds)
  | @enlist session path bus found fresh adds =>
      refine ⟨unheard, once, still_issued, fun document released handle holds => ?_⟩
      rcases (holds_enlist orderly found path bus handle).mp holds with holds | rfl
      · exact gone document released handle holds
      · intro same
        have taken := issued document released
        rw [← same] at taken
        exact not_issued_next service.addressing (session?_some found).1 taken
  | revise found revises leaves =>
      refine ⟨unheard, once, still_issued, fun document released handle holds => ?_⟩
      exact gone document released handle ((holds_revise orderly found revises handle).mp holds)
  | @close session document found held =>
      have holds := holds_document (session?_some found).1 held
      have released_eq := before.close_released service session document
      have released_cases : ∀ other,
          other ∈ (before.close service session document).around.released →
            other = document ∨ other ∈ before.around.released := by
        intro other released
        rw [released_eq, List.mem_append, Backend.mem_informed, List.mem_singleton] at released
        exact released.imp And.right id
      constructor
      · intro absent
        rw [released_eq, unheard absent]
        simp [Backend.informed, absent]
      · rw [released_eq, List.map_append, List.nodup_append]
        refine ⟨?_, once, ?_⟩
        · simp only [Backend.informed]
          split <;> simp
        · intro object left_object other right_object
          obtain ⟨left, left_mem, rfl⟩ := List.mem_map.mp left_object
          obtain ⟨right, right_mem, rfl⟩ := List.mem_map.mp right_object
          obtain rfl := List.mem_singleton.mp (Backend.mem_informed.mp left_mem).2
          exact gone right right_mem left.handle holds
      · intro other released
        rcases released_cases other released with rfl | released
        · exact document_issued other.handle holds
        · exact still_issued other released
      · intro other released handle still_held
        obtain ⟨handle_holds, different⟩ := (holds_close orderly found held handle).mp still_held
        rcases released_cases other released with rfl | released
        · exact fun same => different (orderly.handle_eq_of_object handle_holds holds same)
        · exact gone other released handle handle_holds
  | drop emptied found empty =>
      refine ⟨unheard, once, still_issued, fun document released handle holds => ?_⟩
      exact gone document released handle ((holds_drop orderly found empty handle).mp holds)

/-- What was open or released on one roster is open or released on another one, and what was
released stays so. -/
structure Settles (service : Service ω σ) (after before : Roster ω σ) : Prop where
  grown : ∀ document ∈ before.around.released, document ∈ after.around.released
  settled : service.backend.dispose.isSome = true → ∀ handle, before.Holds handle →
    after.Holds handle ∨ ∃ document ∈ after.around.released, document.handle = handle

theorem Settles.refl (service : Service ω σ) (roster : Roster ω σ) :
    Settles service roster roster :=
  ⟨fun _ released => released, fun _ _ holds => .inl holds⟩

theorem Settles.trans {last middle first : Roster ω σ} (later : Settles service last middle)
    (earlier : Settles service middle first) : Settles service last first := by
  refine ⟨fun document released => later.grown document (earlier.grown document released), ?_⟩
  intro heard handle holds
  rcases earlier.settled heard handle holds with holds | ⟨document, released, same⟩
  · exact later.settled heard handle holds
  · exact .inr ⟨document, later.grown document released, same⟩

/-- What was open has been released once if it is no longer open, and not at all if it still is. -/
theorem Accounts.count_released (accounts : after.Accounts service)
    (settles : Settles service after before) {document : Document}
    (held : document ∈ before.documents) :
    (after.around.released.map Document.object).count document.object =
      if service.backend.dispose.isSome ∧
        document.object ∉ after.documents.map Document.object then 1 else 0 := by
  have holds := holds_of_mem_documents held
  split
  · next absent =>
      obtain ⟨heard, closed⟩ := absent
      apply List.count_eq_one_of_mem accounts.once
      rcases settles.settled heard document.handle holds with
        ⟨session, session_mem, still_held⟩ | ⟨other, released, same⟩
      · obtain ⟨still, still_mem, same⟩ := Documents.mem_handles.mp still_held
        have open_still : still ∈ after.documents :=
          mem_documents.mpr ⟨session, session_mem, still_mem⟩
        exact absurd (List.mem_map.mpr ⟨still, open_still, congrArg Handle.object same⟩) closed
      · exact List.mem_map.mpr ⟨other, released, congrArg Handle.object same⟩
  · next present =>
      apply List.count_eq_zero.mpr
      intro released
      apply present
      obtain ⟨other, released, same⟩ := List.mem_map.mp released
      constructor
      · by_contra unheard
        rw [accounts.unheard (by simpa using unheard)] at released
        exact absurd released List.not_mem_nil
      · intro still_open
        obtain ⟨still, still_mem, still_same⟩ := List.mem_map.mp still_open
        exact accounts.gone other released still.handle (holds_of_mem_documents still_mem)
          (still_same.trans same.symm)

/-- Each move releases what it closes. -/
theorem Move.settles (move : Move service identity before after)
    (orderly : before.Orderly service.addressing) : Settles service after before := by
  cases move with
  | enroll absent =>
      exact ⟨fun _ released => released, fun _ handle holds =>
        .inl ((holds_enroll handle).mpr holds)⟩
  | @enlist session path bus found fresh adds =>
      exact ⟨fun _ released => released, fun _ handle holds =>
        .inl ((holds_enlist orderly found path bus handle).mpr (.inl holds))⟩
  | revise found revises leaves =>
      exact ⟨fun _ released => released, fun _ handle holds =>
        .inl ((holds_revise orderly found revises handle).mpr holds)⟩
  | @close session document found held =>
      have released_eq := before.close_released service session document
      constructor
      · intro other released
        rw [released_eq]
        exact List.mem_append_right _ released
      · intro heard handle holds
        by_cases same : handle = document.handle
        · refine .inr ⟨document, ?_, same.symm⟩
          rw [released_eq]
          exact List.mem_append_left _ (Backend.mem_informed.mpr ⟨heard, List.mem_singleton_self _⟩)
        · exact .inl ((holds_close orderly found held handle).mpr ⟨holds, same⟩)
  | drop emptied found empty =>
      exact ⟨fun _ released => released, fun _ handle holds =>
        .inl ((holds_drop orderly found empty handle).mpr holds)⟩

/-- Each row of moves keeps the ledger in order and releases what it closes. -/
theorem Moves.accounts (moves : Moves service identity before after)
    (orderly : before.Orderly service.addressing) (agrees : service.Agrees before)
    (accounts : before.Accounts service) :
    after.Accounts service ∧ Settles service after before := by
  induction moves with
  | refl => exact ⟨accounts, .refl service before⟩
  | tail moves move induction =>
      have orderly := (Moves.sound moves orderly agrees).1
      exact ⟨move.accounts orderly induction.1, (move.settles orderly).trans induction.2⟩

end Roster
end LintBus

import LintBus.Proofs.Client.Moves

/-!
# Succession of rosters

Numbers only grow.  A session whose number was given out before is the same session as then, and
a handle whose number was given out in its session before was held there before.  So what has gone
away never comes back under its old number.
-/

namespace LintBus

variable {ω σ : Type}

/-- One session is another one later on. -/
structure Session.Continues (session former : Session σ) : Prop where
  id_eq : session.id = former.id
  identity_eq : session.identity = former.identity
  nextDocument_le : former.nextDocument ≤ session.nextDocument
  /-- Handles with numbers from before were held before. -/
  handles : ∀ handle ∈ session.handles, handle.id < former.nextDocument → handle ∈ former.handles

namespace Session.Continues

private theorem refl (session : Session σ) : session.Continues session :=
  ⟨rfl, rfl, Nat.le_refl _, fun _ held _ => held⟩

private theorem trans {last middle first : Session σ} (later : last.Continues middle)
    (earlier : middle.Continues first) : last.Continues first := by
  refine ⟨later.id_eq.trans earlier.id_eq, later.identity_eq.trans earlier.identity_eq,
    Nat.le_trans earlier.nextDocument_le later.nextDocument_le, fun handle held below => ?_⟩
  exact earlier.handles handle
    (later.handles handle held (Nat.lt_of_lt_of_le below earlier.nextDocument_le)) below

private theorem enlist (session : Session σ) (addressing : Addressing) (path : String) :
    (session.enlist addressing path).Continues session := by
  refine ⟨rfl, rfl, Nat.le_succ _, fun handle held below => ?_⟩
  rw [handles_enlist, List.mem_append, List.mem_singleton] at held
  rcases held with held | rfl
  · exact held
  · exact absurd below (Nat.lt_irrefl _)

private theorem forget (session : Session σ) (state : σ) (path : FilePath) :
    (session.forget state path).Continues session :=
  ⟨rfl, rfl, Nat.le_refl _, fun _ held _ =>
    ((List.filter_sublist).map Document.handle).subset held⟩

end Session.Continues

private theorem Session.Revises.continues {revised session : Session σ}
    (revises : revised.Revises session) : revised.Continues session := by
  refine ⟨revises.id_eq, revises.identity_eq, Nat.le_of_eq revises.nextDocument_eq.symm, ?_⟩
  intro handle held _
  rwa [← revises.handles_eq]

namespace Roster

/-- One roster is another one later on. -/
structure Follows (after before : Roster ω σ) : Prop where
  nextId_le : before.nextId ≤ after.nextId
  /-- Sessions with numbers from before continue sessions from before. -/
  sessions : ∀ session ∈ after.sessions, session.id < before.nextId →
    ∃ former ∈ before.sessions, session.Continues former

namespace Follows

theorem refl (roster : Roster ω σ) : roster.Follows roster :=
  ⟨Nat.le_refl _, fun session found _ => ⟨session, found, .refl session⟩⟩

theorem trans {last middle first : Roster ω σ} (later : last.Follows middle)
    (earlier : middle.Follows first) : last.Follows first := by
  refine ⟨Nat.le_trans earlier.nextId_le later.nextId_le, fun session found below => ?_⟩
  obtain ⟨held, held_mem, continues⟩ :=
    later.sessions session found (Nat.lt_of_lt_of_le below earlier.nextId_le)
  rw [continues.id_eq] at below
  obtain ⟨former, former_mem, continued⟩ := earlier.sessions held held_mem below
  exact ⟨former, former_mem, continues.trans continued⟩

private theorem setSession {roster : Roster ω σ} {session : Session σ} (replacement : Session σ)
    (found : roster.session? replacement.identity = some session)
    (continues : replacement.Continues session) :
    (roster.setSession replacement).Follows roster := by
  refine ⟨Nat.le_refl _, fun other other_mem _ => ?_⟩
  rcases (mem_setSession found other).mp other_mem with rfl | ⟨other_mem, -⟩
  · exact ⟨session, (session?_some found).1, continues⟩
  · exact ⟨other, other_mem, .refl other⟩

end Follows

variable {service : Service ω σ} {identity : String} {before after : Roster ω σ}

/-- Each move leads to a later roster. -/
theorem Move.follows (move : Move service identity before after) : after.Follows before := by
  cases move with
  | enroll absent =>
      refine ⟨Nat.le_succ _, fun session found below => ?_⟩
      rcases List.mem_append.mp found with found | found
      · exact ⟨session, found, .refl session⟩
      · obtain rfl := List.mem_singleton.mp found
        exact absurd below (Nat.lt_irrefl _)
  | @enlist session path bus found fresh adds =>
      obtain ⟨session_mem, rfl⟩ := session?_some found
      have replaced := Follows.setSession (session.enlist service.addressing path) found
        (.enlist session service.addressing path)
      exact ⟨replaced.nextId_le, replaced.sessions⟩
  | @revise session revised world found revises leaves =>
      obtain ⟨session_mem, rfl⟩ := session?_some found
      rw [← revises.identity_eq] at found
      have replaced := Follows.setSession revised found revises.continues
      exact ⟨replaced.nextId_le, replaced.sessions⟩
  | @close session document found held =>
      obtain ⟨session_mem, rfl⟩ := session?_some found
      have replaced := Follows.setSession (session.forget _ document.path) found
        (.forget session
          (session.release service.backend service.addressing before.around document).1.state
          document.path)
      exact ⟨replaced.nextId_le, replaced.sessions⟩
  | drop emptied found empty =>
      refine ⟨Nat.le_refl _, fun session session_mem _ => ?_⟩
      exact ⟨session, ((mem_eraseSession ..).mp session_mem).1, .refl session⟩

theorem Moves.follows (moves : Moves service identity before after) : after.Follows before := by
  induction moves with
  | refl => exact .refl before
  | tail _ move induction => exact move.follows.trans induction

/-- A handle that is held at two times with the same object path is the same handle, and was held
by the same session all the time in between. -/
theorem Follows.held_between {last middle first : Roster ω σ} {addressing : Addressing}
    (later : last.Follows middle) (earlier : middle.Follows first)
    (first_orderly : first.Orderly addressing) (last_orderly : last.Orderly addressing)
    {former session : Session σ} {formerHandle handle : Handle}
    (former_mem : former ∈ first.sessions) (former_held : formerHandle ∈ former.handles)
    (session_mem : session ∈ last.sessions) (held : handle ∈ session.handles)
    (same : handle.object = formerHandle.object) :
    handle = formerHandle ∧ session.Continues former ∧
      ∃ holder ∈ middle.sessions, holder.Continues former ∧ handle ∈ holder.handles := by
  have former_orderly := first_orderly.sessions former former_mem
  have session_orderly := last_orderly.sessions session session_mem
  rw [session_orderly.objects handle held, former_orderly.objects formerHandle former_held,
    addressing.documentObject_inj] at same
  obtain ⟨id_eq, number_eq⟩ := same
  have below := first_orderly.numbered former former_mem
  have handle_below := former_orderly.numbered formerHandle former_held
  rw [← id_eq] at below
  rw [← number_eq] at handle_below
  obtain ⟨holder, holder_mem, continues⟩ :=
    later.sessions session session_mem (Nat.lt_of_lt_of_le below earlier.nextId_le)
  rw [continues.id_eq] at below
  obtain ⟨origin, origin_mem, continued⟩ := earlier.sessions holder holder_mem below
  have origin_id : origin.id = former.id := by
    rw [← continued.id_eq, ← continues.id_eq, id_eq]
  obtain rfl : origin = former :=
    List.inj_on_of_nodup_map first_orderly.ids origin_mem former_mem origin_id
  have holder_held :=
    continues.handles handle held (Nat.lt_of_lt_of_le handle_below continued.nextDocument_le)
  have origin_held := continued.handles handle holder_held handle_below
  refine ⟨?_, continues.trans continued, holder, holder_mem, continued, holder_held⟩
  exact List.inj_on_of_nodup_map former_orderly.numbers origin_held former_held number_eq

end Roster
end LintBus

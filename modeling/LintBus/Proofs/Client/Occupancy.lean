import LintBus.Proofs.Client.Release
import LintBus.Proofs.Client.Result

/-!
# Occupied rosters

A session is there for its documents.  Opening and parsing keep every session occupied and never
take the last one away; closing the last document of a session and dismissing its client take it
away, and it is counted when no other session is left.
-/

namespace LintBus

variable {ω σ : Type}

private theorem Session.documents_eq_nil {session : Session σ} :
    session.documents = [] ↔ session.handles = [] := by
  rw [handles, Documents.handles, List.map_eq_nil_iff]

namespace Roster

/-- Every session has a document open. -/
def Occupied (roster : Roster ω σ) : Prop :=
  ∀ session ∈ roster.sessions, session.documents ≠ []

/-- One roster has sessions and the next one has none. -/
def vacates (before after : Roster ω σ) : Bool :=
  !before.sessions.isEmpty && after.sessions.isEmpty

theorem vacates_iff {before after : Roster ω σ} :
    before.vacates after = true ↔ before.sessions ≠ [] ∧ after.sessions = [] := by
  simp [vacates]

/-- One roster comes from another in which no session has lost its last document. -/
structure Retains (after before : Roster ω σ) : Prop where
  occupied : before.Occupied → after.Occupied
  /-- Someone is still there. -/
  peopled : before.sessions ≠ [] → after.sessions ≠ []
  emptied_eq : after.emptied = before.emptied

/-- One roster comes from another, and it has been counted if the last session has gone away. -/
structure Tallies (after before : Roster ω σ) : Prop where
  occupied : before.Occupied → after.Occupied
  emptied_eq : after.emptied = before.emptied + if before.vacates after then 1 else 0

variable {service : Service ω σ} {roster after : Roster ω σ} {identity : String}

namespace Retains

private theorem of_sessions {before : Roster ω σ} (sessions_eq : after.sessions = before.sessions)
    (emptied_eq : after.emptied = before.emptied) : after.Retains before := by
  refine ⟨fun occupied => ?_, fun peopled => ?_, emptied_eq⟩
  · rwa [Occupied, sessions_eq]
  · rwa [sessions_eq]

theorem refl (roster : Roster ω σ) : roster.Retains roster := .of_sessions rfl rfl

theorem trans {last middle first : Roster ω σ} (later : last.Retains middle)
    (earlier : middle.Retains first) : last.Retains first where
  occupied occupied := later.occupied (earlier.occupied occupied)
  peopled peopled := later.peopled (earlier.peopled peopled)
  emptied_eq := later.emptied_eq.trans earlier.emptied_eq

/-- What the sessions share makes no difference. -/
theorem around {before : Roster ω σ} (retains : after.Retains before)
    (around : Surroundings ω) : Retains { after with around := around } before :=
  ⟨retains.occupied, retains.peopled, retains.emptied_eq⟩

theorem tallies {before : Roster ω σ} (retains : after.Retains before) :
    after.Tallies before := by
  refine ⟨retains.occupied, ?_⟩
  have stays : ¬ before.vacates after = true := by
    rw [vacates_iff, not_and]
    exact retains.peopled
  rw [if_neg stays, Nat.add_zero]
  exact retains.emptied_eq

private theorem setSession {session replacement : Session σ}
    (found : roster.session? replacement.identity = some session)
    (kept : session.documents ≠ [] → replacement.documents ≠ []) :
    (roster.setSession replacement).Retains roster := by
  refine ⟨fun occupied other other_mem => ?_, fun peopled => ?_, rfl⟩
  · rcases (mem_setSession found other).mp other_mem with rfl | ⟨other_mem, -⟩
    · exact kept (occupied session (session?_some found).1)
    · exact occupied other other_mem
  · simpa [Roster.setSession] using peopled

private theorem revise {session revised : Session σ}
    (found : roster.session? identity = some session)
    (revises : revised.Revises session) : (roster.setSession revised).Retains roster := by
  obtain ⟨-, rfl⟩ := session?_some found
  rw [← revises.identity_eq] at found
  refine .setSession found fun kept => ?_
  rwa [ne_eq, Session.documents_eq_nil, revises.handles_eq, ← Session.documents_eq_nil]

end Retains

private theorem retains_openDocument (orderly : roster.Orderly service.addressing)
    (shows : roster.Shows service.addressing) (identity path contents : String)
    (cursor : Location) :
    (roster.openDocument service identity path contents cursor).2.Retains roster := by
  have moves := moves_openDocument orderly shows identity path contents cursor
  have emptied_eq := (openDocument_keeps service roster identity path contents cursor).1
  cases outcome : roster.openDocument service identity path contents cursor with
  | mk result after =>
      rw [outcome] at moves emptied_eq
      cases result with
      | error error =>
          have kept := congrArg Roster.sessions (openDocument_error orderly shows outcome)
          exact .of_sessions kept emptied_eq
      | ok canonical =>
          obtain ⟨-, opened⟩ := openDocument_ok outcome
          refine ⟨fun occupied session session_mem => ?_, fun _ => ?_, emptied_eq⟩
          · have found := session?_eq_some (moves.orderly orderly).identities session_mem
            by_cases same : session.identity = identity
            · rw [same, opened, Option.some.injEq] at found
              have is_open : Session.Open _ (service.addressing.canonical path) :=
                (roster.sessionFor service identity).1.open_opening path contents cursor
              rw [found] at is_open
              obtain ⟨handle, held, -⟩ := is_open
              exact mt Session.documents_eq_nil.mp (List.ne_nil_of_mem held)
            · rw [moves.frame same] at found
              exact occupied session (session?_some found).1
          · exact List.ne_nil_of_mem (session?_some opened).1

theorem retains_openEach (openings : List Opening) (orderly : roster.Orderly service.addressing)
    (agrees : service.Agrees roster) (identity : String) :
    (roster.openEach service identity openings).2.Retains roster := by
  induction openings generalizing roster with
  | nil => exact .refl roster
  | cons opening rest induction =>
      have shows := shows_of_agrees agrees
      have first := retains_openDocument orderly shows identity opening.path opening.contents
        opening.cursor
      have moves := moves_openDocument orderly shows identity opening.path opening.contents
        opening.cursor
      obtain ⟨orderly, agrees⟩ := moves.sound orderly agrees
      rw [openEach]
      split
      · next outcome =>
          rw [outcome] at first
          exact first
      · next outcome =>
          rw [outcome] at first orderly agrees
          exact (induction orderly agrees).trans first

theorem retains_parse (orderly : roster.Orderly service.addressing) (identity : String)
    (path : FilePath) (options : Options) :
    (roster.parse service identity path options).2.Retains roster := by
  cases found : roster.session? identity with
  | none =>
      simp only [parse, found]
      exact .refl roster
  | some session =>
      have distinct := (orderly.sessions session (session?_some found).1).distinct
      have revises := Session.parse_revises distinct service.backend roster.around.world path
        options
      simp only [parse, found]
      exact (Retains.revise found revises).around _

theorem retains_parseAll (service : Service ω σ) (roster : Roster ω σ) (identity : String)
    (root : FilePath) (members : List FilePath) (options : Options) :
    (roster.parseAll service identity root members options).2.Retains roster := by
  cases found : roster.session? identity with
  | none =>
      simp only [parseAll, found]
      exact .refl roster
  | some session =>
      have revises := session.parseAll_revises service.backend roster.around.world root members
        options
      simp only [parseAll, found]
      exact (Retains.revise found revises).around _

private theorem Tallies.eraseSession {session : Session σ}
    (found : roster.session? identity = some session)
    (sessions_eq : after.sessions = (roster.eraseSession identity).sessions)
    (emptied_eq : after.emptied = roster.emptied + if after.sessions.isEmpty then 1 else 0) :
    after.Tallies roster := by
  have peopled : roster.sessions ≠ [] := List.ne_nil_of_mem (session?_some found).1
  constructor
  · intro occupied other other_mem
    rw [sessions_eq, mem_eraseSession] at other_mem
    exact occupied other other_mem.1
  · rw [emptied_eq]
    simp [vacates_iff, peopled]

theorem dismiss_emptied (service : Service ω σ) {session : Session σ}
    (found : roster.session? identity = some session) :
    (roster.dismiss service identity).emptied =
      roster.emptied + if (roster.dismiss service identity).sessions.isEmpty then 1 else 0 := by
  simp only [dismiss, found]
  rfl

theorem tallies_dismiss (service : Service ω σ) (roster : Roster ω σ) (identity : String) :
    (roster.dismiss service identity).Tallies roster := by
  cases found : roster.session? identity with
  | none =>
      rw [dismiss_none found]
      exact (Retains.refl roster).tallies
  | some session =>
      exact .eraseSession found (sessions_dismiss service roster identity)
        (dismiss_emptied service found)

theorem tallies_closeDocument (service : Service ω σ) (roster : Roster ω σ)
    (identity path : String) : (roster.closeDocument service identity path).Tallies roster := by
  simp only [closeDocument]
  cases found : roster.session? identity with
  | none =>
      rw [closeOnly_none found]
      exact (Retains.refl roster).tallies
  | some session =>
      cases held : session.documents.find? (service.addressing.canonical path) with
      | none =>
          rw [closeOnly_missing found held]
          have kept := Retains.revise found (⟨rfl, rfl, rfl, rfl⟩ : session.Revises session)
          exact (kept.around _).tallies
      | some document =>
          rw [closeOnly_open found held]
          obtain ⟨-, rfl⟩ := session?_some found
          let remaining := session.forget
            (session.release service.backend service.addressing roster.around document).1.state
            document.path
          dsimp only
          split
          · -- The session has lost its last document, and goes away with it.
            have found_closed := session?_close service found document session.identity
            rw [if_pos rfl] at found_closed
            have sessions_eq := (sessions_dismiss service (roster.close service session document)
              session.identity).trans (roster.sessions_eraseSession_setSession remaining)
            exact .eraseSession found sessions_eq (dismiss_emptied service found_closed)
          · next others =>
            have kept : remaining.documents ≠ [] := by simpa using others
            have retains : (roster.setSession remaining).Retains roster :=
              .setSession found fun _ => kept
            exact (retains.around _).tallies

end Roster
end LintBus

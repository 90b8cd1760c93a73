import LintBus.Proofs.Client.Move

/-!
# Operations as rows of moves

Opening, parsing, closing and dismissing are rows of moves of the client they are done for.  A
document that cannot be exported leaves no trace but the number of a session made for it.
-/

namespace LintBus
namespace Roster

open Relation (ReflTransGen)

variable {ω σ : Type} {service : Service ω σ} {roster : Roster ω σ} {identity : String}

theorem Moves.orderly {before after : Roster ω σ} (moves : Moves service identity before after)
    (orderly : before.Orderly service.addressing) : after.Orderly service.addressing := by
  induction moves with
  | refl => exact orderly
  | tail _ move induction => exact move.orderly induction

/-- Each row of moves keeps a roster orderly and the bus in agreement with it. -/
theorem Moves.sound {before after : Roster ω σ} (moves : Moves service identity before after)
    (orderly : before.Orderly service.addressing) (agrees : service.Agrees before) :
    after.Orderly service.addressing ∧ service.Agrees after := by
  induction moves with
  | refl => exact ⟨orderly, agrees⟩
  | tail _ move induction =>
      exact ⟨move.orderly induction.1, move.agrees induction.1 induction.2⟩

/-- Each row of moves keeps a roster orderly and keeps it showing the open documents. -/
theorem Moves.shows {before after : Roster ω σ} (moves : Moves service identity before after)
    (orderly : before.Orderly service.addressing) (shows : before.Shows service.addressing) :
    after.Orderly service.addressing ∧ after.Shows service.addressing := by
  induction moves with
  | refl => exact ⟨orderly, shows⟩
  | tail _ move induction =>
      exact ⟨move.orderly induction.1, move.shows induction.1 induction.2⟩

theorem moves_sessionFor (service : Service ω σ) (roster : Roster ω σ) (identity : String) :
    Moves service identity roster (roster.sessionFor service identity).2 := by
  cases found : roster.session? identity with
  | some session =>
      rw [sessionFor_some found]
      exact .refl
  | none =>
      rw [sessionFor_none found]
      exact .single (.enroll found)

/-- Nothing is exported at the object path of the next document of a session. -/
theorem next_clear (orderly : roster.Orderly service.addressing)
    (shows : roster.Shows service.addressing) {session : Session σ}
    (found : session ∈ roster.sessions) (interface : Interface) :
    (service.addressing.documentObject session.id session.nextDocument, interface) ∉
      roster.around.bus.exports.pairs := by
  intro exported
  obtain ⟨-, handle, ⟨holder, holder_mem, held⟩, same⟩ := (shows _ _ _).mp exported
  have holder_orderly := orderly.sessions holder holder_mem
  rw [holder_orderly.objects handle held, service.addressing.documentObject_inj] at same
  obtain rfl : holder = session :=
    List.inj_on_of_nodup_map orderly.ids holder_mem found same.1
  have below := holder_orderly.numbered handle held
  omega

/-- A session either opens a document by moves or leaves everything as it was. -/
theorem opening_cases (orderly : roster.Orderly service.addressing)
    (shows : roster.Shows service.addressing) {session : Session σ}
    (found : roster.session? identity = some session) (path contents : String)
    (cursor : Location) :
    (∃ after bus,
      session.openDocument service.addressing roster.around.bus path contents cursor =
        (.ok (service.addressing.canonical path), after, bus) ∧
      Moves service identity roster ((roster.setSession after).setBus bus)) ∨
    ∃ error,
      session.openDocument service.addressing roster.around.bus path contents cursor =
        (.error error, session, roster.around.bus) := by
  obtain ⟨session_mem, rfl⟩ := session?_some found
  have revised := session.refresh_revises (service.addressing.canonical path)
    (service.addressing.contentsPath contents) cursor
  rcases Session.openDocument_cases path contents cursor
      (next_clear orderly shows session_mem) with
    ⟨document, open_at, opened⟩ | ⟨absent, error, refused⟩ | ⟨absent, bus, opened, adds⟩
  · exact .inl ⟨_, _, opened, .single (.revise found revised .untouched)⟩
  · exact .inr ⟨error, refused⟩
  · left
    refine ⟨_, _, opened, .tail (.single (.enlist found absent adds)) ?_⟩
    have enlisted := (session.enlist service.addressing path).refresh_revises
      (service.addressing.canonical path) (service.addressing.contentsPath contents) cursor
    have found_enlisted : ((roster.setSession (session.enlist service.addressing path)).setBus
        bus).session? session.identity = some (session.enlist service.addressing path) :=
      session?_setSession_self (session.enlist service.addressing path) found rfl
    have merged := roster.setSession_setSession (session.enlist service.addressing path)
      ((session.enlist service.addressing path).refresh (service.addressing.canonical path)
        (service.addressing.contentsPath contents) cursor) rfl
    rw [← merged]
    exact .revise found_enlisted enlisted .untouched

theorem moves_openDocument (orderly : roster.Orderly service.addressing)
    (shows : roster.Shows service.addressing) (identity path contents : String)
    (cursor : Location) :
    Moves service identity roster
      (roster.openDocument service identity path contents cursor).2 := by
  cases found : roster.session? identity with
  | some session =>
      have present : roster.contains identity = true := by simp [contains, found]
      rcases opening_cases orderly shows found path contents cursor with
        ⟨after, bus, opened, moves⟩ | ⟨error, refused⟩
      · simp only [openDocument, sessionFor_some found, opened]
        exact moves
      · simp only [openDocument, sessionFor_some found, refused, present]
        exact .refl
  | none =>
      have missing : roster.contains identity = false := by simp [contains, found]
      have enrolled : Move service identity roster (roster.enroll service identity) :=
        .enroll found
      have found_enrolled := session?_enroll_self service found
      rcases opening_cases (enrolled.orderly orderly) (enrolled.shows orderly shows)
          found_enrolled path contents cursor with
        ⟨after, bus, opened, moves⟩ | ⟨error, refused⟩
      · simp only [openDocument, sessionFor_none found, opened]
        exact .head enrolled moves
      · simp only [openDocument, sessionFor_none found, refused, missing]
        exact .tail (.single enrolled) (.drop roster.emptied found_enrolled rfl)

theorem moves_openMembers (members : List (String × String))
    (orderly : roster.Orderly service.addressing) (agrees : service.Agrees roster)
    (identity : String) :
    Moves service identity roster (roster.openMembers service identity members).2 := by
  induction members generalizing roster with
  | nil => exact .refl
  | cons member rest induction =>
      obtain ⟨path, contents⟩ := member
      have first := moves_openDocument orderly (shows_of_agrees agrees) identity path contents
        .origin
      obtain ⟨orderly, agrees⟩ := first.sound orderly agrees
      simp only [openMembers]
      split
      · next error after outcome =>
          rw [outcome] at first
          exact first
      · next canonical after outcome =>
          rw [outcome] at first orderly agrees
          have others := induction orderly agrees
          split
          · next outcome =>
              rw [outcome] at others
              exact first.trans others
          · next outcome =>
              rw [outcome] at others
              exact first.trans others

theorem moves_parse (orderly : roster.Orderly service.addressing) (identity : String)
    (path : FilePath) (options : Options) :
    Moves service identity roster (roster.parse service identity path options).2 := by
  cases found : roster.session? identity with
  | none =>
      simp only [parse, found]
      exact .refl
  | some session =>
      have distinct := (orderly.sessions session (session?_some found).1).distinct
      simp only [parse, found]
      exact .single (.revise found
        (Session.parse_revises distinct service.backend roster.around.world path options)
        (session.parse_leaves service.backend roster.around.world path options))

theorem moves_parseAll (service : Service ω σ) (roster : Roster ω σ) (identity : String)
    (root : FilePath) (members : List FilePath) (options : Options) :
    Moves service identity roster
      (roster.parseAll service identity root members options).2 := by
  cases found : roster.session? identity with
  | none =>
      simp only [parseAll, found]
      exact .refl
  | some session =>
      simp only [parseAll, found]
      exact .single (.revise found
        (session.parseAll_revises service.backend roster.around.world root members options)
        (session.parseAll_leaves service.backend roster.around.world root members options))

theorem closeOnly_none (absent : roster.session? identity = none) (path : FilePath) :
    roster.closeOnly service identity path = (none, roster) := by
  simp [closeOnly, absent]

theorem closeOnly_missing {session : Session σ}
    (found : roster.session? identity = some session) {path : FilePath}
    (missing : session.documents.find? path = none) :
    roster.closeOnly service identity path =
      (some (false, session), { roster.setSession session with around := roster.around }) := by
  simp only [closeOnly, found, Session.closeDocument_missing missing]

theorem closeOnly_open {session : Session σ}
    (found : roster.session? identity = some session) {path : FilePath} {document : Document}
    (held : session.documents.find? path = some document) :
    roster.closeOnly service identity path =
      (some (true, session.forget
        (session.release service.backend service.addressing roster.around document).1.state
        document.path), roster.close service session document) := by
  simp only [closeOnly, found, Session.closeDocument_open held, close]

theorem moves_closeOnly (service : Service ω σ) (roster : Roster ω σ) (identity : String)
    (path : FilePath) :
    Moves service identity roster (roster.closeOnly service identity path).2 := by
  cases found : roster.session? identity with
  | none =>
      rw [closeOnly_none found]
      exact .refl
  | some session =>
      cases held : session.documents.find? path with
      | none =>
          rw [closeOnly_missing found held]
          exact .single (.revise found ⟨rfl, rfl, rfl, rfl⟩ .untouched)
      | some document =>
          rw [closeOnly_open found held]
          exact .single (.close found (Documents.find?_some held).1)

/-- Releasing the documents of a session is closing them one by one and dropping it. -/
private theorem moves_releaseAll (documents : List Document) {roster : Roster ω σ}
    {session held : Session σ} (orderly : roster.Orderly service.addressing)
    (found : roster.session? identity = some session)
    (documents_eq : session.documents = documents) (same : held.state = session.state)
    (emptied : Nat) :
    Moves service identity roster
      { roster.eraseSession identity with
        around := (Session.releaseAll service.backend service.addressing documents held
          roster.around).2
        emptied := emptied } := by
  induction documents generalizing roster session held with
  | nil => exact .single (.drop emptied found documents_eq)
  | cons document rest induction =>
      obtain ⟨session_mem, session_identity⟩ := session?_some found
      have document_mem : document ∈ session.documents := by simp [documents_eq]
      have closed : Move service identity roster (roster.close service session document) :=
        .close found document_mem
      have distinct := (orderly.sessions session session_mem).distinct
      have rest_eq : session.documents.erase document.path = rest := by
        rw [Session.handles, documents_eq] at distinct
        rw [documents_eq]
        exact Documents.erase_head distinct
      have found_closed := session?_close service (session_identity ▸ found) document
        session.identity
      rw [if_pos rfl, session_identity] at found_closed
      obtain ⟨around_eq, state_eq⟩ := Session.release_congr same service.backend
        service.addressing roster.around document
      have others := induction (closed.orderly orderly) found_closed rest_eq state_eq
      subst session_identity
      have sessions_eq : ((roster.close service session document).eraseSession
          session.identity).sessions = (roster.eraseSession session.identity).sessions :=
        roster.sessions_eraseSession_setSession (session.forget _ document.path)
      dsimp only at others
      rw [sessions_eq] at others
      refine .head closed ?_
      rw [Session.releaseAll_cons, around_eq]
      exact others

theorem dismiss_none (absent : roster.session? identity = none) :
    roster.dismiss service identity = roster := by
  simp [dismiss, absent]

/-- A notice that tears nothing down changes nothing. -/
theorem ownerChanged_idle {change : OwnerChange} (idle : change.departed? = none) :
    roster.ownerChanged service change = (false, roster) := by
  simp only [ownerChanged, idle]

/-- A client that has left is dismissed. -/
theorem ownerChanged_departed {change : OwnerChange}
    (departed : change.departed? = some identity) :
    roster.ownerChanged service change =
      (roster.contains identity, roster.dismiss service identity) := by
  simp only [ownerChanged, departed]
  cases present : roster.contains identity with
  | true => rfl
  | false =>
      rw [contains, Option.isSome_eq_false_iff, Option.isNone_iff_eq_none] at present
      rw [dismiss_none present]
      rfl

theorem moves_dismiss (orderly : roster.Orderly service.addressing) (identity : String) :
    Moves service identity roster (roster.dismiss service identity) := by
  cases found : roster.session? identity with
  | none =>
      rw [dismiss_none found]
      exact .refl
  | some session =>
      simp only [dismiss, found, Session.closeAll]
      exact moves_releaseAll session.documents orderly found rfl rfl _

theorem moves_closeDocument (orderly : roster.Orderly service.addressing)
    (identity path : String) :
    Moves service identity roster (roster.closeDocument service identity path) := by
  have closed := moves_closeOnly service roster identity
    (service.addressing.canonical path)
  simp only [closeDocument]
  split
  · next remaining after outcome =>
      rw [outcome] at closed
      split
      · exact closed.trans (moves_dismiss (closed.orderly orderly) identity)
      · exact closed
  · next other after _ outcome =>
      rw [outcome] at closed
      exact closed

end Roster
end LintBus

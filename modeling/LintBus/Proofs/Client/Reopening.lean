import LintBus.Proofs.Client.Attempt
import LintBus.Proofs.Client.Result

/-!
# Opening documents again

A call may name a document more than once.  What it says last about the document is what stays, so
that opening the same documents once more changes nothing.
-/

namespace LintBus

variable {ω σ : Type} {addressing : Addressing} {openings : List Opening}

namespace Opening

/-- What is said last about the document at a path. -/
def last? (addressing : Addressing) (openings : List Opening) (path : FilePath) :
    Option Opening :=
  openings.reverse.find? fun opening => path.same (addressing.canonical opening.path)

theorem last?_cons (addressing : Addressing) (opening : Opening) (rest : List Opening)
    (path : FilePath) :
    last? addressing (opening :: rest) path =
      (last? addressing rest path).or
        (if path.same (addressing.canonical opening.path) then some opening else none) := by
  rw [last?, List.reverse_cons, List.find?_append, List.find?_singleton, last?]

theorem last?_congr {left right : FilePath} (same : left.same right = true) :
    last? addressing openings left = last? addressing openings right := by
  rw [FilePath.same_iff] at same
  simp only [last?, FilePath.same, same]

theorem isSome_last? (addressing : Addressing) (openings : List Opening) (path : FilePath) :
    (last? addressing openings path).isSome =
      ProjectRun.inScope (openings.map (addressing.canonical ·.path)) path := by
  rw [last?, List.isSome_find?, List.any_reverse, ProjectRun.inScope, List.any_map]
  rfl

end Opening

namespace Document

/-- The document refreshed with what is said last about it. -/
def reopened (addressing : Addressing) (openings : List Opening) (document : Document) :
    Document :=
  match Opening.last? addressing openings document.path with
  | none => document
  | some opening => document.refresh (addressing.contentsPath opening.contents) opening.cursor

private theorem refresh_refresh (document : Document) (former contents : FilePath)
    (before cursor : Location) :
    (document.refresh former before).refresh contents cursor =
      document.refresh contents cursor := rfl

private theorem reopened_cons (addressing : Addressing) (opening : Opening) (rest : List Opening)
    (document : Document) :
    document.reopened addressing (opening :: rest) =
      (if document.path.same (addressing.canonical opening.path) then
        document.refresh (addressing.contentsPath opening.contents) opening.cursor
      else document).reopened addressing rest := by
  have kept : (document.refresh (addressing.contentsPath opening.contents)
      opening.cursor).path = document.path := rfl
  cases same : document.path.same (addressing.canonical opening.path) with
  | true =>
      cases said : Opening.last? addressing rest document.path with
      | none => simp [reopened, Opening.last?_cons, same, kept, said]
      | some later => simp [reopened, Opening.last?_cons, same, kept, said, refresh_refresh]
  | false => simp [reopened, Opening.last?_cons, same]

end Document

namespace Session

variable {session : Session σ} {document : Document}

/-- Opening documents that are open refreshes them. -/
theorem openingEach_open
    (all_open : ∀ opening ∈ openings, session.Open (addressing.canonical opening.path)) :
    session.openingEach addressing openings =
      { session with
        documents := session.documents.map (Document.reopened addressing openings) } := by
  induction openings generalizing session with
  | nil =>
      rw [openingEach_nil, List.map_congr_left (fun document _ =>
        (rfl : document.reopened addressing [] = document)), List.map_id']
  | cons opening rest induction =>
      have opening_eq : session.opening addressing opening.path opening.contents opening.cursor =
          session.refresh (addressing.canonical opening.path)
            (addressing.contentsPath opening.contents) opening.cursor := by
        obtain ⟨document, found⟩ := open_iff.mp (all_open opening List.mem_cons_self)
        simp [Session.opening, found]
      have rest_open : ∀ later ∈ rest, (session.refresh (addressing.canonical opening.path)
          (addressing.contentsPath opening.contents) opening.cursor).Open
            (addressing.canonical later.path) := by
        intro later listed
        exact (refresh_revises ..).keepsOpen (all_open later (List.mem_cons_of_mem _ listed))
      rw [openingEach_cons, opening_eq, induction rest_open]
      simp only [refresh, Documents.update, List.map_map, Session.mk.injEq, and_true, true_and]
      refine List.map_congr_left fun document _ => ?_
      exact (document.reopened_cons addressing opening rest).symm

private theorem mem_opening_same {path contents : String} {cursor : Location}
    (held : document ∈ (session.opening addressing path contents cursor).documents)
    (same : document.path.same (addressing.canonical path) = true) :
    document.refresh (addressing.contentsPath contents) cursor = document := by
  obtain ⟨former, -, ⟨-, rfl⟩ | ⟨different, rfl⟩⟩ := Documents.mem_update.mp held
  · rfl
  · simp [same] at different

/-- When documents have been opened, each is as what has been said last about it. -/
theorem reopened_of_mem (held : document ∈ (session.openingEach addressing openings).documents) :
    document.reopened addressing openings = document := by
  induction openings generalizing session with
  | nil => rfl
  | cons opening rest induction =>
      rw [openingEach_cons] at held
      have rest_kept := induction held
      rw [Document.reopened_cons]
      split
      · next same =>
          cases said : Opening.last? addressing rest document.path with
          | none =>
              have unnamed := Opening.isSome_last? addressing rest document.path
              rw [said] at unnamed
              have held := mem_openingEach held unnamed.symm
              rwa [mem_opening_same held same]
          | some later =>
              simp only [Document.reopened, said] at rest_kept
              have kept : (document.refresh (addressing.contentsPath opening.contents)
                  opening.cursor).path = document.path := rfl
              simp only [Document.reopened, kept, said, Document.refresh_refresh]
              exact rest_kept
      · exact rest_kept

/-- A document that has been opened has the cursor that was given last. -/
theorem cursor_of_mem (held : document ∈ (session.openingEach addressing openings).documents)
    {opening : Opening}
    (said : Opening.last? addressing openings document.path = some opening) :
    document.cursor = opening.cursor := by
  have kept := reopened_of_mem held
  rw [Document.reopened, said] at kept
  exact (congrArg Document.cursor kept).symm

private theorem openingEach_again (session : Session σ) (openings : List Opening) :
    (session.openingEach addressing openings).openingEach addressing openings =
      session.openingEach addressing openings := by
  rw [openingEach_open fun opening listed => open_openingEach listed session,
    List.map_congr_left fun document held => reopened_of_mem held, List.map_id']

end Session

namespace Roster

variable {service : Service ω σ} {roster opened : Roster ω σ} {identity : String}
  {session : Session σ}

/-- Replacing a session by itself changes nothing. -/
theorem setSession_self (identities : (roster.sessions.map Session.identity).Nodup)
    (listed : session ∈ roster.sessions) : roster.setSession session = roster := by
  have kept : ∀ other ∈ roster.sessions,
      (if other.identity == session.identity then session else other) = other := by
    intro other other_mem
    split
    · next same =>
        exact (List.inj_on_of_nodup_map identities other_mem listed (by simpa using same)).symm
    · rfl
  rw [setSession, List.map_congr_left kept, List.map_id']

private theorem openDocument_open (found : roster.session? identity = some session)
    {path : String} (is_open : session.Open (service.addressing.canonical path))
    (contents : String) (cursor : Location) :
    roster.openDocument service identity path contents cursor =
      (.ok (service.addressing.canonical path),
        roster.setSession (session.opening service.addressing path contents cursor)) := by
  obtain ⟨document, held⟩ := Session.open_iff.mp is_open
  simp only [openDocument, sessionFor_some found, Session.openDocument, held, Session.opening,
    Option.isSome_some, if_true]
  rfl

private theorem openEach_open (identities : (roster.sessions.map Session.identity).Nodup)
    (found : roster.session? identity = some session)
    (all_open : ∀ opening ∈ openings, session.Open (service.addressing.canonical opening.path)) :
    roster.openEach service identity openings =
      (.ok (), roster.setSession (session.openingEach service.addressing openings)) := by
  induction openings generalizing roster session with
  | nil =>
      rw [openEach, Session.openingEach_nil, setSession_self identities (session?_some found).1]
  | cons opening rest induction =>
      obtain ⟨-, rfl⟩ := session?_some found
      have kept := session?_setSession_self _ found (session.opening_identity
        service.addressing opening.path opening.contents opening.cursor)
      have rest_open : ∀ later ∈ rest,
          (session.opening service.addressing opening.path opening.contents opening.cursor).Open
            (service.addressing.canonical later.path) := fun later listed =>
        (all_open later (List.mem_cons_of_mem _ listed)).opening ..
      rw [openEach_opened (openDocument_open found (all_open opening List.mem_cons_self) ..),
        induction (by rwa [identities_setSession]) kept rest_open, Session.openingEach_cons,
        setSession_setSession]
      rw [Session.openingEach_open rest_open]

/-- Opening the same documents again changes nothing. -/
theorem openEach_again (identities : (opened.sessions.map Session.identity).Nodup)
    (outcome : roster.openEach service identity openings = (.ok (), opened)) :
    opened.openEach service identity openings = (.ok (), opened) := by
  by_cases none_opened : openings = []
  · rw [none_opened, openEach]
  · have found := openEach_ok none_opened outcome
    have again := openEach_open identities found
      fun opening listed => Session.open_openingEach listed _
    rw [again, Session.openingEach_again, setSession_self identities (session?_some found).1]

end Roster
end LintBus

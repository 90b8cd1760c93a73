import LintBus.Proofs.Client.Mirror
import LintBus.Service.Answer

/-!
# Opening the documents of a job

Whatever a job does, it first opens the documents that it names, one after the other, up to the
first that the bus refuses.  What is left to do afterwards depends only on the roster in which all
of them are open.
-/

namespace LintBus

variable {ω σ : Type}

/-- What a call says about a document that it opens. -/
structure Opening where
  path : String
  /-- Where the contents live, if not in the file itself. -/
  contents : String
  cursor : Location

/-- The documents that a job opens, in order. -/
def Job.openings : Job → List Opening
  | .parse request => [⟨request.path, request.contents, request.cursor⟩]
  | .parseAll request =>
      ⟨request.path, "", request.cursor⟩ ::
        request.members.map fun member => ⟨member.1, member.2, .origin⟩
  | .close _ | .diagnostics => []

namespace Session

variable {addressing : Addressing} {session : Session σ}

/-- A session that has found or opened some documents one after the other. -/
def openingEach (addressing : Addressing) (openings : List Opening) (session : Session σ) :
    Session σ :=
  openings.foldl
    (fun session opening =>
      session.opening addressing opening.path opening.contents opening.cursor)
    session

@[simp]
theorem openingEach_nil (addressing : Addressing) (session : Session σ) :
    session.openingEach addressing [] = session := rfl

@[simp]
theorem openingEach_cons (addressing : Addressing) (opening : Opening) (rest : List Opening)
    (session : Session σ) :
    session.openingEach addressing (opening :: rest) =
      (session.opening addressing opening.path opening.contents opening.cursor).openingEach
        addressing rest := rfl

theorem openDocument_ok {bus bus' : Bus} {path contents : String} {cursor : Location}
    {canonical : FilePath} {after : Session σ}
    (opened : session.openDocument addressing bus path contents cursor =
      (.ok canonical, after, bus')) :
    canonical = addressing.canonical path ∧
      after = session.opening addressing path contents cursor := by
  simp only [openDocument] at opened
  cases found : session.documents.find? (addressing.canonical path) with
  | some document =>
      simp only [found, Prod.mk.injEq, Except.ok.injEq] at opened
      obtain ⟨rfl, rfl, -⟩ := opened
      simp [opening, found]
  | none =>
      simp only [found] at opened
      split at opened
      · simp at opened
      · simp only [Prod.mk.injEq, Except.ok.injEq] at opened
        obtain ⟨rfl, rfl, -⟩ := opened
        simp [opening, found, enlist]

end Session

namespace Roster

variable {service : Service ω σ} {roster after : Roster ω σ} {identity : String}

section Document

variable {path contents : String} {cursor : Location}

/-- A document that has been opened is in the session of its client, refreshed. -/
theorem openDocument_ok {canonical : FilePath}
    (opened : roster.openDocument service identity path contents cursor =
      (.ok canonical, after)) :
    canonical = service.addressing.canonical path ∧
      after.session? identity = some ((roster.sessionFor service identity).1.opening
        service.addressing path contents cursor) := by
  have found := session?_sessionFor service roster identity
  simp only [openDocument] at opened
  generalize roster.sessionFor service identity = given at found opened ⊢
  obtain ⟨-, rfl⟩ := session?_some found
  split at opened
  · next canonical' session' bus outcome =>
      obtain ⟨rfl, rfl⟩ := Session.openDocument_ok outcome
      simp only [Prod.mk.injEq, Except.ok.injEq] at opened
      obtain ⟨rfl, rfl⟩ := opened
      have kept := session?_setSession_self _ found
        (given.1.opening_identity service.addressing path contents cursor)
      exact ⟨rfl, kept⟩
  · simp at opened

/-- A document that is refused leaves no trace but the number of a session made for it. -/
theorem openDocument_error (orderly : roster.Orderly service.addressing)
    (shows : roster.Shows service.addressing) {error : BusError}
    (refused : roster.openDocument service identity path contents cursor =
      (.error error, after)) :
    after = { roster with nextId := (roster.sessionFor service identity).2.nextId } := by
  cases found : roster.session? identity with
  | some session =>
      have present : roster.contains identity = true := by simp [contains, found]
      rcases opening_cases orderly shows found path contents cursor with
        ⟨opened, bus, outcome, -⟩ | ⟨error', outcome⟩
      · simp [openDocument, sessionFor_some found, outcome] at refused
      · simp only [openDocument, sessionFor_some found, outcome, present, Bool.not_true,
          Bool.false_eq_true, if_false, Prod.mk.injEq] at refused ⊢
        exact refused.2.symm
  | none =>
      have missing : roster.contains identity = false := by simp [contains, found]
      have enrolled : Move service identity roster (roster.enroll service identity) :=
        .enroll found
      have found_enrolled := session?_enroll_self service found
      rcases opening_cases (enrolled.orderly orderly) (enrolled.shows orderly shows)
          found_enrolled path contents cursor with
        ⟨opened, bus, outcome, -⟩ | ⟨error', outcome⟩
      · simp [openDocument, sessionFor_none found, outcome] at refused
      · simp only [openDocument, sessionFor_none found, outcome, missing, Bool.not_false,
          if_true, Prod.mk.injEq] at refused ⊢
        have others : roster.sessions.filter (·.identity != identity) = roster.sessions :=
          List.filter_eq_self.mpr fun session session_mem => by
            simpa using session?_none.mp found session session_mem
        rw [← refused.2]
        simp [eraseSession, setBus, enroll, Session.opened, others]

/-- A document that is refused is not open. -/
theorem openDocument_error_absent {error : BusError}
    (refused : roster.openDocument service identity path contents cursor =
      (.error error, after)) :
    ∀ document ∈ roster.documentsOf identity,
      document.path.same (service.addressing.canonical path) = false := by
  intro document held
  obtain ⟨session, found, held⟩ := mem_documentsOf.mp held
  by_contra same
  rw [Bool.not_eq_false] at same
  cases present : session.documents.find? (service.addressing.canonical path) with
  | none => exact absurd (Documents.find?_none.mp present document held) (by simp [same])
  | some other =>
      simp [openDocument, sessionFor_some found, Session.openDocument, present] at refused

/-- Opening a document changes nothing but the sessions, the next number and the exports. -/
theorem openDocument_keeps (service : Service ω σ) (roster : Roster ω σ)
    (identity path contents : String) (cursor : Location) :
    let opened := (roster.openDocument service identity path contents cursor).2
    opened.emptied = roster.emptied ∧
      opened.around = { roster.around with bus := opened.around.bus } := by
  have around_eq := sessionFor_around service roster identity
  have emptied_eq : (roster.sessionFor service identity).2.emptied = roster.emptied := by
    rw [sessionFor]
    split <;> rfl
  simp only [openDocument]
  split
  · simp [setBus, setSession, around_eq, emptied_eq]
  · dsimp only
    split
    · simp [setBus, eraseSession, around_eq, emptied_eq]
    · simp [setBus, around_eq, emptied_eq]

end Document

/-- Find or open some documents one after the other, up to the first that is refused. -/
def openEach (service : Service ω σ) (identity : String) :
    List Opening → Roster ω σ → Except BusError Unit × Roster ω σ
  | [], roster => (.ok (), roster)
  | opening :: rest, roster =>
      match roster.openDocument service identity opening.path opening.contents opening.cursor with
      | (.error error, roster) => (.error error, roster)
      | (.ok _, roster) => openEach service identity rest roster

section Several

variable {openings : List Opening}

theorem openEach_opened {opening : Opening} {canonical : FilePath}
    (opened : roster.openDocument service identity opening.path opening.contents
      opening.cursor = (.ok canonical, after)) (rest : List Opening) :
    roster.openEach service identity (opening :: rest) =
      after.openEach service identity rest := by
  simp only [openEach, opened]

theorem moves_openEach (openings : List Opening) (orderly : roster.Orderly service.addressing)
    (agrees : service.Agrees roster) (identity : String) :
    Moves service identity roster (roster.openEach service identity openings).2 := by
  induction openings generalizing roster with
  | nil => exact .refl
  | cons opening rest induction =>
      have first := moves_openDocument orderly (shows_of_agrees agrees) identity opening.path
        opening.contents opening.cursor
      obtain ⟨orderly, agrees⟩ := first.sound orderly agrees
      rw [openEach]
      split
      · next outcome =>
          rw [outcome] at first
          exact first
      · next outcome =>
          rw [outcome] at first orderly agrees
          exact first.trans (induction orderly agrees)

/-- Opening documents changes nothing but the sessions, the next number and the exports. -/
theorem openEach_keeps (service : Service ω σ) (roster : Roster ω σ) (identity : String)
    (openings : List Opening) :
    let opened := (roster.openEach service identity openings).2
    opened.emptied = roster.emptied ∧
      opened.around = { roster.around with bus := opened.around.bus } := by
  induction openings generalizing roster with
  | nil => exact ⟨rfl, rfl⟩
  | cons opening rest induction =>
      have first := openDocument_keeps service roster identity opening.path opening.contents
        opening.cursor
      rw [openEach]
      split
      · next outcome =>
          rw [outcome] at first
          exact first
      · next after outcome =>
          rw [outcome] at first
          obtain ⟨emptied_eq, around_eq⟩ := induction after
          refine ⟨emptied_eq.trans first.1, ?_⟩
          rw [around_eq, first.2]

/-- Where some documents cannot all be opened, those before the first refused one are open. -/
theorem openEach_error {error : BusError}
    (outcome : roster.openEach service identity openings = (.error error, after)) :
    ∃ opened refused rest middle, openings = opened ++ refused :: rest ∧
      roster.openEach service identity opened = (.ok (), middle) ∧
      middle.openDocument service identity refused.path refused.contents refused.cursor =
        (.error error, after) := by
  induction openings generalizing roster with
  | nil => simp [openEach] at outcome
  | cons opening rest induction =>
      rw [openEach] at outcome
      split at outcome
      · next error' refused_after refused =>
          obtain ⟨error_eq, rfl⟩ := Prod.mk.inj outcome
          obtain rfl := Except.error.inj error_eq
          exact ⟨[], opening, rest, roster, rfl, rfl, refused⟩
      · next first canonical opened_first =>
          obtain ⟨opened, refused, others, middle, rfl, opened_ok, refused_error⟩ :=
            induction outcome
          exact ⟨opening :: opened, refused, others, middle, rfl,
            (openEach_opened opened_first opened).trans opened_ok, refused_error⟩

theorem documents_sessionFor (service : Service ω σ) (roster : Roster ω σ) (identity : String) :
    (roster.sessionFor service identity).1.documents = roster.documentsOf identity := by
  unfold documentsOf
  cases found : roster.session? identity with
  | some session => rw [sessionFor_some found, Option.elim_some]
  | none =>
      rw [sessionFor_none found, Option.elim_none]
      rfl

private theorem openEach_ok_found {session : Session σ}
    (found : roster.session? identity = some session)
    (outcome : roster.openEach service identity openings = (.ok (), after)) :
    after.session? identity = some (session.openingEach service.addressing openings) := by
  induction openings generalizing roster session with
  | nil =>
      obtain rfl : roster = after := congrArg Prod.snd outcome
      exact found
  | cons opening rest induction =>
      rw [openEach] at outcome
      split at outcome
      · simp at outcome
      · next opened =>
          have held := (openDocument_ok opened).2
          rw [sessionFor_some found] at held
          exact induction held outcome

/-- Documents that have been opened are in the session of their client, each refreshed. -/
theorem openEach_ok (some_opened : openings ≠ [])
    (outcome : roster.openEach service identity openings = (.ok (), after)) :
    after.session? identity = some ((roster.sessionFor service identity).1.openingEach
      service.addressing openings) := by
  cases openings with
  | nil => exact absurd rfl some_opened
  | cons opening rest =>
      rw [openEach] at outcome
      split at outcome
      · simp at outcome
      · next opened =>
          rw [Session.openingEach_cons]
          exact openEach_ok_found (openDocument_ok opened).2 outcome

/-- A bus that admits all documents refuses none. -/
theorem openEach_ready (ready : roster.Ready service) (identity : String)
    (openings : List Opening) :
    ∃ after, roster.openEach service identity openings = (.ok (), after) := by
  induction openings generalizing roster with
  | nil => exact ⟨roster, rfl⟩
  | cons opening rest induction =>
      have moves := moves_openDocument ready.orderly (shows_of_agrees ready.agrees) identity
        opening.path opening.contents opening.cursor
      obtain ⟨first, opened, -⟩ := openDocument_ready ready identity opening.path
        opening.contents opening.cursor
      rw [opened] at moves
      rw [openEach_opened opened]
      exact induction (moves.ready ready)

/-- The members of a project are opened one after the other. -/
theorem openMembers_eq (service : Service ω σ) (identity : String)
    (members : List (String × String)) (roster : Roster ω σ) :
    roster.openMembers service identity members =
      ((roster.openEach service identity
          (members.map fun member => ⟨member.1, member.2, .origin⟩)).1.map
        fun _ => members.map (service.addressing.canonical ·.1),
      (roster.openEach service identity
        (members.map fun member => ⟨member.1, member.2, .origin⟩)).2) := by
  induction members generalizing roster with
  | nil => rfl
  | cons member rest induction =>
      obtain ⟨path, contents⟩ := member
      simp only [openMembers, List.map_cons, openEach]
      cases outcome : roster.openDocument service identity path contents .origin with
      | mk result opened =>
          cases result with
          | error error => rfl
          | ok canonical =>
              obtain ⟨rfl, -⟩ := openDocument_ok outcome
              dsimp only
              rw [induction]
              cases (opened.openEach service identity _).1 with
              | error error => rfl
              | ok done => rfl

end Several

end Roster

namespace Service

variable {service : Service ω σ} {roster after : Roster ω σ} {sender path : String} {job : Job}

/-- The canonical paths of the documents that a job opens. -/
def scope (service : Service ω σ) (job : Job) : List FilePath :=
  job.openings.map (service.addressing.canonical ·.path)

@[simp]
theorem scope_parse (service : Service ω σ) (request : ParseRequest) :
    service.scope (.parse request) = [service.addressing.canonical request.path] := rfl

@[simp]
theorem scope_parseAll (service : Service ω σ) (request : ParseAllRequest) :
    service.scope (.parseAll request) =
      service.addressing.canonical request.path ::
        request.members.map (service.addressing.canonical ·.1) := by
  simp [scope, Job.openings]

/-- What is left of a job when the documents that it names are open. -/
def proceed (service : Service ω σ) (roster : Roster ω σ) (sender path : String) :
    Job → Reply × Roster ω σ
  | .parse request =>
      let canonical := service.addressing.canonical request.path
      match roster.parse service sender canonical request.options with
      | (none, roster) => (.error .sessionGone, roster)
      | (some (.error failure), roster) =>
          (.error (.ofFailure service.backend.language failure), roster)
      | (some (.ok ()), roster) =>
          ((objectOf roster sender canonical).map fun object => [.string object], roster)
  | .parseAll request =>
      let members := request.members.map (service.addressing.canonical ·.1)
      match roster.parseAll service sender (service.addressing.canonical request.path) members
        request.options with
      | (none, roster) => (.error .sessionGone, roster)
      | (some (.error failure), roster) =>
          (.error (.ofFailure service.backend.language failure), roster)
      | (some (.ok parsed), roster) =>
          let spellings := members.zip (request.members.map (·.1))
          let entries := parsed.mapM (service.projectEntry roster sender spellings)
          (entries.map fun entries => [.array entries], roster)
  | .close document => (.ok [], roster.closeDocument service sender document)
  | .diagnostics => (service.diagnostics roster path, roster)

theorem proceed_parse (service : Service ω σ) (roster : Roster ω σ) (sender path : String)
    (request : ParseRequest) :
    (service.proceed roster sender path (.parse request)).2 =
      (roster.parse service sender (service.addressing.canonical request.path)
        request.options).2 := by
  simp only [proceed]
  split
  all_goals
    next outcome => rw [outcome]

theorem proceed_parseAll (service : Service ω σ) (roster : Roster ω σ) (sender path : String)
    (request : ParseAllRequest) :
    (service.proceed roster sender path (.parseAll request)).2 =
      (roster.parseAll service sender (service.addressing.canonical request.path)
        (request.members.map (service.addressing.canonical ·.1)) request.options).2 := by
  simp only [proceed]
  split
  all_goals
    next outcome => rw [outcome]

/-- A job opens the documents that it names and goes on with what is left to do. -/
theorem perform_eq (service : Service ω σ) (roster : Roster ω σ) (sender path : String)
    (job : Job) :
    service.perform roster sender path job =
      match roster.openEach service sender job.openings with
      | (.error error, after) => (.error (.ofBusError error), after)
      | (.ok (), after) => service.proceed after sender path job := by
  cases job with
  | parse request =>
      simp only [perform, parse, Job.openings, Roster.openEach]
      cases outcome : roster.openDocument service sender request.path request.contents
        request.cursor with
      | mk result opened =>
          cases result with
          | error error => rfl
          | ok canonical =>
              obtain ⟨rfl, -⟩ := Roster.openDocument_ok outcome
              rfl
  | close document => rfl
  | parseAll request =>
      simp only [perform, parseAll, Job.openings, Roster.openEach]
      cases outcome : roster.openDocument service sender request.path "" request.cursor with
      | mk result opened =>
          cases result with
          | error error => rfl
          | ok canonical =>
              obtain ⟨rfl, -⟩ := Roster.openDocument_ok outcome
              dsimp only
              rw [Roster.openMembers_eq]
              cases outcome : opened.openEach service sender _ with
              | mk result joined =>
                  cases result with
                  | error error => rfl
                  | ok done => rfl
  | diagnostics => rfl

theorem perform_refused {error : BusError}
    (refused : roster.openEach service sender job.openings = (.error error, after)) :
    service.perform roster sender path job = (.error (.ofBusError error), after) := by
  rw [perform_eq, refused]

theorem perform_opened
    (opened : roster.openEach service sender job.openings = (.ok (), after)) :
    service.perform roster sender path job = service.proceed after sender path job := by
  rw [perform_eq, opened]

end Service
end LintBus

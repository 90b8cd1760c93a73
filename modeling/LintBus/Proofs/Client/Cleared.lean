import LintBus.Proofs.Client.Opening

/-!
# Clearing diagnostics

What a client's documents were diagnosed with makes no difference to opening documents, and none to
parsing those very documents: an attempt clears all documents that it names before the backend sees
them.
-/

namespace LintBus

variable {ω σ : Type}

/-- The document without diagnostics if its path is in a scope. -/
def Document.cleared (scope : List FilePath) (document : Document) : Document :=
  if ProjectRun.inScope scope document.path then document.diagnosed [] else document

namespace Document

variable (scope : List FilePath) (document : Document)

@[simp]
theorem cleared_path : (document.cleared scope).path = document.path := by
  rw [cleared]
  split <;> rfl

@[simp]
theorem cleared_cursor : (document.cleared scope).cursor = document.cursor := by
  rw [cleared]
  split <;> rfl

@[simp]
theorem diagnosed_cleared (diagnostics : List Diagnostic) :
    (document.cleared scope).diagnosed diagnostics = document.diagnosed diagnostics := by
  rw [cleared]
  split <;> rfl

private theorem cleared_cleared :
    (document.cleared scope).cleared scope = document.cleared scope := by
  by_cases named : ProjectRun.inScope scope document.path
  · simp [cleared, named, diagnosed]
  · simp [cleared, named]

private theorem cleared_refresh (contents : FilePath) (cursor : Location) :
    (document.cleared scope).refresh contents cursor =
      (document.refresh contents cursor).cleared scope := by
  by_cases named : ProjectRun.inScope scope document.path
  · simp [cleared, named, refresh, diagnosed]
  · simp [cleared, named, refresh]

private theorem cleared_opened (id : Nat) (path : FilePath) (spelling object : String) :
    (opened id path spelling object).cleared scope = opened id path spelling object := by
  rw [cleared]
  split <;> rfl

end Document

namespace Session

variable (scope : List FilePath) {session : Session σ}

theorem clearDiagnostics_eq (documents : Documents) :
    clearDiagnostics scope documents = documents.map (Document.cleared scope) := rfl

theorem clearDiagnostics_clearDiagnostics (documents : Documents) :
    clearDiagnostics scope (clearDiagnostics scope documents) =
      clearDiagnostics scope documents := by
  simp [clearDiagnostics_eq, Document.cleared_cleared]

theorem find?_clearDiagnostics (documents : Documents) (path : FilePath) :
    (clearDiagnostics scope documents).find? path =
      (documents.find? path).map (Document.cleared scope) :=
  documents.find?_map (Document.cleared scope) (Document.cleared_path scope) path

private theorem update_clearDiagnostics (documents : Documents) (path : FilePath)
    (replacement : Document) :
    (clearDiagnostics [path] documents).update path (fun _ => replacement) =
      documents.update path fun _ => replacement := by
  rw [clearDiagnostics_eq, Documents.update, Documents.update, List.map_map]
  refine List.map_congr_left fun document _ => ?_
  by_cases same : document.path.same path = true
  · simp [same]
  · simp [same, Document.cleared, ProjectRun.inScope]

/-- The session with the documents in a scope cleared. -/
def cleared (session : Session σ) : Session σ :=
  { session with documents := clearDiagnostics scope session.documents }

private theorem cleared_opened (id : Nat) (identity : String) (state : σ) :
    (opened id identity state).cleared scope = opened id identity state := rfl

private theorem cleared_cleared (session : Session σ) :
    (session.cleared scope).cleared scope = session.cleared scope := by
  simp only [cleared, clearDiagnostics_clearDiagnostics]

private theorem refresh_cleared (session : Session σ) (canonical contents : FilePath)
    (cursor : Location) :
    (session.cleared scope).refresh canonical contents cursor =
      (session.refresh canonical contents cursor).cleared scope := by
  have updated := session.documents.update_map (Document.cleared scope)
    (Document.cleared_path scope) canonical (·.refresh contents cursor) (·.refresh contents cursor)
    fun document => document.cleared_refresh scope contents cursor
  simp only [refresh, cleared, clearDiagnostics_eq, updated]

/-- A cleared session opens a document like the session that it was made of. -/
theorem openDocument_cleared (session : Session σ) (addressing : Addressing) (bus : Bus)
    (path contents : String) (cursor : Location) :
    (session.cleared scope).openDocument addressing bus path contents cursor =
      ((session.openDocument addressing bus path contents cursor).1,
        (session.openDocument addressing bus path contents cursor).2.1.cleared scope,
        (session.openDocument addressing bus path contents cursor).2.2) := by
  have found_eq : (session.cleared scope).documents.find? (addressing.canonical path) =
      (session.documents.find? (addressing.canonical path)).map (Document.cleared scope) :=
    find?_clearDiagnostics ..
  simp only [openDocument, found_eq]
  cases found : session.documents.find? (addressing.canonical path) with
  | some document => simp only [Option.map_some, refresh_cleared]
  | none =>
      simp only [Option.map_none]
      have numbers : (session.cleared scope).id = session.id ∧
          (session.cleared scope).nextDocument = session.nextDocument := ⟨rfl, rfl⟩
      rw [numbers.1, numbers.2]
      split
      · rfl
      · simp only [← refresh_cleared]
        simp only [cleared, clearDiagnostics_eq, List.map_append, List.map_cons, List.map_nil,
          Document.cleared_opened]

private theorem cleared_missing {path : FilePath} (missing : session.documents.find? path = none) :
    session.cleared [path] = session := by
  have unnamed : ∀ document ∈ session.documents, document.cleared [path] = document := by
    intro document held
    have apart := Documents.find?_none.mp missing document held
    simp [Document.cleared, ProjectRun.inScope, apart]
  rw [cleared, clearDiagnostics_eq, List.map_congr_left unnamed, List.map_id']

private theorem parse_identity (session : Session σ) (backend : Backend ω σ) (world : ω)
    (path : FilePath) (options : Options) :
    (session.parse backend world path options).2.1.identity = session.identity := by
  rw [parse]
  split <;> rfl

private theorem parse_cleared (session : Session σ) (backend : Backend ω σ) (world : ω)
    (path : FilePath) (options : Options) :
    (session.cleared [path]).parse backend world path options =
      session.parse backend world path options := by
  cases found : session.documents.find? path with
  | none => rw [cleared_missing found]
  | some document =>
      have found_cleared : (session.cleared [path]).documents.find? path =
          some (document.cleared [path]) := by
        rw [cleared, find?_clearDiagnostics, found, Option.map_some]
      simp only [parse, found, found_cleared, Document.diagnosed_cleared]
      simp only [cleared, update_clearDiagnostics]

private theorem parseAll_cleared (session : Session σ) (backend : Backend ω σ) (world : ω)
    (root : FilePath) (members : List FilePath) (options : Options) :
    (session.cleared (root :: members)).parseAll backend world root members options =
      session.parseAll backend world root members options := by
  simp only [parseAll, cleared, clearDiagnostics_clearDiagnostics]

end Session

namespace Roster

variable {service : Service ω σ} {roster : Roster ω σ} {client : String} (scope : List FilePath)

/-- The roster with the documents of a client in a scope cleared. -/
def cleared (client : String) (scope : List FilePath) (roster : Roster ω σ) : Roster ω σ :=
  { roster with
    sessions := roster.sessions.map fun session =>
      if session.identity == client then session.cleared scope else session }

@[simp]
theorem cleared_around (client : String) (roster : Roster ω σ) :
    (roster.cleared client scope).around = roster.around := rfl

theorem cleared_cleared (client : String) (roster : Roster ω σ) :
    (roster.cleared client scope).cleared client scope = roster.cleared client scope := by
  simp only [cleared, List.map_map, mk.injEq, and_true]
  refine List.map_congr_left fun session _ => ?_
  by_cases own : session.identity = client
  · simp [own, Session.cleared_cleared, show (session.cleared scope).identity = client from own]
  · simp [own]

private theorem session?_cleared (client : String) (roster : Roster ω σ) :
    (roster.cleared client scope).session? client =
      (roster.session? client).map (Session.cleared scope) := by
  have kept : (fun session : Session σ =>
      (if session.identity == client then session.cleared scope else session).identity ==
        client) = fun session => session.identity == client := by
    funext session
    split <;> rfl
  simp only [session?, cleared, List.find?_map, Function.comp_def, kept]
  cases found : roster.sessions.find? (·.identity == client) with
  | none => rfl
  | some session => simp [show session.identity = client by simpa using List.find?_some found]

theorem cleared_nil (client : String) (roster : Roster ω σ) :
    roster.cleared client [] = roster := by
  have kept : ∀ session : Session σ, session.cleared [] = session := by
    intro session
    simp [Session.cleared, Session.clearDiagnostics, ProjectRun.inScope]
  simp only [cleared, kept, ite_self, List.map_id']

private theorem cleared_missing (missing : roster.session? client = none) :
    roster.cleared client scope = roster := by
  have others : ∀ session ∈ roster.sessions,
      (if session.identity == client then session.cleared scope else session) = session := by
    intro session session_mem
    simp [session?_none.mp missing session session_mem]
  rw [cleared, List.map_congr_left others, List.map_id']

private theorem setSession_cleared (roster : Roster ω σ) (session : Session σ)
    (identity_eq : session.identity = client) :
    (roster.cleared client scope).setSession session = roster.setSession session := by
  subst identity_eq
  simp only [setSession, cleared, List.map_map, mk.injEq, and_true]
  refine List.map_congr_left fun other _ => ?_
  by_cases own : other.identity = session.identity
  · simp [own, Session.cleared]
  · simp [own]

theorem cleared_setSession (roster : Roster ω σ) (session : Session σ)
    (identity_eq : session.identity = client) :
    (roster.setSession session).cleared client scope =
      roster.setSession (session.cleared scope) := by
  subst identity_eq
  simp only [setSession, cleared, List.map_map, mk.injEq, and_true]
  refine List.map_congr_left fun other _ => ?_
  by_cases own : other.identity = session.identity
  · simp [own, Session.cleared]
  · simp [own, Session.cleared]

private theorem cleared_eraseSession (client : String) (roster : Roster ω σ) :
    (roster.eraseSession client).cleared client scope = roster.eraseSession client := by
  refine cleared_missing scope ?_
  rw [session?_eraseSession, if_pos rfl]

private theorem eraseSession_cleared (client : String) (roster : Roster ω σ) :
    (roster.cleared client scope).eraseSession client = roster.eraseSession client := by
  have kept : (fun session : Session σ => session.identity != client) ∘
      (fun session => if session.identity == client then session.cleared scope else session) =
        fun session => session.identity != client := by
    funext session
    simp only [Function.comp]
    split <;> rfl
  have others : ∀ session ∈ roster.sessions.filter (·.identity != client),
      (if session.identity == client then session.cleared scope else session) = session := by
    intro session found
    have different := (List.mem_filter.mp found).2
    simp_all
  simp only [eraseSession, cleared, List.filter_map, kept, List.map_congr_left others,
    List.map_id']

private theorem cleared_enroll (service : Service ω σ) (missing : roster.session? client = none) :
    (roster.enroll service client).cleared client scope = roster.enroll service client := by
  have others := congrArg sessions (cleared_missing scope missing)
  simp only [cleared] at others
  simp only [cleared, enroll, List.map_append, List.map_cons, List.map_nil, others,
    Session.cleared_opened, ite_self]

private theorem sessionFor_cleared (service : Service ω σ) (client : String) (roster : Roster ω σ) :
    (roster.cleared client scope).sessionFor service client =
      ((roster.sessionFor service client).1.cleared scope,
        (roster.sessionFor service client).2.cleared client scope) := by
  cases found : roster.session? client with
  | some session =>
      have found_cleared : (roster.cleared client scope).session? client =
          some (session.cleared scope) := by
        rw [session?_cleared, found, Option.map_some]
      rw [sessionFor_some found, sessionFor_some found_cleared]
  | none =>
      rw [cleared_missing scope found, sessionFor_none found, cleared_enroll scope service found,
        Session.cleared_opened]

/-- A cleared roster opens a document like the roster that it was made of. -/
theorem openDocument_cleared (service : Service ω σ) (roster : Roster ω σ)
    (client path contents : String) (cursor : Location) :
    (roster.cleared client scope).openDocument service client path contents cursor =
      ((roster.openDocument service client path contents cursor).1,
        (roster.openDocument service client path contents cursor).2.cleared client scope) := by
  have contains_eq : (roster.cleared client scope).contains client = roster.contains client := by
    rw [contains, contains, session?_cleared, Option.isSome_map]
  have identity_eq := (session?_some (session?_sessionFor service roster client)).2
  simp only [openDocument, contains_eq, sessionFor_cleared]
  generalize roster.sessionFor service client = given at identity_eq ⊢
  rw [cleared_around, Session.openDocument_cleared]
  cases outcome : given.1.openDocument service.addressing given.2.around.bus path contents
    cursor with
  | mk result opened =>
      obtain ⟨session, bus⟩ := opened
      cases result with
      | ok canonical =>
          obtain ⟨-, rfl⟩ := Session.openDocument_ok outcome
          have opened_identity := (Session.opening_identity given.1 service.addressing path
            contents cursor).trans identity_eq
          have replaced := setSession_cleared scope given.2
            ((given.1.opening service.addressing path contents cursor).cleared scope)
            opened_identity
          rw [← cleared_setSession scope given.2 _ opened_identity] at replaced
          exact Prod.ext rfl (congrArg (Roster.setBus · bus) replaced)
      | error error =>
          dsimp only
          split
          · have erased := eraseSession_cleared scope client (given.2.setBus bus)
            rw [← cleared_eraseSession scope client (given.2.setBus bus)] at erased
            exact Prod.ext rfl erased
          · rfl

/-- A cleared roster opens documents like the roster that it was made of. -/
theorem openEach_cleared (service : Service ω σ) (client : String) (openings : List Opening)
    (roster : Roster ω σ) :
    (roster.cleared client scope).openEach service client openings =
      ((roster.openEach service client openings).1,
        (roster.openEach service client openings).2.cleared client scope) := by
  induction openings generalizing roster with
  | nil => rfl
  | cons opening rest induction =>
      simp only [openEach, openDocument_cleared]
      cases roster.openDocument service client opening.path opening.contents opening.cursor with
      | mk result opened =>
          cases result with
          | error error => rfl
          | ok canonical => exact induction opened

/-- Parsing a document makes no difference between a roster and the one with it cleared. -/
theorem parse_cleared (service : Service ω σ) (roster : Roster ω σ) (client : String)
    (path : FilePath) (options : Options) :
    (roster.cleared client [path]).parse service client path options =
      roster.parse service client path options := by
  cases found : roster.session? client with
  | none => rw [cleared_missing [path] found]
  | some session =>
      have found_cleared : (roster.cleared client [path]).session? client =
          some (session.cleared [path]) := by
        rw [session?_cleared, found, Option.map_some]
      have parsed_identity := (session.parse_identity service.backend roster.around.world path
        options).trans (session?_some found).2
      simp only [parse, found, found_cleared, cleared_around, Session.parse_cleared]
      rw [setSession_cleared _ _ _ parsed_identity]

/-- Parsing a project makes no difference between a roster and the one with it cleared. -/
theorem parseAll_cleared (service : Service ω σ) (roster : Roster ω σ) (client : String)
    (root : FilePath) (members : List FilePath) (options : Options) :
    (roster.cleared client (root :: members)).parseAll service client root members options =
      roster.parseAll service client root members options := by
  cases found : roster.session? client with
  | none => rw [cleared_missing (root :: members) found]
  | some session =>
      have found_cleared : (roster.cleared client (root :: members)).session? client =
          some (session.cleared (root :: members)) := by
        rw [session?_cleared, found, Option.map_some]
      have parsed_identity := (session.parseAll_revises service.backend roster.around.world root
        members options).identity_eq.trans (session?_some found).2
      simp only [parseAll, found, found_cleared, cleared_around, Session.parseAll_cleared]
      rw [setSession_cleared _ _ _ parsed_identity]

end Roster
end LintBus

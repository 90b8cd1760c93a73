import LintBus.Proofs.Backend.Blind
import LintBus.Proofs.Client.Opening
import LintBus.Proofs.File.Canonical

/-!
# Forgetting spellings

How clients have spelled the paths of their documents makes no difference to what is done to
sessions and rosters, apart from the spellings that they remember.  Each operation on a roster from
which all spellings have been dropped does what it does on the roster itself, and opening a document
does so under any spelling with the same canonical form.
-/

namespace LintBus

variable {ω σ : Type}

/-- One spelling of a path stands for another: both are empty or none is, and the canonical form is
the same. -/
structure Addressing.Respells (addressing : Addressing) (left right : String) : Prop where
  same : (addressing.canonical left).same (addressing.canonical right) = true
  isEmpty_eq : left.isEmpty = right.isEmpty

namespace Addressing.Respells

variable {addressing : Addressing} {left right : String}

theorem refl (addressing : Addressing) (path : String) : addressing.Respells path path :=
  ⟨FilePath.same_refl _, rfl⟩

theorem canonical_eq (respells : addressing.Respells left right) :
    addressing.canonical left = addressing.canonical right :=
  FilePath.canonical_eq_of_same respells.same

theorem contentsPath_eq (respells : addressing.Respells left right) :
    addressing.contentsPath left = addressing.contentsPath right := by
  rw [contentsPath, contentsPath, respells.isEmpty_eq, respells.canonical_eq]

end Addressing.Respells

namespace Session

/-- The session without the spellings of its documents. -/
def unspelled (session : Session σ) : Session σ :=
  { session with documents := session.documents.unspelled }

variable (session : Session σ)

@[simp]
theorem unspelled_id : session.unspelled.id = session.id := rfl

@[simp]
theorem unspelled_identity : session.unspelled.identity = session.identity := rfl

@[simp]
theorem unspelled_nextDocument : session.unspelled.nextDocument = session.nextDocument := rfl

@[simp]
theorem unspelled_unspelled : session.unspelled.unspelled = session.unspelled := by
  simp [unspelled]

private theorem opened_unspelled (id : Nat) (identity : String) (state : σ) :
    (opened id identity state).unspelled = opened id identity state := rfl

theorem find?_unspelled (path : FilePath) :
    session.unspelled.documents.find? path =
      (session.documents.find? path).map Document.unspelled :=
  session.documents.find?_unspelled path

private theorem refresh_unspelled (canonical contents : FilePath) (cursor : Location) :
    session.unspelled.refresh canonical contents cursor =
      (session.refresh canonical contents cursor).unspelled := by
  have updated := session.documents.update_unspelled canonical (·.refresh contents cursor)
    (·.refresh contents cursor) fun document => document.refresh_unspelled contents cursor
  simp only [refresh, unspelled, updated]

private theorem enlist_unspelled {addressing : Addressing} {path path' : String}
    (canonical_eq : addressing.canonical path = addressing.canonical path') :
    (session.unspelled.enlist addressing path').unspelled =
      (session.enlist addressing path).unspelled := by
  simp [enlist, unspelled, Documents.unspelled, Document.unspelled, Document.opened, canonical_eq]

private theorem openDocument_unspelled {addressing : Addressing}
    {path path' contents contents' : String}
    (canonical_eq : addressing.canonical path = addressing.canonical path')
    (contents_eq : addressing.contentsPath contents = addressing.contentsPath contents')
    (bus : Bus) (cursor : Location) :
    let given := session.openDocument addressing bus path contents cursor
    let other := session.unspelled.openDocument addressing bus path' contents' cursor
    other.1 = given.1 ∧ other.2.1.unspelled = given.2.1.unspelled ∧ other.2.2 = given.2.2 := by
  simp only [openDocument, ← canonical_eq, ← contents_eq, find?_unspelled]
  cases session.documents.find? (addressing.canonical path) with
  | some document =>
      refine ⟨rfl, ?_, rfl⟩
      dsimp only [Option.map_some]
      rw [refresh_unspelled, unspelled_unspelled]
  | none =>
      simp only [Option.map_none, unspelled_id, unspelled_nextDocument]
      split
      · exact ⟨rfl, session.unspelled_unspelled, rfl⟩
      · have enlisted := session.enlist_unspelled canonical_eq
        refine ⟨rfl, ?_, rfl⟩
        have refreshed := congrArg
          (refresh · (addressing.canonical path) (addressing.contentsPath contents) cursor) enlisted
        simp only [refresh_unspelled] at refreshed
        simp only [enlist, ← canonical_eq] at refreshed
        exact refreshed

variable {backend : Backend ω σ} (blind : backend.Blind)

include blind

private theorem parse_unspelled (world : ω) (path : FilePath) (options : Options) :
    session.unspelled.parse backend world path options =
      ((session.parse backend world path options).1,
        (session.parse backend world path options).2.1.unspelled,
        (session.parse backend world path options).2.2) := by
  simp only [parse, find?_unspelled]
  cases session.documents.find? path with
  | none => rfl
  | some document =>
      simp only [Option.map_some, Document.diagnosed_unspelled, blind.parse,
        Document.conclude_unspelled]
      have state_eq : session.unspelled.state = session.state := rfl
      rw [state_eq]
      generalize backend.parse world session.state (document.diagnosed []) options = handled
      have updated := session.documents.update_unspelled path
        (fun _ => ((document.diagnosed handled.result.diagnostics).conclude
          handled.result.outcome).2)
        (fun _ => ((document.diagnosed handled.result.diagnostics).conclude
          handled.result.outcome).2.unspelled) fun _ => rfl
      simp only [unspelled, updated]

private theorem parseAll_unspelled (world : ω) (root : FilePath) (members : List FilePath)
    (options : Options) :
    session.unspelled.parseAll backend world root members options =
      ((session.parseAll backend world root members options).1,
        (session.parseAll backend world root members options).2.1.unspelled,
        (session.parseAll backend world root members options).2.2) := by
  have cleared : clearDiagnostics (root :: members) session.unspelled.documents =
      (clearDiagnostics (root :: members) session.documents).unspelled := by
    simp only [clearDiagnostics, unspelled, Documents.unspelled, List.map_map]
    refine List.map_congr_left fun document _ => ?_
    by_cases named : ProjectRun.inScope (root :: members) document.path
    · simp [named, Document.diagnosed_unspelled]
    · simp [named]
  have state_eq : session.unspelled.state = session.state := rfl
  simp only [parseAll, cleared, state_eq,
    (blind.parseAll world session.state root members options).run_unspelled]
  generalize (backend.parseAll world session.state root members options).run (root :: members)
    (clearDiagnostics (root :: members) session.documents) = ran
  obtain ⟨documents, handled⟩ := ran
  cases handled.result with
  | problems found =>
      have updated := documents.update_unspelled root
        (·.diagnosed (found.map Problem.toDiagnostic))
        (·.diagnosed (found.map Problem.toDiagnostic)) fun document =>
          document.diagnosed_unspelled _
      simp only [unspelled, updated]
  | done parsed => rfl
  | failed failure => rfl
  | panicked message => rfl

end Session

/-- The surroundings without the spellings of released documents. -/
def Surroundings.unspelled (around : Surroundings ω) : Surroundings ω :=
  { around with released := Documents.unspelled around.released }

namespace Session

variable (session : Session σ) {backend : Backend ω σ} (blind : backend.Blind)
  (addressing : Addressing) (around : Surroundings ω)

include blind

private theorem release_unspelled (document : Document) :
    session.unspelled.release backend addressing around.unspelled document.unspelled =
      ((session.release backend addressing around document).1.unspelled,
        (session.release backend addressing around document).2.unspelled) := by
  simp only [release]
  cases present : backend.dispose with
  | none => rfl
  | some dispose =>
      have state_eq : session.unspelled.state = session.state := rfl
      have world_eq : around.unspelled.world = around.world := rfl
      simp only [state_eq, world_eq, blind.dispose dispose present]
      rfl

private theorem closeDocument_unspelled (path : FilePath) :
    session.unspelled.closeDocument backend addressing around.unspelled path =
      ((session.closeDocument backend addressing around path).1,
        (session.closeDocument backend addressing around path).2.1.unspelled,
        (session.closeDocument backend addressing around path).2.2.unspelled) := by
  simp only [closeDocument, find?_unspelled]
  cases session.documents.find? path with
  | none => rfl
  | some document =>
      simp only [Option.map_some, session.release_unspelled blind]
      simp only [unspelled, Documents.erase_unspelled]

private theorem releaseAll_unspelled (documents : List Document) :
    releaseAll backend addressing (Documents.unspelled documents) session.unspelled
        around.unspelled =
      ((releaseAll backend addressing documents session around).1.unspelled,
        (releaseAll backend addressing documents session around).2.unspelled) := by
  induction documents generalizing session around with
  | nil => rfl
  | cons document rest induction =>
      simp only [Documents.unspelled, List.map_cons, releaseAll]
      rw [session.release_unspelled blind]
      exact induction _ _

private theorem closeAll_unspelled :
    session.unspelled.closeAll backend addressing around.unspelled =
      ((session.closeAll backend addressing around).1.unspelled,
        (session.closeAll backend addressing around).2.unspelled) := by
  have documents_eq : session.unspelled.documents = Documents.unspelled session.documents := rfl
  simp only [closeAll, documents_eq, session.releaseAll_unspelled blind]
  rfl

end Session

namespace Roster

/-- The roster without the spellings of documents. -/
def unspelled (roster : Roster ω σ) : Roster ω σ :=
  { roster with
    sessions := roster.sessions.map Session.unspelled
    around := roster.around.unspelled }

variable (roster : Roster ω σ)

@[simp]
theorem unspelled_unspelled : roster.unspelled.unspelled = roster.unspelled := by
  simp [unspelled, Surroundings.unspelled]

theorem session?_unspelled (identity : String) :
    roster.unspelled.session? identity = (roster.session? identity).map Session.unspelled := by
  simp only [session?, unspelled, List.find?_map]
  rfl

private theorem contains_unspelled (identity : String) :
    roster.unspelled.contains identity = roster.contains identity := by
  rw [contains, contains, session?_unspelled, Option.isSome_map]

private theorem setSession_unspelled (session : Session σ) :
    roster.unspelled.setSession session.unspelled = (roster.setSession session).unspelled := by
  simp only [setSession, unspelled, List.map_map, mk.injEq, and_true]
  refine List.map_congr_left fun other _ => ?_
  by_cases same : other.identity = session.identity
  · simp [same]
  · simp [same]

private theorem eraseSession_unspelled (identity : String) :
    roster.unspelled.eraseSession identity = (roster.eraseSession identity).unspelled := by
  simp only [eraseSession, unspelled, List.filter_map]
  rfl

private theorem sessionFor_unspelled (service : Service ω σ) (identity : String) :
    roster.unspelled.sessionFor service identity =
      ((roster.sessionFor service identity).1.unspelled,
        (roster.sessionFor service identity).2.unspelled) := by
  simp only [sessionFor, session?_unspelled]
  cases roster.session? identity with
  | some session => rfl
  | none =>
      simp only [Option.map_none, unspelled, List.map_append, List.map_cons, List.map_nil,
        Session.opened_unspelled]

theorem openDocument_unspelled (service : Service ω σ) (identity : String)
    {path path' contents contents' : String}
    (canonical_eq : service.addressing.canonical path = service.addressing.canonical path')
    (contents_eq :
      service.addressing.contentsPath contents = service.addressing.contentsPath contents')
    (cursor : Location) :
    let given := roster.openDocument service identity path contents cursor
    let other := roster.unspelled.openDocument service identity path' contents' cursor
    other.1 = given.1 ∧ other.2.unspelled = given.2.unspelled := by
  simp only [openDocument, contains_unspelled, sessionFor_unspelled]
  generalize roster.sessionFor service identity = holder
  obtain ⟨session, holder⟩ := holder
  have bus_eq : holder.unspelled.around.bus = holder.around.bus := rfl
  have opened := session.openDocument_unspelled canonical_eq contents_eq holder.around.bus cursor
  dsimp only at opened ⊢
  rw [bus_eq]
  generalize session.unspelled.openDocument service.addressing holder.around.bus path' contents'
    cursor = other at opened ⊢
  generalize session.openDocument service.addressing holder.around.bus path contents cursor =
    given at opened ⊢
  obtain ⟨result, after, bus⟩ := other
  obtain ⟨result', after', bus'⟩ := given
  obtain ⟨rfl, after_eq, rfl⟩ := opened
  cases result with
  | ok canonical =>
      refine ⟨rfl, ?_⟩
      have replaced : (holder.unspelled.setSession after).unspelled =
          (holder.setSession after').unspelled := by
        rw [← setSession_unspelled, unspelled_unspelled, after_eq, setSession_unspelled]
      exact congrArg (Roster.setBus · bus) replaced
  | error error =>
      refine ⟨rfl, ?_⟩
      dsimp only
      split
      · have erased := congrArg unspelled (eraseSession_unspelled (holder.setBus bus) identity)
        rw [unspelled_unspelled] at erased
        exact erased
      · exact (holder.setBus bus).unspelled_unspelled

variable {service : Service ω σ} (blind : service.backend.Blind)

include blind

theorem parse_unspelled (identity : String) (path : FilePath) (options : Options) :
    roster.unspelled.parse service identity path options =
      ((roster.parse service identity path options).1,
        (roster.parse service identity path options).2.unspelled) := by
  simp only [parse, session?_unspelled]
  cases roster.session? identity with
  | none => rfl
  | some session =>
      have world_eq : roster.unspelled.around.world = roster.around.world := rfl
      simp only [Option.map_some, world_eq, session.parse_unspelled blind, setSession_unspelled]
      rfl

theorem parseAll_unspelled (identity : String) (root : FilePath) (members : List FilePath)
    (options : Options) :
    roster.unspelled.parseAll service identity root members options =
      ((roster.parseAll service identity root members options).1,
        (roster.parseAll service identity root members options).2.unspelled) := by
  simp only [parseAll, session?_unspelled]
  cases roster.session? identity with
  | none => rfl
  | some session =>
      have world_eq : roster.unspelled.around.world = roster.around.world := rfl
      simp only [Option.map_some, world_eq, session.parseAll_unspelled blind, setSession_unspelled]
      rfl

private theorem dismiss_unspelled (identity : String) :
    roster.unspelled.dismiss service identity = (roster.dismiss service identity).unspelled := by
  simp only [dismiss, session?_unspelled]
  cases roster.session? identity with
  | none => rfl
  | some session =>
      have around_eq : (roster.eraseSession identity).unspelled.around =
        (roster.eraseSession identity).around.unspelled := rfl
      simp only [Option.map_some, eraseSession_unspelled, around_eq,
        session.closeAll_unspelled blind]
      simp [unspelled]

theorem ownerChanged_unspelled (change : OwnerChange) :
    roster.unspelled.ownerChanged service change =
      ((roster.ownerChanged service change).1,
        (roster.ownerChanged service change).2.unspelled) := by
  simp only [ownerChanged]
  cases change.departed? with
  | none => rfl
  | some identity =>
      simp only [contains_unspelled, roster.dismiss_unspelled blind]
      split
      · rfl
      · rfl

private theorem closeOnly_unspelled (identity : String) (path : FilePath) :
    roster.unspelled.closeOnly service identity path =
      ((roster.closeOnly service identity path).1.map (Prod.map id Session.unspelled),
        (roster.closeOnly service identity path).2.unspelled) := by
  simp only [closeOnly, session?_unspelled]
  cases roster.session? identity with
  | none => rfl
  | some session =>
      have around_eq : roster.unspelled.around = roster.around.unspelled := rfl
      simp only [Option.map_some, around_eq, session.closeDocument_unspelled blind,
        setSession_unspelled]
      rfl

theorem closeDocument_unspelled (identity : String) {path path' : String}
    (canonical_eq : service.addressing.canonical path = service.addressing.canonical path') :
    roster.unspelled.closeDocument service identity path' =
      (roster.closeDocument service identity path).unspelled := by
  simp only [closeDocument, ← canonical_eq, roster.closeOnly_unspelled blind]
  generalize roster.closeOnly service identity (service.addressing.canonical path) = closed
  obtain ⟨_ | ⟨_ | _, session⟩, after⟩ := closed
  · rfl
  · rfl
  · have isEmpty_eq : session.unspelled.documents.isEmpty = session.documents.isEmpty := by
      simp [Session.unspelled, Documents.unspelled]
    simp only [Option.map_some, Prod.map, id_eq, isEmpty_eq]
    split
    · exact after.dismiss_unspelled blind identity
    · rfl

end Roster
end LintBus

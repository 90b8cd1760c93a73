import LintBus.Client.Session
import LintBus.Proofs.Bus.Exports
import LintBus.Proofs.Document.Handle
import Mathlib.Data.List.Nodup

/-!
# What sessions keep

Parsing revises a session: its number, its client, the next number and the handles of its
documents stay.  Opening a document enlists one more handle, and releasing one only changes the
state of the backend and the surroundings.
-/

namespace LintBus

namespace Backend

variable {ω σ : Type}

/-- The worlds that a parse leaves behind. -/
inductive Leaves (backend : Backend ω σ) (world : ω) : ω → Prop
  | untouched : Leaves backend world world
  | parse (state : σ) (document : Document) (options : Options) :
      Leaves backend world (backend.parse world state document options).world
  | parseAll (state : σ) (root : FilePath) (members : List FilePath) (options : Options)
      (documents : Documents) :
      Leaves backend world
        ((backend.parseAll world state root members options).run (root :: members)
          documents).2.world

/-- Those of some released documents that the backend hears of. -/
def informed (backend : Backend ω σ) (documents : List Document) : List Document :=
  if backend.dispose.isSome then documents else []

end Backend

namespace Session

variable {ω σ : Type}

/-- The handles of the documents of a session. -/
def handles (session : Session σ) : List Handle := session.documents.handles

/-- One session comes from another by changes to the backend state and to what parses bring. -/
structure Revises (revised session : Session σ) : Prop where
  id_eq : revised.id = session.id
  identity_eq : revised.identity = session.identity
  nextDocument_eq : revised.nextDocument = session.nextDocument
  handles_eq : revised.handles = session.handles

/-- The handles of a session are distinct and fit its numbers and the paths of its client. -/
structure Orderly (addressing : Addressing) (session : Session σ) : Prop where
  /-- No path is open twice. -/
  distinct : Documents.Distinct session.handles
  /-- No number is used twice. -/
  numbers : (session.handles.map Handle.id).Nodup
  /-- Numbers come before the next one. -/
  numbered : ∀ handle ∈ session.handles, handle.id < session.nextDocument
  /-- Object paths follow from the numbers. -/
  objects : ∀ handle ∈ session.handles,
    handle.object = addressing.documentObject session.id handle.id
  /-- Paths are those that the client spelled. -/
  spelled : ∀ handle ∈ session.handles, addressing.canonical handle.spelling = handle.path

theorem Revises.orderly {addressing : Addressing} {revised session : Session σ}
    (revises : revised.Revises session) (orderly : session.Orderly addressing) :
    revised.Orderly addressing := by
  obtain ⟨id_eq, -, nextDocument_eq, handles_eq⟩ := revises
  constructor
  · rw [handles_eq]
    exact orderly.distinct
  · rw [handles_eq]
    exact orderly.numbers
  · rw [handles_eq, nextDocument_eq]
    exact orderly.numbered
  · rw [handles_eq, id_eq]
    exact orderly.objects
  · rw [handles_eq]
    exact orderly.spelled

theorem Orderly.object_eq {addressing : Addressing} {session : Session σ}
    (orderly : session.Orderly addressing) {document : Document}
    (held : document ∈ session.documents) :
    document.object = addressing.documentObject session.id document.id :=
  orderly.objects document.handle (Documents.handle_mem held)

theorem opened_orderly (addressing : Addressing) (id : Nat) (identity : String) (state : σ) :
    (opened id identity state).Orderly addressing := by
  constructor <;> simp [opened, handles, Documents.handles, Documents.Distinct]

theorem refresh_revises (session : Session σ) (canonical contents : FilePath)
    (cursor : Location) : (session.refresh canonical contents cursor).Revises session :=
  ⟨rfl, rfl, rfl, Documents.handles_update fun document _ _ =>
    document.handle_refresh contents cursor⟩

theorem parse_revises {session : Session σ} (distinct : Documents.Distinct session.handles)
    (backend : Backend ω σ) (world : ω) (path : FilePath) (options : Options) :
    (session.parse backend world path options).2.1.Revises session := by
  rw [parse]
  split
  · exact ⟨rfl, rfl, rfl, rfl⟩
  · next document found =>
      exact ⟨rfl, rfl, rfl, Documents.handles_replace distinct found (by simp)⟩

theorem parse_leaves (session : Session σ) (backend : Backend ω σ) (world : ω)
    (path : FilePath) (options : Options) :
    backend.Leaves world (session.parse backend world path options).2.2 := by
  rw [parse]
  split
  · exact .untouched
  · exact .parse _ _ _

theorem handles_clearDiagnostics (scope : List FilePath) (documents : Documents) :
    Documents.handles (clearDiagnostics scope documents) = documents.handles := by
  rw [Documents.handles, Documents.handles, clearDiagnostics, List.map_map]
  refine List.map_congr_left fun document _ => ?_
  simp only [Function.comp]
  split
  · exact document.handle_diagnosed []
  · rfl

theorem parseAll_revises (session : Session σ) (backend : Backend ω σ) (world : ω)
    (root : FilePath) (members : List FilePath) (options : Options) :
    (session.parseAll backend world root members options).2.1.Revises session := by
  have kept := ProjectRun.handles_run (root :: members)
    (backend.parseAll world session.state root members options)
    (clearDiagnostics (root :: members) session.documents)
  rw [handles_clearDiagnostics] at kept
  simp only [parseAll]
  split
  · exact ⟨rfl, rfl, rfl, kept⟩
  · refine ⟨rfl, rfl, rfl, Eq.trans (Documents.handles_update fun document _ _ => ?_) kept⟩
    exact document.handle_diagnosed _
  · exact ⟨rfl, rfl, rfl, kept⟩
  · exact ⟨rfl, rfl, rfl, kept⟩

theorem parseAll_leaves (session : Session σ) (backend : Backend ω σ) (world : ω)
    (root : FilePath) (members : List FilePath) (options : Options) :
    backend.Leaves world (session.parseAll backend world root members options).2.2 := by
  simp only [parseAll]
  split
  all_goals exact .parseAll _ _ _ _ _

/-- A session with one more document, which has not been parsed. -/
def enlist (session : Session σ) (addressing : Addressing) (path : String) : Session σ :=
  { session with
    documents := session.documents ++
      [Document.opened session.nextDocument (addressing.canonical path) path
        (addressing.documentObject session.id session.nextDocument)]
    nextDocument := session.nextDocument + 1 }

theorem handles_enlist (session : Session σ) (addressing : Addressing) (path : String) :
    (session.enlist addressing path).handles =
      session.handles ++
        [⟨session.nextDocument, addressing.canonical path, path,
          addressing.documentObject session.id session.nextDocument⟩] := by
  simp [handles, enlist, Documents.handles]

theorem enlist_orderly {addressing : Addressing} {session : Session σ} {path : String}
    (orderly : session.Orderly addressing)
    (fresh : session.documents.find? (addressing.canonical path) = none) :
    (session.enlist addressing path).Orderly addressing := by
  constructor
  · rw [handles_enlist, Documents.Distinct, List.pairwise_append]
    refine ⟨orderly.distinct, List.pairwise_singleton _ _, ?_⟩
    intro handle found other other_found
    obtain ⟨document, document_mem, rfl⟩ := Documents.mem_handles.mp found
    obtain rfl := List.mem_singleton.mp other_found
    exact Documents.find?_none.mp fresh document document_mem
  · rw [handles_enlist, List.map_append, List.nodup_append]
    refine ⟨orderly.numbers, List.nodup_singleton _, ?_⟩
    intro number found other other_found
    obtain ⟨handle, handle_mem, rfl⟩ := List.mem_map.mp found
    obtain rfl : other = session.nextDocument := by simpa using other_found
    exact Nat.ne_of_lt (orderly.numbered handle handle_mem)
  · intro handle found
    rw [handles_enlist, List.mem_append, List.mem_singleton] at found
    rcases found with found | rfl
    · exact Nat.lt_succ_of_lt (orderly.numbered handle found)
    · exact Nat.lt_succ_self _
  · intro handle found
    rw [handles_enlist, List.mem_append, List.mem_singleton] at found
    rcases found with found | rfl
    · exact orderly.objects handle found
    · rfl
  · intro handle found
    rw [handles_enlist, List.mem_append, List.mem_singleton] at found
    rcases found with found | rfl
    · exact orderly.spelled handle found
    · rfl

/-- A document is found and refreshed, refused by the bus, or enlisted and refreshed. -/
theorem openDocument_cases {session : Session σ} {addressing : Addressing} {bus : Bus}
    (path contents : String) (cursor : Location)
    (clear : ∀ interface,
      (addressing.documentObject session.id session.nextDocument, interface) ∉
        bus.exports.pairs) :
    let canonical := addressing.canonical path
    let place := addressing.contentsPath contents
    (∃ document, session.documents.find? canonical = some document ∧
      session.openDocument addressing bus path contents cursor =
        (.ok canonical, session.refresh canonical place cursor, bus)) ∨
    (session.documents.find? canonical = none ∧ ∃ error,
      session.openDocument addressing bus path contents cursor = (.error error, session, bus)) ∨
    session.documents.find? canonical = none ∧ ∃ after,
      session.openDocument addressing bus path contents cursor =
        (.ok canonical, (session.enlist addressing path).refresh canonical place cursor, after) ∧
      after.Adds bus (addressing.documentObject session.id session.nextDocument)
        addressing.interfaces := by
  intro canonical place
  cases found : session.documents.find? canonical with
  | some document =>
      left
      refine ⟨document, rfl, ?_⟩
      simp only [openDocument]
      rw [found]
  | none =>
      right
      rcases Bus.exportTogether_cases addressing.interfaces clear with
        ⟨error, refused⟩ | ⟨after, exported, adds⟩
      · left
        refine ⟨rfl, error, ?_⟩
        simp only [openDocument]
        rw [found]
        simp only [refused]
      · right
        refine ⟨rfl, after, ?_, adds⟩
        simp only [openDocument]
        rw [found]
        simp only [exported]
        rfl

private theorem release_session (session : Session σ) (backend : Backend ω σ)
    (addressing : Addressing)
    (around : Surroundings ω) (document : Document) :
    (session.release backend addressing around document).1 =
      { session with state := (session.release backend addressing around document).1.state } := by
  simp only [release]
  split <;> rfl

/-- What a release leaves depends on a session only by the state of the backend. -/
theorem release_congr {left right : Session σ} (same : left.state = right.state)
    (backend : Backend ω σ) (addressing : Addressing) (around : Surroundings ω)
    (document : Document) :
    (left.release backend addressing around document).2 =
        (right.release backend addressing around document).2 ∧
      (left.release backend addressing around document).1.state =
        (right.release backend addressing around document).1.state := by
  simp only [release]
  split
  · exact ⟨rfl, same⟩
  · simp [same]

@[simp]
theorem release_bus (session : Session σ) (backend : Backend ω σ) (addressing : Addressing)
    (around : Surroundings ω) (document : Document) :
    (session.release backend addressing around document).2.bus =
      around.bus.retractAll document.object addressing.interfaces := by
  simp only [release]
  split <;> rfl

@[simp]
theorem release_released (session : Session σ) (backend : Backend ω σ)
    (addressing : Addressing) (around : Surroundings ω) (document : Document) :
    (session.release backend addressing around document).2.released =
      backend.informed [document] ++ around.released := by
  simp only [release, Backend.informed]
  split
  · next absent => simp [absent]
  · next dispose present => simp [present]

theorem releaseAll_cons (backend : Backend ω σ) (addressing : Addressing) (document : Document)
    (rest : List Document) (session : Session σ) (around : Surroundings ω) :
    releaseAll backend addressing (document :: rest) session around =
      releaseAll backend addressing rest (session.release backend addressing around document).1
        (session.release backend addressing around document).2 := rfl

/-- A session without the document at a path, and with another backend state. -/
def forget (session : Session σ) (state : σ) (path : FilePath) : Session σ :=
  { session with state := state, documents := session.documents.erase path }

theorem closeDocument_missing {session : Session σ} {path : FilePath}
    (missing : session.documents.find? path = none) (backend : Backend ω σ)
    (addressing : Addressing) (around : Surroundings ω) :
    session.closeDocument backend addressing around path = (false, session, around) := by
  simp only [closeDocument, missing]

theorem closeDocument_open {session : Session σ} {path : FilePath} {document : Document}
    (held : session.documents.find? path = some document) (backend : Backend ω σ)
    (addressing : Addressing) (around : Surroundings ω) :
    session.closeDocument backend addressing around path =
      (true,
        session.forget (session.release backend addressing around document).1.state
          document.path,
        (session.release backend addressing around document).2) := by
  have same := (Documents.find?_some held).2
  simp only [closeDocument, held]
  rw [release_session, ← Documents.erase_congr same]
  rfl

theorem forget_orderly {addressing : Addressing} {session : Session σ}
    (orderly : session.Orderly addressing) (state : σ) (path : FilePath) :
    (session.forget state path).Orderly addressing := by
  have kept : (session.documents.erase path).handles.Sublist session.handles :=
    (List.filter_sublist).map Document.handle
  constructor
  · exact orderly.distinct.sublist kept
  · exact orderly.numbers.sublist (kept.map Handle.id)
  · exact fun handle found => orderly.numbered handle (kept.subset found)
  · exact fun handle found => orderly.objects handle (kept.subset found)
  · exact fun handle found => orderly.spelled handle (kept.subset found)

end Session
end LintBus

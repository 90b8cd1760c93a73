import LintBus.Proofs.Client.Attempt

/-!
# How parses end

Once the documents of a job are open, parsing them fails only when the handler of the backend does.
The documents are still open afterwards, and so is every document that the parse of a project
reports.
-/

namespace LintBus

variable {ω σ : Type}

/-- The failure that a handler ends with; problems are none. -/
def Outcome.failure? {α : Type} : Outcome α → Option Failure
  | .done _ | .problems _ => none
  | .failed failure => some failure
  | .panicked message => some (.ofPanic message)

namespace Session

variable {addressing : Addressing} {session : Session σ}

/-- The session has a document open at a path. -/
def Open (session : Session σ) (path : FilePath) : Prop :=
  ∃ handle ∈ session.handles, handle.path.same path = true

theorem open_iff {path : FilePath} :
    session.Open path ↔ ∃ document, session.documents.find? path = some document := by
  constructor
  · rintro ⟨handle, held, same⟩
    obtain ⟨document, document_mem, rfl⟩ := Documents.mem_handles.mp held
    cases found : session.documents.find? path with
    | some other => exact ⟨other, rfl⟩
    | none =>
        have unlike := Documents.find?_none.mp found document document_mem
        exact absurd same (by simpa [Document.handle] using unlike)
  · rintro ⟨document, found⟩
    obtain ⟨document_mem, same⟩ := Documents.find?_some found
    exact ⟨document.handle, Documents.handle_mem document_mem, same⟩

theorem Revises.keepsOpen {revised : Session σ} (revises : revised.Revises session)
    {path : FilePath} (is_open : session.Open path) : revised.Open path := by
  rwa [Open, revises.handles_eq]

theorem Open.congr {left right : FilePath} (is_open : session.Open right)
    (same : left.same right = true) : session.Open left := by
  obtain ⟨handle, held, at_right⟩ := is_open
  rw [FilePath.same_comm] at same
  exact ⟨handle, held, FilePath.same_trans at_right same⟩

theorem handles_opening (session : Session σ) (addressing : Addressing) (path contents : String)
    (cursor : Location) :
    (session.opening addressing path contents cursor).handles =
      if (session.documents.find? (addressing.canonical path)).isSome then session.handles
      else (session.enlist addressing path).handles := by
  rw [opening, (refresh_revises ..).handles_eq, apply_ite handles]

theorem open_opening (session : Session σ) (path contents : String) (cursor : Location) :
    (session.opening addressing path contents cursor).Open (addressing.canonical path) := by
  rw [Open, handles_opening]
  split
  · next found => exact open_iff.mpr (Option.isSome_iff_exists.mp found)
  · exact ⟨⟨session.nextDocument, addressing.canonical path, path,
      addressing.documentObject session.id session.nextDocument⟩, by simp [handles_enlist],
      FilePath.same_refl _⟩

theorem Open.opening {standing : FilePath} (is_open : session.Open standing)
    (path contents : String) (cursor : Location) :
    (session.opening addressing path contents cursor).Open standing := by
  rw [Open, handles_opening]
  split
  · exact is_open
  · obtain ⟨handle, held, same⟩ := is_open
    exact ⟨handle, by simp [handles_enlist, held], same⟩

private theorem Open.openingEach {standing : FilePath} (is_open : session.Open standing)
    (openings : List Opening) : (session.openingEach addressing openings).Open standing := by
  induction openings generalizing session with
  | nil => exact is_open
  | cons opening rest induction =>
      exact induction (is_open.opening opening.path opening.contents opening.cursor)

/-- All documents that have been opened one after the other are open. -/
theorem open_openingEach {openings : List Opening} {opening : Opening}
    (listed : opening ∈ openings) (session : Session σ) :
    (session.openingEach addressing openings).Open (addressing.canonical opening.path) := by
  induction openings generalizing session with
  | nil => exact absurd listed List.not_mem_nil
  | cons first rest induction =>
      rw [openingEach_cons]
      rcases List.mem_cons.mp listed with rfl | listed
      · exact (session.open_opening opening.path opening.contents opening.cursor).openingEach rest
      · exact induction listed _

/-- Parsing a document that is open fails only when the handler does. -/
theorem parse_result {path : FilePath} {document : Document}
    (found : session.documents.find? path = some document) (backend : Backend ω σ) (world : ω)
    (options : Options) :
    (session.parse backend world path options).1 =
      match (backend.parse world session.state (document.diagnosed [])
        options).result.outcome.failure? with
      | some failure => .error failure
      | none => .ok () := by
  simp only [parse, found]
  cases (backend.parse world session.state (document.diagnosed []) options).result.outcome with
  | done result => rfl
  | problems found => rfl
  | failed failure => rfl
  | panicked message => rfl

/-- Parsing a project fails only when the handler does, and reports only paths of the project. -/
theorem parseAll_result (session : Session σ) (backend : Backend ω σ) (world : ω)
    (root : FilePath) (members : List FilePath) (options : Options) :
    match (session.ranAll backend world root members options).2.result.failure? with
    | some failure =>
        (session.parseAll backend world root members options).1 = .error failure
    | none =>
        ∃ parsed, (session.parseAll backend world root members options).1 = .ok parsed ∧
          ∀ path ∈ parsed, ProjectRun.inScope (root :: members) path = true := by
  simp only [parseAll, ranAll]
  generalize (backend.parseAll world session.state root members options).run (root :: members)
    (clearDiagnostics (root :: members) session.documents) = ran
  cases ran.2.result with
  | done parsed => exact ⟨_, rfl, fun path listed => (List.mem_filter.mp listed).2⟩
  | problems found =>
      refine ⟨[root], rfl, fun path listed => ?_⟩
      obtain rfl := List.mem_singleton.mp listed
      simp [ProjectRun.inScope]
  | failed failure => rfl
  | panicked message => rfl

end Session
end LintBus

import LintBus.Proofs.Client.Opening

/-!
# What attempts leave

An attempt to parse documents decides what they are diagnosed with afterwards, whatever they were
diagnosed with before.  The documents that it does not name stay exactly as they are, and so do they
when documents are opened or closed.
-/

namespace LintBus

variable {ω σ : Type}

/-- The diagnostics that a parse leaves: those of the handler, or the problems that it found. -/
def Attempt.left (attempt : Attempt) : List Diagnostic :=
  match attempt.outcome with
  | .problems found => found.map Problem.toDiagnostic
  | _ => attempt.diagnostics

theorem Document.conclude_diagnosed (document : Document) (attempt : Attempt) :
    ((document.diagnosed attempt.diagnostics).conclude attempt.outcome).2 =
      document.diagnosed attempt.left := by
  unfold Attempt.left
  cases attempt.outcome with
  | done result => rfl
  | problems found => rfl
  | failed failure => rfl
  | panicked message => rfl

/-- The document when the parse of a project has ended: problems of the project as a whole become
those of the root. -/
def Document.settled (root : FilePath) (outcome : Outcome (List FilePath)) (document : Document) :
    Document :=
  match outcome with
  | .problems found =>
      if document.path.same root then document.diagnosed (found.map Problem.toDiagnostic)
      else document
  | _ => document

@[simp]
theorem Document.settled_path (root : FilePath) (outcome : Outcome (List FilePath))
    (document : Document) : (document.settled root outcome).path = document.path := by
  unfold settled
  split
  · split <;> rfl
  · rfl

private theorem Document.settled_of_different {root : FilePath} {document : Document}
    (different : document.path.same root = false) (outcome : Outcome (List FilePath)) :
    document.settled root outcome = document := by
  unfold settled
  split
  · simp [different]
  · rfl

namespace ProjectRun

theorem inScope_congr {scope : List FilePath} {left right : FilePath}
    (same : left.same right = true) : inScope scope left = inScope scope right := by
  rw [FilePath.same_iff] at same
  simp only [inScope, FilePath.same, same]

/-- A handler at work on a project leaves the documents outside it alone. -/
theorem mem_run_outside {α : Type} {scope : List FilePath} {work : ProjectRun α}
    {documents : Documents} {document : Document}
    (held : document ∈ (work.run scope documents).1)
    (outside : inScope scope document.path = false) : document ∈ documents := by
  induction work generalizing documents with
  | finish result => exact held
  | contains path next induction => exact induction _ held
  | look path next induction => exact induction _ held
  | revise path diagnostics next induction =>
      have held := induction held
      split at held
      · next named =>
          obtain ⟨former, former_mem, ⟨same, rfl⟩ | ⟨-, rfl⟩⟩ := Documents.mem_update.mp held
          · have former_outside : inScope scope former.path = false := outside
            rw [inScope_congr same, named] at former_outside
            simp at former_outside
          · exact former_mem
      · exact held

end ProjectRun

namespace Session

variable {session : Session σ} {document : Document}

/-- What parsing the document at a path leaves there. -/
def parseLeaves (session : Session σ) (backend : Backend ω σ) (world : ω) (path : FilePath)
    (options : Options) : Option (List Diagnostic) :=
  (session.documents.find? path).map fun document =>
    (backend.parse world session.state (document.diagnosed []) options).result.left

/-- What the handler leaves that parses a project. -/
def ranAll (session : Session σ) (backend : Backend ω σ) (world : ω) (root : FilePath)
    (members : List FilePath) (options : Options) :
    Documents × Handled ω σ (Outcome (List FilePath)) :=
  (backend.parseAll world session.state root members options).run (root :: members)
    (clearDiagnostics (root :: members) session.documents)

/-- What parsing a project leaves at a path. -/
def parseAllLeaves (session : Session σ) (backend : Backend ω σ) (world : ω) (root : FilePath)
    (members : List FilePath) (options : Options) (path : FilePath) :
    Option (List Diagnostic) :=
  let (documents, handled) := session.ranAll backend world root members options
  (documents.find? path).map fun document => (document.settled root handled.result).diagnostics

theorem parseAll_documents (session : Session σ) (backend : Backend ω σ) (world : ω)
    (root : FilePath) (members : List FilePath) (options : Options) :
    (session.parseAll backend world root members options).2.1.documents =
      (session.ranAll backend world root members options).1.map
        (Document.settled root (session.ranAll backend world root members options).2.result) := by
  simp only [parseAll, ranAll]
  generalize (backend.parseAll world session.state root members options).run (root :: members)
    (clearDiagnostics (root :: members) session.documents) = ran
  cases ran.2.result with
  | problems found => rfl
  | _ => exact (List.map_id' _).symm

/-- The document that is parsed has what the attempt leaves. -/
theorem find?_parse {path : FilePath} (found : session.documents.find? path = some document)
    (backend : Backend ω σ) (world : ω) (options : Options) :
    (session.parse backend world path options).2.1.documents.find? path =
      some (document.diagnosed
        (backend.parse world session.state (document.diagnosed []) options).result.left) := by
  simp only [parse, found, Document.conclude_diagnosed]
  exact Documents.find?_replace found rfl

theorem parseAll_done {backend : Backend ω σ} {world world' : ω} {root : FilePath}
    {members parsed : List FilePath} {options : Options} {left : Documents} {state : σ}
    (ran : session.ranAll backend world root members options =
      (left, ⟨world', state, .done parsed⟩)) :
    session.parseAll backend world root members options =
      (.ok (parsed.filter (ProjectRun.inScope (root :: members))),
        { session with state := state, documents := left }, world') := by
  rw [ranAll] at ran
  simp only [parseAll, ran]

theorem parseAll_failed {backend : Backend ω σ} {world world' : ω} {root : FilePath}
    {members : List FilePath} {options : Options} {left : Documents} {state : σ}
    {failure : Failure}
    (ran : session.ranAll backend world root members options =
      (left, ⟨world', state, .failed failure⟩)) :
    session.parseAll backend world root members options =
      (.error failure, { session with state := state, documents := left }, world') := by
  rw [ranAll] at ran
  simp only [parseAll, ran]

/-- A document after a parse has what the parse leaves, or it is another one and as before. -/
theorem mem_parse {backend : Backend ω σ} {world : ω} {path : FilePath} {options : Options}
    (held : document ∈ (session.parse backend world path options).2.1.documents) :
    document.path.same path = true ∧
        session.parseLeaves backend world path options = some document.diagnostics ∨
      document.path.same path = false ∧ document ∈ session.documents := by
  cases found : session.documents.find? path with
  | none =>
      simp only [parse, found] at held
      exact .inr ⟨Documents.find?_none.mp found document held, held⟩
  | some former =>
      simp only [parse, found, Document.conclude_diagnosed] at held
      obtain ⟨other, other_mem, ⟨-, rfl⟩ | ⟨different, rfl⟩⟩ := Documents.mem_update.mp held
      · have same := (Documents.find?_some found).2
        exact .inl ⟨same, by rw [parseLeaves, found]; rfl⟩
      · exact .inr ⟨different, other_mem⟩

private theorem mem_clearDiagnostics_outside {scope : List FilePath} {documents : Documents}
    (held : document ∈ clearDiagnostics scope documents)
    (outside : ProjectRun.inScope scope document.path = false) : document ∈ documents := by
  obtain ⟨former, former_mem, rfl⟩ := List.mem_map.mp held
  split at outside
  · next named =>
      have former_outside : ProjectRun.inScope scope former.path = false := outside
      simp [named] at former_outside
  · next different =>
      rw [if_neg different]
      exact former_mem

/-- A document after the parse of a project has what the parse leaves, or it is outside the project
and as before. -/
theorem mem_parseAll (distinct : Documents.Distinct session.handles) {backend : Backend ω σ}
    {world : ω} {root : FilePath} {members : List FilePath} {options : Options}
    (held : document ∈
      (session.parseAll backend world root members options).2.1.documents) :
    ProjectRun.inScope (root :: members) document.path = true ∧
        session.parseAllLeaves backend world root members options document.path =
          some document.diagnostics ∨
      ProjectRun.inScope (root :: members) document.path = false ∧
        document ∈ session.documents := by
  rw [parseAll_documents] at held
  obtain ⟨ran, ran_mem, rfl⟩ := List.mem_map.mp held
  rw [Document.settled_path]
  cases named : ProjectRun.inScope (root :: members) ran.path with
  | true =>
      have ran_handles := ProjectRun.handles_run (root :: members)
        (backend.parseAll world session.state root members options)
        (clearDiagnostics (root :: members) session.documents)
      rw [handles_clearDiagnostics] at ran_handles
      have found : (session.ranAll backend world root members options).1.find? ran.path =
          some ran := by
        refine Documents.find?_eq_some ?_ ran_mem ran.path.same_refl
        exact ran_handles ▸ distinct
      simp only [parseAllLeaves, found, Option.map_some, true_and, true_or]
  | false =>
      have different : ran.path.same root = false := by
        simp only [ProjectRun.inScope, List.any_cons, Bool.or_eq_false_iff] at named
        exact named.1
      rw [Document.settled_of_different different]
      have kept := ProjectRun.mem_run_outside ran_mem named
      exact .inr ⟨rfl, mem_clearDiagnostics_outside kept named⟩

private theorem mem_refresh {canonical contents : FilePath} {cursor : Location}
    (held : document ∈ (session.refresh canonical contents cursor).documents)
    (different : document.path.same canonical = false) : document ∈ session.documents := by
  obtain ⟨former, former_mem, ⟨same, rfl⟩ | ⟨-, rfl⟩⟩ := Documents.mem_update.mp held
  · have former_different : former.path.same canonical = false := different
    simp [same] at former_different
  · exact former_mem

private theorem mem_opening {addressing : Addressing} {path contents : String} {cursor : Location}
    (held : document ∈ (session.opening addressing path contents cursor).documents)
    (different : document.path.same (addressing.canonical path) = false) :
    document ∈ session.documents := by
  simp only [opening] at held
  split at held
  · exact mem_refresh held different
  · rcases List.mem_append.mp (mem_refresh held different) with held | held
    · exact held
    · obtain rfl := List.mem_singleton.mp held
      simp [Document.opened] at different

/-- A document that is not named when others are opened is as before. -/
theorem mem_openingEach {addressing : Addressing} {openings : List Opening}
    (held : document ∈ (session.openingEach addressing openings).documents)
    (unnamed :
      ProjectRun.inScope (openings.map (addressing.canonical ·.path)) document.path = false) :
    document ∈ session.documents := by
  induction openings generalizing session with
  | nil => exact held
  | cons opening rest induction =>
      simp only [List.map_cons, ProjectRun.inScope, List.any_cons, Bool.or_eq_false_iff] at unnamed
      exact mem_opening (induction held unnamed.2) unnamed.1

theorem mem_closing {remaining : Session σ} {backend : Backend ω σ} {world : ω} {path : FilePath}
    (closed : session.closing backend world path = some remaining)
    (held : document ∈ remaining.documents) : document ∈ session.documents := by
  simp only [closing] at closed
  split at closed
  · obtain rfl := Option.some.inj closed
    exact held
  · split at closed
    · simp at closed
    · obtain rfl := Option.some.inj closed
      exact (Documents.mem_erase.mp held).1

end Session
end LintBus

import LintBus.Proofs.Client.Attempt
import LintBus.Proofs.Client.Cleared

/-!
# Confined parses of projects

Whatever a handler does while it works on a project, it can only change the diagnostics of the root
and of the members: once these are cleared, the documents are those of before.  How the handler ends
decides what is reported, and nothing that it reports lies outside the project.
-/

namespace LintBus

variable {ω σ : Type}

namespace Document

variable {scope : List FilePath}

private theorem cleared_diagnosed {document : Document}
    (named : ProjectRun.inScope scope document.path = true) (diagnostics : List Diagnostic) :
    (document.diagnosed diagnostics).cleared scope = document.cleared scope := by
  have still_named : ProjectRun.inScope scope (document.diagnosed diagnostics).path = true := named
  rw [cleared, cleared, if_pos still_named, if_pos named]
  rfl

/-- Documents that are the same when a scope is cleared differ at most by the diagnostics of one in
the scope. -/
theorem cleared_eq_iff {former document : Document} :
    former.cleared scope = document.cleared scope ↔
      document = if ProjectRun.inScope scope former.path then
        former.diagnosed document.diagnostics else former := by
  constructor
  · intro same
    have path_eq : former.path = document.path := by
      simpa using congrArg Document.path same
    simp only [cleared, ← path_eq] at same
    split at same
    · next named =>
        rw [if_pos named]
        exact (congrArg (diagnosed · document.diagnostics) same).symm
    · next unnamed =>
        rw [if_neg unnamed]
        exact same.symm
  · intro changed
    split at changed
    · next named =>
        rw [changed, cleared_diagnosed named]
    · rw [changed]

private theorem settled_cleared (root : FilePath) (members : List FilePath)
    (outcome : Outcome (List FilePath)) (document : Document) :
    (document.settled root outcome).cleared (root :: members) =
      document.cleared (root :: members) := by
  unfold settled
  split
  · split
    · next same =>
        exact cleared_diagnosed (by simp [ProjectRun.inScope, same]) _
    · rfl
  · rfl

end Document

namespace Session

/-- A document in a scope is found without diagnostics when the scope is cleared. -/
theorem find?_cleared {session : Session σ} {path : FilePath} {document : Document}
    {scope : List FilePath}
    (in_scope : ProjectRun.inScope scope path = true)
    (found : session.documents.find? path = some document) :
    (clearDiagnostics scope session.documents).find? path = some (document.diagnosed []) := by
  have named : ProjectRun.inScope scope document.path = ProjectRun.inScope scope path :=
    ProjectRun.inScope_congr (Documents.find?_some found).2
  rw [find?_clearDiagnostics, found, Option.map_some, Document.cleared, named, if_pos in_scope]

/-- What a document in a scope is diagnosed with makes no difference when the scope is cleared. -/
theorem clearDiagnostics_update {scope : List FilePath} {path : FilePath}
    (named : ProjectRun.inScope scope path = true) (documents : Documents)
    (diagnostics : List Diagnostic) :
    clearDiagnostics scope (documents.update path (·.diagnosed diagnostics)) =
      clearDiagnostics scope documents := by
  rw [clearDiagnostics_eq, clearDiagnostics_eq, Documents.update, List.map_map]
  refine List.map_congr_left fun document _ => ?_
  simp only [Function.comp]
  split
  · next same =>
      exact Document.cleared_diagnosed ((ProjectRun.inScope_congr same).trans named) diagnostics
  · rfl

/-- A handler at work on a project changes nothing but diagnostics in the project: neither does a
step of it, nor does all of it. -/
theorem clearDiagnostics_run {α : Type} (scope : List FilePath) (work : ProjectRun α)
    (documents : Documents) :
    clearDiagnostics scope (work.run scope documents).1 = clearDiagnostics scope documents := by
  induction work generalizing documents with
  | finish result => rfl
  | contains path next induction => exact induction _ documents
  | look path next induction => exact induction _ documents
  | revise path diagnostics next induction =>
      rw [ProjectRun.run, induction]
      split
      · next named => exact clearDiagnostics_update named documents diagnostics
      · rfl

/-- Parsing a project changes nothing but diagnostics in the project. -/
theorem clearDiagnostics_parseAll (session : Session σ) (backend : Backend ω σ) (world : ω)
    (root : FilePath) (members : List FilePath) (options : Options) :
    clearDiagnostics (root :: members)
        (session.parseAll backend world root members options).2.1.documents =
      clearDiagnostics (root :: members) session.documents := by
  have ran := clearDiagnostics_run (root :: members)
    (backend.parseAll world session.state root members options)
    (clearDiagnostics (root :: members) session.documents)
  rw [clearDiagnostics_clearDiagnostics] at ran
  rw [parseAll_documents, ← ran, clearDiagnostics_eq, clearDiagnostics_eq, List.map_map]
  exact List.map_congr_left fun document _ => document.settled_cleared root members _

/-- The document at a path is found as it was but for its diagnostics. -/
theorem find?_parseAll (session : Session σ) (backend : Backend ω σ) (world : ω)
    (root : FilePath) (members : List FilePath) (options : Options) (path : FilePath) :
    ((session.parseAll backend world root members options).2.1.documents.find? path).map
        (Document.cleared (root :: members)) =
      (session.documents.find? path).map (Document.cleared (root :: members)) := by
  rw [← find?_clearDiagnostics, ← find?_clearDiagnostics, clearDiagnostics_parseAll]

private theorem diagnostics_settled {root : FilePath} {found : List Problem} {document : Document}
    (same : document.path.same root = true) :
    (document.settled root (.problems found)).diagnostics = found.map Problem.toDiagnostic := by
  simp [Document.settled, same, Document.diagnosed]

/-- Parsing a project neither opens nor closes documents, and of the documents it changes at most
the diagnostics of the root and of the members, however the handler of the backend comes to its end.
If it succeeds, its list is reported without the paths outside the project; if it finds problems,
the root is reported and the problems are its errors; otherwise the failure is handed on.  But for
these problems the documents are as the handler has left them. -/
theorem parseAll_confined (session : Session σ) (backend : Backend ω σ) (world : ω)
    (root : FilePath) (members : List FilePath) (options : Options) :
    let ran := session.ranAll backend world root members options
    let ended := session.parseAll backend world root members options
    let after := ended.2.1
    let inProject := ProjectRun.inScope (root :: members)
    after = { session with state := ran.2.state, documents := after.documents } ∧
    List.Forall₂
      (fun former document => document =
        if inProject former.path then former.diagnosed document.diagnostics else former)
      session.documents after.documents ∧
    match ran.2.result with
    | .done parsed => ended.1 = .ok (parsed.filter inProject) ∧ after.documents = ran.1
    | .problems found =>
        ended.1 = .ok [root] ∧
        ∀ document ∈ after.documents, document.path.same root = true →
          document.diagnostics =
            found.map fun problem => .errorAt problem.location problem.message
    | .failed failure => ended.1 = .error failure ∧ after.documents = ran.1
    | .panicked message => ended.1 = .error (.ofPanic message) ∧ after.documents = ran.1 := by
  intro ran ended after inProject
  have ran_eq : (backend.parseAll world session.state root members options).run (root :: members)
      (clearDiagnostics (root :: members) session.documents) = ran := rfl
  refine ⟨?_, ?_, ?_⟩
  · simp only [after, ended, parseAll, ran_eq]
    split
    all_goals rfl
  · have cleared_eq : session.documents.map (Document.cleared (root :: members)) =
        after.documents.map (Document.cleared (root :: members)) :=
      (session.clearDiagnostics_parseAll backend world root members options).symm
    rw [← List.forall₂_eq_eq_eq, List.forall₂_map_left_iff, List.forall₂_map_right_iff]
      at cleared_eq
    exact cleared_eq.imp fun former document same => Document.cleared_eq_iff.mp same
  · have documents_eq : after.documents = ran.1.map (Document.settled root ran.2.result) :=
      session.parseAll_documents backend world root members options
    cases outcome : ran.2.result with
    | done parsed =>
        rw [outcome] at documents_eq
        exact ⟨by simp only [ended, parseAll, ran_eq, outcome, inProject],
          documents_eq.trans (List.map_id' _)⟩
    | problems found =>
        refine ⟨by simp only [ended, parseAll, ran_eq, outcome], fun document held same => ?_⟩
        rw [documents_eq, outcome] at held
        obtain ⟨left, -, rfl⟩ := List.mem_map.mp held
        rw [Document.settled_path] at same
        exact diagnostics_settled same
    | failed failure =>
        rw [outcome] at documents_eq
        exact ⟨by simp only [ended, parseAll, ran_eq, outcome],
          documents_eq.trans (List.map_id' _)⟩
    | panicked message =>
        rw [outcome] at documents_eq
        exact ⟨by simp only [ended, parseAll, ran_eq, outcome],
          documents_eq.trans (List.map_id' _)⟩

end Session
end LintBus

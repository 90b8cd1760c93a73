import LintBus.Outcome

/-!
# Handlers at work on a project

A handler reaches the documents of a project only by asking whether a path belongs to it, by
looking at the document there and by giving it other diagnostics. Paths outside the project are
out of its reach, and documents neither come nor go.
-/

namespace LintBus

/-- A handler at work on the documents of a project. -/
inductive ProjectRun (α : Type) where
  | finish (result : α)
  | contains (path : FilePath) (next : Bool → ProjectRun α)
  | look (path : FilePath) (next : Option Document → ProjectRun α)
  | revise (path : FilePath) (diagnostics : List Diagnostic) (next : ProjectRun α)

namespace ProjectRun

/-- The path is the same as one of the paths of a project. -/
def inScope (scope : List FilePath) (path : FilePath) : Bool :=
  scope.any fun member => path.same member

/-- Let a handler work on the documents at the paths in `scope`. -/
def run {α : Type} (scope : List FilePath) : ProjectRun α → Documents → Documents × α
  | .finish result, documents => (documents, result)
  | .contains path next, documents => run scope (next (inScope scope path)) documents
  | .look path next, documents =>
      run scope (next (if inScope scope path then documents.find? path else none)) documents
  | .revise path diagnostics next, documents =>
      run scope next
        (if inScope scope path then documents.update path (·.diagnosed diagnostics)
        else documents)

end ProjectRun
end LintBus

import LintBus.Backend.Builtin
import LintBus.Backend.Scripted
import LintBus.Proofs.Document.Handle

/-!
# Backends that are blind to spellings

A document remembers how its client first spelled its path.  A blind backend does the same for a
document whatever that spelling was.  The backends that come with the service are blind, and so are
scripted ones.
-/

namespace LintBus

variable {ω σ α : Type}

/-- The document without the path as its client spelled it. -/
def Document.unspelled (document : Document) : Document := { document with spelling := "" }

namespace Document

variable (document : Document)

@[simp]
theorem unspelled_unspelled : document.unspelled.unspelled = document.unspelled := rfl

@[simp]
theorem unspelled_path : document.unspelled.path = document.path := rfl

theorem refresh_unspelled (contents : FilePath) (cursor : Location) :
    document.unspelled.refresh contents cursor = (document.refresh contents cursor).unspelled := rfl

theorem diagnosed_unspelled (diagnostics : List Diagnostic) :
    document.unspelled.diagnosed diagnostics = (document.diagnosed diagnostics).unspelled := rfl

theorem conclude_unspelled (outcome : Outcome Unit) :
    document.unspelled.conclude outcome =
      ((document.conclude outcome).1, (document.conclude outcome).2.unspelled) := by
  cases outcome with
  | done result => rfl
  | problems found => rfl
  | failed failure => rfl
  | panicked message => rfl

end Document

namespace Documents

/-- Documents without the paths as their client spelled them. -/
def unspelled (documents : Documents) : Documents := documents.map Document.unspelled

variable (documents : Documents)

@[simp]
theorem unspelled_unspelled : documents.unspelled.unspelled = documents.unspelled := by
  rw [unspelled, unspelled, List.map_map]
  rfl

theorem find?_unspelled (path : FilePath) :
    documents.unspelled.find? path = (documents.find? path).map Document.unspelled :=
  documents.find?_map Document.unspelled Document.unspelled_path path

theorem erase_unspelled (path : FilePath) :
    documents.unspelled.erase path = (documents.erase path).unspelled :=
  documents.erase_map Document.unspelled Document.unspelled_path path

theorem update_unspelled (path : FilePath) (before after : Document → Document)
    (commutes : ∀ document, after document.unspelled = (before document).unspelled) :
    documents.unspelled.update path after = (documents.update path before).unspelled :=
  documents.update_map Document.unspelled Document.unspelled_path path before after commutes

theorem exportedAt?_unspelled (object : String) :
    documents.unspelled.exportedAt? object =
      (documents.exportedAt? object).map Document.unspelled := by
  simp only [exportedAt?, unspelled, List.find?_map]
  rfl

end Documents

/-- A handler at work on a project does the same for a document however it is spelled. -/
inductive ProjectRun.Blind : ProjectRun α → Prop
  | finish (result : α) : Blind (.finish result)
  | contains (path : FilePath) (next : Bool → ProjectRun α)
      (rest : ∀ known, Blind (next known)) : Blind (.contains path next)
  | look (path : FilePath) (next : Option Document → ProjectRun α)
      (blind : ∀ document : Document, next (some document.unspelled) = next (some document))
      (rest : ∀ found, Blind (next found)) : Blind (.look path next)
  | revise (path : FilePath) (diagnostics : List Diagnostic) (next : ProjectRun α)
      (rest : Blind next) : Blind (.revise path diagnostics next)

/-- Without spellings a blind handler does the same. -/
theorem ProjectRun.Blind.run_unspelled {work : ProjectRun α} (blind : work.Blind)
    (scope : List FilePath) (documents : Documents) :
    work.run scope documents.unspelled =
      (Documents.unspelled (work.run scope documents).1, (work.run scope documents).2) := by
  induction blind generalizing documents with
  | finish result => rfl
  | contains path next rest induction => exact induction _ documents
  | look path next blind rest induction =>
      simp only [run]
      split
      · rw [Documents.find?_unspelled]
        cases documents.find? path with
        | none => exact induction none documents
        | some document =>
            rw [Option.map_some, blind]
            exact induction (some document) documents
      · exact induction none documents
  | revise path diagnostics next rest induction =>
      simp only [run]
      split
      · rw [documents.update_unspelled path (Document.diagnosed · diagnostics)
          (Document.diagnosed · diagnostics) (Document.diagnosed_unspelled · diagnostics)]
        exact induction _
      · exact induction documents

namespace Backend

/-- The handlers of a backend do the same for a document however its client has spelled it. -/
structure Blind (backend : Backend ω σ) : Prop where
  parse : ∀ world state (document : Document) options,
    backend.parse world state document.unspelled options =
      backend.parse world state document options
  parseAll : ∀ world state root members options,
    (backend.parseAll world state root members options).Blind
  dispose : ∀ dispose, backend.dispose = some dispose → ∀ world state (document : Document),
    dispose world state document.unspelled = dispose world state document

private theorem noProject_blind (world : ω) (state : σ) (root : FilePath) :
    (noProject world state root).Blind :=
  .finish _

end Backend

namespace Css

private theorem parsePaths_blind (fileText : FileText ω) (world : ω) (root : FilePath)
    (paths parsed : List FilePath) : (parsePaths fileText world root parsed paths).Blind := by
  induction paths generalizing parsed with
  | nil => exact .finish _
  | cons path rest induction =>
      rw [parsePaths]
      split
      · refine .look path _ (fun document => ?_) fun found => ?_
        · have attempt_eq : parseDocument fileText world document.unspelled =
              parseDocument fileText world document := rfl
          simp only [attempt_eq, Document.diagnosed_unspelled, Document.conclude_unspelled]
          generalize Document.conclude _ _ = attempt
          rcases attempt with ⟨failure | done, concluded⟩
          · rfl
          · rfl
        cases found with
        | none => exact induction parsed
        | some document =>
            dsimp only
            split
            · exact .revise path _ _ (induction (path :: parsed))
            · split
              · exact .revise path _ _ (.finish _)
              · exact .revise path _ _ (induction (path :: parsed))
      · exact induction parsed

private theorem backend_blind (fileText : FileText ω) : (backend fileText).Blind where
  parse _ _ _ _ := rfl
  parseAll world _ root members _ := parsePaths_blind fileText world root (root :: members) []
  dispose _ absent := by simp [backend] at absent

end Css

private theorem Json.backend_blind (fileText : ω → FilePath → Except FileError String) :
    (backend fileText).Blind where
  parse _ _ _ _ := rfl
  parseAll world state root _ _ := Backend.noProject_blind world state root
  dispose _ absent := by simp [backend] at absent

/-- The backends that come with the service are blind. -/
theorem Backend.builtin_blind (fileText : ω → FilePath → Except FileError String) :
    ∀ backend ∈ Backend.builtin fileText, backend.Blind := by
  intro backend listed
  simp only [builtin, List.mem_cons, List.not_mem_nil, or_false] at listed
  rcases listed with rfl | rfl
  · exact Css.backend_blind fileText
  · exact Json.backend_blind fileText

namespace Scripted

private theorem touchAll_blind {finish : List (FilePath × Bool × Bool) → ProjectRun α}
    (blind : ∀ looked, (finish looked).Blind) (looked : List (FilePath × Bool × Bool))
    (touches : List (FilePath × String)) : (touchAll finish looked touches).Blind := by
  induction touches generalizing looked with
  | nil => exact blind looked
  | cons touch rest induction =>
      obtain ⟨path, message⟩ := touch
      refine .contains path _ fun known => .look path _ (fun document => rfl) fun found => ?_
      cases found with
      | none => exact induction _
      | some document => exact .revise path _ _ (induction _)

theorem backend_blind (language : String) (capabilities : List Capability) :
    (backend language capabilities).Blind where
  parse _ _ _ _ := rfl
  parseAll _ _ _ _ _ := touchAll_blind (fun _ => .finish _) _ _
  dispose _ present _ _ _ := by
    obtain rfl := Option.some.inj present
    rfl

end Scripted
end LintBus

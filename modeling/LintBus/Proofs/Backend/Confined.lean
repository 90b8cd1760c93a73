import LintBus.Backend.Builtin
import LintBus.Proofs.Document.Handle

/-!
# Confined backends

A confined backend keeps what it knows in the state of each session: its handlers leave the world
as it is, and the number of the session, which they could read from the object path of a document,
makes no difference to them.  The backends that come with the service are confined.
-/

namespace LintBus

variable {ω σ α : Type}

/-- The document as it would be exported in the session with another number. -/
def Document.readdress (addressing : Addressing) (number : Nat) (document : Document) :
    Document :=
  { document with object := addressing.documentObject number document.id }

namespace Document

variable (addressing : Addressing) (number : Nat) (document : Document)

private theorem readdress_readdress (other : Nat) :
    (document.readdress addressing other).readdress addressing number =
      document.readdress addressing number := rfl

theorem diagnosed_readdress (diagnostics : List Diagnostic) :
    (document.readdress addressing number).diagnosed diagnostics =
      (document.diagnosed diagnostics).readdress addressing number := rfl

theorem refresh_readdress (contents : FilePath) (cursor : Location) :
    (document.readdress addressing number).refresh contents cursor =
      (document.refresh contents cursor).readdress addressing number := rfl

theorem conclude_readdress (outcome : Outcome Unit) :
    (document.readdress addressing number).conclude outcome =
      ((document.conclude outcome).1,
        (document.conclude outcome).2.readdress addressing number) := by
  cases outcome with
  | done result => rfl
  | problems found => rfl
  | failed failure => rfl
  | panicked message => rfl

end Document

namespace Documents

/-- Documents as they would be exported in the session with another number. -/
def readdress (addressing : Addressing) (number : Nat) (documents : Documents) : Documents :=
  documents.map (Document.readdress addressing number)

variable (addressing : Addressing) (number : Nat) (documents : Documents)

theorem find?_readdress (path : FilePath) :
    (documents.readdress addressing number).find? path =
      (documents.find? path).map (Document.readdress addressing number) :=
  documents.find?_map (Document.readdress addressing number) (fun _ => rfl) path

theorem erase_readdress (path : FilePath) :
    (documents.readdress addressing number).erase path =
      (documents.erase path).readdress addressing number :=
  documents.erase_map (Document.readdress addressing number) (fun _ => rfl) path

theorem update_readdress (path : FilePath) (change changed : Document → Document)
    (commutes : ∀ document, changed (document.readdress addressing number) =
      (change document).readdress addressing number) :
    (documents.readdress addressing number).update path changed =
      (documents.update path change).readdress addressing number :=
  documents.update_map (Document.readdress addressing number) (fun _ => rfl) path change changed
    commutes

/-- The documents are exported in the session with the number. -/
def Addressed (addressing : Addressing) (number : Nat) (documents : Documents) : Prop :=
  ∀ document ∈ documents, document.readdress addressing number = document

theorem readdress_addressed (addressing : Addressing) (number : Nat) (documents : Documents) :
    Addressed addressing number (documents.readdress addressing number) := by
  intro document found
  obtain ⟨former, -, rfl⟩ := List.mem_map.mp found
  exact former.readdress_readdress addressing number number

private theorem Addressed.update {addressing : Addressing} {number : Nat} {documents : Documents}
    (addressed : Addressed addressing number documents) (path : FilePath)
    {change : Document → Document}
    (commutes : ∀ document, change (document.readdress addressing number) =
      (change document).readdress addressing number) :
    Addressed addressing number (documents.update path change) := by
  intro document found
  obtain ⟨former, former_mem, rfl⟩ := List.mem_map.mp found
  split
  · rw [← commutes, addressed former former_mem]
  · exact addressed former former_mem

end Documents

/-- A handler at work on a project leaves the world as it is and does the same for a document
under any number of its session. -/
inductive ProjectRun.Confined (addressing : Addressing) (world : ω) :
    ProjectRun (Handled ω σ α) → Prop
  | finish (result : Handled ω σ α) (kept : result.world = world) :
      Confined addressing world (.finish result)
  | contains (path : FilePath) (next : Bool → ProjectRun (Handled ω σ α))
      (rest : ∀ known, Confined addressing world (next known)) :
      Confined addressing world (.contains path next)
  | look (path : FilePath) (next : Option Document → ProjectRun (Handled ω σ α))
      (blind : ∀ document number number',
        next (some (Document.readdress addressing number document)) =
          next (some (Document.readdress addressing number' document)))
      (rest : ∀ found, Confined addressing world (next found)) :
      Confined addressing world (.look path next)
  | revise (path : FilePath) (diagnostics : List Diagnostic)
      (next : ProjectRun (Handled ω σ α)) (rest : Confined addressing world next) :
      Confined addressing world (.revise path diagnostics next)

namespace ProjectRun.Confined

variable {addressing : Addressing} {world : ω} {work : ProjectRun (Handled ω σ α)}

theorem run_world (confined : work.Confined addressing world) (scope : List FilePath)
    (documents : Documents) : (work.run scope documents).2.world = world := by
  induction confined generalizing documents with
  | finish result kept => exact kept
  | contains path next rest induction => exact induction _ documents
  | look path next blind rest induction => exact induction _ documents
  | revise path diagnostics next rest induction => exact induction _

/-- Under another number of the session a confined handler does the same. -/
theorem run_readdress (confined : work.Confined addressing world) (scope : List FilePath)
    {documents : Documents} {number : Nat}
    (addressed : Documents.Addressed addressing number documents) (number' : Nat) :
    work.run scope (documents.readdress addressing number') =
      (Documents.readdress addressing number' (work.run scope documents).1,
        (work.run scope documents).2) := by
  induction confined generalizing documents with
  | finish result kept => rfl
  | contains path next rest induction => exact induction _ addressed
  | look path next blind rest induction =>
      simp only [run]
      split
      · rw [Documents.find?_readdress]
        cases found : documents.find? path with
        | none => exact induction none addressed
        | some document =>
            have document_mem := (Documents.find?_some found).1
            have seen := blind document number' number
            rw [addressed document document_mem] at seen
            rw [Option.map_some, seen]
            exact induction (some document) addressed
      · exact induction none addressed
  | revise path diagnostics next rest induction =>
      simp only [run]
      split
      · rw [documents.update_readdress addressing number' path _ (Document.diagnosed · diagnostics)
          fun document => document.diagnosed_readdress addressing number' diagnostics]
        exact induction (addressed.update path fun document =>
          document.diagnosed_readdress addressing number diagnostics)
      · exact induction addressed

end ProjectRun.Confined

namespace Backend

/-- The state of a backend that has been asked to release a document. -/
def stateAfterRelease (backend : Backend ω σ) (world : ω) (state : σ) (document : Document) : σ :=
  match backend.dispose with
  | none => state
  | some dispose => (dispose world state document).state

/-- The handlers of a backend leave the world as it is, and do the same for a document under any
number of its session. -/
structure Confined (addressing : Addressing) (backend : Backend ω σ) : Prop where
  parse_world : ∀ world state document options,
    (backend.parse world state document options).world = world
  parse_blind : ∀ world state document options number number',
    backend.parse world state (Document.readdress addressing number document) options =
      backend.parse world state (Document.readdress addressing number' document) options
  parseAll : ∀ world state root members options,
    (backend.parseAll world state root members options).Confined addressing world
  dispose_world : ∀ dispose, backend.dispose = some dispose → ∀ world state document,
    (dispose world state document).world = world
  dispose_blind : ∀ dispose, backend.dispose = some dispose →
    ∀ world state document number number',
      (dispose world state (Document.readdress addressing number document)).state =
        (dispose world state (Document.readdress addressing number' document)).state

theorem Confined.stateAfterRelease_readdress {addressing : Addressing} {backend : Backend ω σ}
    (confined : backend.Confined addressing) {document : Document} {number : Nat}
    (addressed : document.readdress addressing number = document) (world : ω) (state : σ)
    (number' : Nat) :
    backend.stateAfterRelease world state (document.readdress addressing number') =
      backend.stateAfterRelease world state document := by
  rw [stateAfterRelease, stateAfterRelease]
  split
  · rfl
  · next dispose present =>
      have same := confined.dispose_blind dispose present world state document number' number
      rwa [addressed] at same

private theorem noProject_confined (addressing : Addressing) (world : ω) (state : σ)
    (root : FilePath) :
    (noProject world state root).Confined addressing world :=
  .finish _ rfl

end Backend

namespace Css

private theorem parseDocument_readdress (fileText : FileText ω) (world : ω)
    (addressing : Addressing)
    (number : Nat) (document : Document) :
    parseDocument fileText world (document.readdress addressing number) =
      parseDocument fileText world document := rfl

private theorem parsePaths_confined (fileText : FileText ω) (addressing : Addressing) (world : ω)
    (root : FilePath) (paths parsed : List FilePath) :
    (parsePaths fileText world root parsed paths).Confined addressing world := by
  induction paths generalizing parsed with
  | nil => exact .finish _ rfl
  | cons path rest induction =>
      rw [parsePaths]
      split
      · refine .look path _ (fun document number number' => ?_) fun found => ?_
        · simp only [parseDocument_readdress, Document.diagnosed_readdress,
            Document.conclude_readdress]
          generalize Document.conclude _ _ = attempt
          rcases attempt with ⟨failure | done, concluded⟩
          · rfl
          · rfl
        cases found with
        | none => exact induction parsed
        | some document =>
            dsimp only
            split
            · exact .revise path _ _ (induction (path :: parsed))
            · split
              · exact .revise path _ _ (.finish _ rfl)
              · exact .revise path _ _ (induction (path :: parsed))
      · exact induction parsed

theorem backend_confined (fileText : FileText ω) (addressing : Addressing) :
    (backend fileText).Confined addressing where
  parse_world _ _ _ _ := rfl
  parse_blind _ _ _ _ _ _ := rfl
  parseAll world _ root members _ :=
    parsePaths_confined fileText addressing world root (root :: members) []
  dispose_world _ absent := by simp [backend] at absent
  dispose_blind _ absent := by simp [backend] at absent

end Css

namespace Json

private theorem backend_confined (fileText : ω → FilePath → Except FileError String)
    (addressing : Addressing) : (backend fileText).Confined addressing where
  parse_world _ _ _ _ := rfl
  parse_blind _ _ _ _ _ _ := rfl
  parseAll world state root _ _ := Backend.noProject_confined addressing world state root
  dispose_world _ absent := by simp [backend] at absent
  dispose_blind _ absent := by simp [backend] at absent

end Json

/-- The backends that come with the service are confined. -/
theorem Backend.builtin_confined (fileText : ω → FilePath → Except FileError String)
    (addressing : Addressing) :
    ∀ backend ∈ Backend.builtin fileText, backend.Confined addressing := by
  intro backend listed
  simp only [builtin, List.mem_cons, List.not_mem_nil, or_false] at listed
  rcases listed with rfl | rfl
  · exact Css.backend_confined fileText addressing
  · exact Json.backend_confined fileText addressing

end LintBus

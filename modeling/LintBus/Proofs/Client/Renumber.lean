import LintBus.Proofs.Client.Frame

/-!
# Sessions under other numbers

The number of a session only shows in the object paths of its documents: opening, parsing and
closing documents of the session with another number gives the same results, and the same session
with that number.
-/

namespace LintBus
namespace Session

variable {ω σ : Type}

/-- The session with another number. -/
def renumber (addressing : Addressing) (number : Nat) (session : Session σ) : Session σ :=
  { session with
    id := number
    documents := session.documents.readdress addressing number }

theorem Orderly.addressed {addressing : Addressing} {session : Session σ}
    (orderly : session.Orderly addressing) :
    Documents.Addressed addressing session.id session.documents := by
  intro document held
  rw [Document.readdress, ← orderly.object_eq held]

/-- A session that has found or opened a document and refreshed it. -/
def opening (session : Session σ) (addressing : Addressing) (path contents : String)
    (cursor : Location) : Session σ :=
  let canonical := addressing.canonical path
  let holder :=
    if (session.documents.find? canonical).isSome then session else session.enlist addressing path
  holder.refresh canonical (addressing.contentsPath contents) cursor

/-- What is left of a session when the document at a path is closed: nothing without documents. -/
def closing (session : Session σ) (backend : Backend ω σ) (world : ω) (path : FilePath) :
    Option (Session σ) :=
  match session.documents.find? path with
  | none => some session
  | some document =>
      let remaining := session.forget
        (backend.stateAfterRelease world session.state document) document.path
      if remaining.documents.isEmpty then none else some remaining

section Renumber

variable (addressing : Addressing) (number : Nat) (session : Session σ)

theorem opened_renumber (id : Nat) (identity : String) (state : σ) :
    (opened id identity state).renumber addressing number = opened number identity state := rfl

private theorem refresh_renumber (canonical contents : FilePath) (cursor : Location) :
    (session.renumber addressing number).refresh canonical contents cursor =
      (session.refresh canonical contents cursor).renumber addressing number := by
  have updated := session.documents.update_readdress addressing number canonical
    (·.refresh contents cursor) (·.refresh contents cursor)
    fun document => document.refresh_readdress addressing number contents cursor
  simp only [refresh, renumber, updated]

private theorem enlist_renumber (path : String) :
    (session.renumber addressing number).enlist addressing path =
      (session.enlist addressing path).renumber addressing number := by
  simp [enlist, renumber, Documents.readdress, Document.readdress, Document.opened]

private theorem forget_renumber (state : σ) (path : FilePath) :
    (session.renumber addressing number).forget state path =
      (session.forget state path).renumber addressing number := by
  simp only [forget, renumber, Documents.erase_readdress]

theorem opening_renumber (path contents : String) (cursor : Location) :
    (session.renumber addressing number).opening addressing path contents cursor =
      (session.opening addressing path contents cursor).renumber addressing number := by
  have found : ((session.renumber addressing number).documents.find?
      (addressing.canonical path)).isSome =
        (session.documents.find? (addressing.canonical path)).isSome := by
    rw [renumber, Documents.find?_readdress, Option.isSome_map]
  simp only [opening, found]
  split
  · exact refresh_renumber ..
  · rw [enlist_renumber, refresh_renumber]

end Renumber

section Confined

variable {addressing : Addressing} {backend : Backend ω σ} {session : Session σ}

theorem parse_renumber (confined : backend.Confined addressing)
    (orderly : session.Orderly addressing) (number : Nat) (world : ω) (path : FilePath)
    (options : Options) :
    (session.renumber addressing number).parse backend world path options =
      ((session.parse backend world path options).1,
        (session.parse backend world path options).2.1.renumber addressing number,
        (session.parse backend world path options).2.2) := by
  have found_eq := session.documents.find?_readdress addressing number path
  simp only [parse, renumber, found_eq]
  cases found : session.documents.find? path with
  | none => rfl
  | some document =>
      have addressed : (document.diagnosed []).readdress addressing session.id =
          document.diagnosed [] :=
        congrArg (Document.diagnosed · [])
          (orderly.addressed document (Documents.find?_some found).1)
      have same := confined.parse_blind world session.state (document.diagnosed []) options number
        session.id
      rw [addressed] at same
      have updated : ∀ replacement : Document,
          (session.documents.readdress addressing number).update path
              (fun _ => replacement.readdress addressing number) =
            Documents.readdress addressing number
              (session.documents.update path fun _ => replacement) :=
        fun replacement => session.documents.update_readdress addressing number path
          (fun _ => replacement) (fun _ => replacement.readdress addressing number) fun _ => rfl
      simp only [Option.map_some, Document.diagnosed_readdress, same, Document.conclude_readdress,
        updated]

private theorem clearDiagnostics_readdress (number : Nat) (scope : List FilePath)
    (documents : Documents) :
    clearDiagnostics scope (documents.readdress addressing number) =
      Documents.readdress addressing number (clearDiagnostics scope documents) := by
  simp only [clearDiagnostics, Documents.readdress, List.map_map]
  refine List.map_congr_left fun document _ => ?_
  by_cases member : ProjectRun.inScope scope document.path = true
  · simp [Document.readdress, Document.diagnosed, member]
  · simp [Document.readdress, member]

private theorem clearDiagnostics_addressed {number : Nat} {documents : Documents}
    (addressed : Documents.Addressed addressing number documents) (scope : List FilePath) :
    Documents.Addressed addressing number (clearDiagnostics scope documents) := by
  intro document found
  obtain ⟨former, former_mem, rfl⟩ := List.mem_map.mp found
  split
  · rw [← Document.diagnosed_readdress, addressed former former_mem]
  · exact addressed former former_mem

theorem parseAll_renumber (confined : backend.Confined addressing)
    (orderly : session.Orderly addressing) (number : Nat) (world : ω) (root : FilePath)
    (members : List FilePath) (options : Options) :
    (session.renumber addressing number).parseAll backend world root members options =
      ((session.parseAll backend world root members options).1,
        (session.parseAll backend world root members options).2.1.renumber addressing number,
        (session.parseAll backend world root members options).2.2) := by
  have ran := (confined.parseAll world session.state root members options).run_readdress
    (root :: members) (clearDiagnostics_addressed orderly.addressed (root :: members)) number
  rw [← clearDiagnostics_readdress] at ran
  simp only [parseAll, renumber, ran]
  generalize (backend.parseAll world session.state root members options).run (root :: members)
    (clearDiagnostics (root :: members) session.documents) = finished
  obtain ⟨documents, handled⟩ := finished
  cases outcome : handled.result with
  | done parsed => rfl
  | problems found =>
      have updated := documents.update_readdress addressing number root
        (·.diagnosed (found.map Problem.toDiagnostic))
        (·.diagnosed (found.map Problem.toDiagnostic)) fun document =>
          document.diagnosed_readdress addressing number (found.map Problem.toDiagnostic)
      simp only [updated]
  | failed failure => rfl
  | panicked message => rfl

theorem closing_renumber (confined : backend.Confined addressing)
    (orderly : session.Orderly addressing) (number : Nat) (world : ω) (path : FilePath) :
    (session.renumber addressing number).closing backend world path =
      (session.closing backend world path).map (renumber addressing number) := by
  cases found : session.documents.find? path with
  | none =>
      have missing : (session.renumber addressing number).documents.find? path = none := by
        rw [renumber, Documents.find?_readdress, found, Option.map_none]
      simp only [closing, found, missing, Option.map_some]
  | some document =>
      have held : (session.renumber addressing number).documents.find? path =
          some (document.readdress addressing number) := by
        rw [renumber, Documents.find?_readdress, found, Option.map_some]
      let remaining := session.forget (backend.stateAfterRelease world session.state document)
        document.path
      have remaining_eq : (session.renumber addressing number).forget
          (backend.stateAfterRelease world (session.renumber addressing number).state
            (document.readdress addressing number)) (document.readdress addressing number).path =
          remaining.renumber addressing number := by
        rw [← forget_renumber, ← confined.stateAfterRelease_readdress
          (orderly.addressed document (Documents.find?_some found).1) world session.state number]
        rfl
      have empty_eq : (remaining.renumber addressing number).documents.isEmpty =
          remaining.documents.isEmpty :=
        List.isEmpty_map
      simp only [closing, found, held, remaining_eq, empty_eq]
      split
      · rfl
      · rfl

end Confined

end Session
end LintBus

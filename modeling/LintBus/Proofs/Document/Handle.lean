import LintBus.Backend.Project
import LintBus.Outcome
import Mathlib.Data.List.Pairwise
import Mathlib.Tactic.ByContra

/-!
# Handles of documents

The handle of a document is what stays the same as long as the document is open.  Whatever a
backend does to the documents of a project leaves their handles alone, and documents with distinct
paths are found, changed and forgotten one at a time.
-/

namespace LintBus

namespace FilePath

theorem same_iff {left right : FilePath} :
    left.same right = true ↔ left.components = right.components := by
  simp [same]

@[simp]
theorem same_refl (path : FilePath) : path.same path = true := by
  simp [same]

theorem same_comm (left right : FilePath) : left.same right = right.same left := by
  rw [Bool.eq_iff_iff, same_iff, same_iff]
  exact eq_comm

theorem same_trans {first second third : FilePath} (left : first.same second = true)
    (right : second.same third = true) : first.same third = true := by
  rw [same_iff] at *
  exact left.trans right

end FilePath

/-- What stays the same of a document as long as it is open. -/
structure Handle where
  id : Nat
  path : FilePath
  spelling : String
  object : String
deriving DecidableEq

namespace Document

/-- The handle of a document. -/
def handle (document : Document) : Handle :=
  ⟨document.id, document.path, document.spelling, document.object⟩

@[simp]
theorem handle_opened (id : Nat) (path : FilePath) (spelling object : String) :
    (opened id path spelling object).handle = ⟨id, path, spelling, object⟩ := rfl

@[simp]
theorem handle_refresh (document : Document) (contents : FilePath) (cursor : Location) :
    (document.refresh contents cursor).handle = document.handle := rfl

@[simp]
theorem handle_diagnosed (document : Document) (diagnostics : List Diagnostic) :
    (document.diagnosed diagnostics).handle = document.handle := rfl

@[simp]
theorem handle_conclude (document : Document) (outcome : Outcome Unit) :
    (document.conclude outcome).2.handle = document.handle := by
  cases outcome with
  | done result => rfl
  | problems found => rfl
  | failed failure => rfl
  | panicked message => rfl

end Document

namespace Documents

/-- The handles of some documents. -/
def handles (documents : Documents) : List Handle := documents.map Document.handle

/-- No two handles have the same path. -/
def Distinct (handles : List Handle) : Prop :=
  handles.Pairwise fun left right => left.path.same right.path = false

theorem mem_handles {documents : Documents} {handle : Handle} :
    handle ∈ documents.handles ↔ ∃ document ∈ documents, document.handle = handle :=
  List.mem_map

theorem handle_mem {documents : Documents} {document : Document} (held : document ∈ documents) :
    document.handle ∈ documents.handles :=
  mem_handles.mpr ⟨document, held, rfl⟩

theorem handles_update {documents : Documents} {path : FilePath} {change : Document → Document}
    (kept : ∀ document ∈ documents, document.path.same path = true →
      (change document).handle = document.handle) :
    (documents.update path change).handles = documents.handles := by
  rw [handles, handles, update, List.map_map]
  refine List.map_congr_left fun document found => ?_
  by_cases same : document.path.same path = true
  · simpa [same] using kept document found same
  · simp [same]

theorem find?_some {documents : Documents} {path : FilePath} {document : Document}
    (found : documents.find? path = some document) :
    document ∈ documents ∧ document.path.same path = true := by
  unfold find? at found
  have same := List.find?_some found
  exact ⟨List.mem_of_find?_eq_some found, same⟩

theorem find?_congr {left right : FilePath} (same : left.same right = true)
    (documents : Documents) : documents.find? left = documents.find? right := by
  rw [FilePath.same_iff] at same
  simp only [find?, FilePath.same, same]

theorem find?_none {documents : Documents} {path : FilePath} :
    documents.find? path = none ↔
      ∀ document ∈ documents, document.path.same path = false := by
  simp [find?, List.find?_eq_none]

/-- Among documents with distinct paths a path names only one. -/
theorem eq_of_same {documents : Documents} (distinct : Distinct documents.handles)
    {left right : Document} (left_mem : left ∈ documents) (right_mem : right ∈ documents)
    (same : left.path.same right.path = true) : left = right := by
  by_contra different
  have apart : documents.Pairwise fun left right => left.path.same right.path = false :=
    List.pairwise_map.mp distinct
  have symmetric : Std.Symm fun left right : Document => left.path.same right.path = false :=
    ⟨fun left right apart => by rwa [FilePath.same_comm]⟩
  have unlike := apart.forall left_mem right_mem different
  simp [same] at unlike

theorem find?_eq_some {documents : Documents} (distinct : Distinct documents.handles)
    {document : Document} {path : FilePath} (found : document ∈ documents)
    (same : document.path.same path = true) : documents.find? path = some document := by
  cases outcome : documents.find? path with
  | none =>
      have unlike := find?_none.mp outcome document found
      simp [same] at unlike
  | some other =>
      obtain ⟨other_mem, other_same⟩ := find?_some outcome
      rw [FilePath.same_comm] at same
      rw [eq_of_same distinct other_mem found (FilePath.same_trans other_same same)]

/-- A document is changed or stays as it is. -/
theorem mem_update {documents : Documents} {path : FilePath} {change : Document → Document}
    {document : Document} :
    document ∈ documents.update path change ↔
      ∃ former ∈ documents, former.path.same path = true ∧ document = change former ∨
        former.path.same path = false ∧ document = former := by
  rw [update, List.mem_map]
  refine exists_congr fun former => and_congr_right fun _ => ?_
  by_cases same : former.path.same path = true
  · simp [same, eq_comm]
  · simp [same, eq_comm]

theorem mem_erase {documents : Documents} {path : FilePath} {document : Document} :
    document ∈ documents.erase path ↔
      document ∈ documents ∧ document.path.same path = false := by
  simp [erase]

theorem erase_congr {documents : Documents} {left right : FilePath}
    (same : left.same right = true) : documents.erase left = documents.erase right := by
  refine List.filter_congr fun document _ => ?_
  rw [FilePath.same_iff] at same
  simp [FilePath.same, same]

theorem erase_head {document : Document} {rest : Documents}
    (distinct : Distinct (handles (document :: rest))) :
    erase (document :: rest) document.path = rest := by
  have apart := (List.pairwise_cons.mp distinct).1
  rw [erase, List.filter_cons, FilePath.same_refl]
  refine List.filter_eq_self.mpr fun other found => ?_
  rw [FilePath.same_comm, Bool.not_eq_true']
  exact apart other.handle (handle_mem found)

/-- Forgetting the document at its path takes its handle away and no other. -/
theorem mem_handles_erase {documents : Documents} (distinct : Distinct documents.handles)
    {document : Document} (held : document ∈ documents) (handle : Handle) :
    handle ∈ (documents.erase document.path).handles ↔
      handle ∈ documents.handles ∧ handle ≠ document.handle := by
  simp only [mem_handles, mem_erase]
  constructor
  · rintro ⟨other, ⟨other_mem, unlike⟩, rfl⟩
    refine ⟨⟨other, other_mem, rfl⟩, fun same => ?_⟩
    have path_eq : other.path = document.path := congrArg Handle.path same
    simp [path_eq] at unlike
  · rintro ⟨⟨other, other_mem, rfl⟩, different⟩
    refine ⟨other, ⟨other_mem, ?_⟩, rfl⟩
    by_contra same
    rw [Bool.not_eq_false] at same
    exact different (congrArg Document.handle (eq_of_same distinct other_mem held same))

/-- Putting a document with the same handle in the place of the one at a path keeps all handles. -/
theorem handles_replace {documents : Documents} (distinct : Distinct documents.handles)
    {path : FilePath} {document replacement : Document}
    (found : documents.find? path = some document)
    (kept : replacement.handle = document.handle) :
    (documents.update path fun _ => replacement).handles = documents.handles := by
  refine handles_update fun other other_mem same => ?_
  have found_other := find?_eq_some distinct other_mem same
  rw [found, Option.some.injEq] at found_other
  rw [kept, found_other]

/-- Among documents with distinct paths, putting one with other diagnostics in the place of the one
at a path is to change its diagnostics. -/
theorem update_diagnosed {documents : Documents}
    (distinct : Distinct documents.handles) {path : FilePath} {document : Document}
    (found : documents.find? path = some document) (diagnostics : List Diagnostic) :
    (documents.update path fun _ => document.diagnosed diagnostics) =
      documents.update path (·.diagnosed diagnostics) := by
  refine List.map_congr_left fun other other_mem => ?_
  split
  · next same =>
      have found_other := find?_eq_some distinct other_mem same
      rw [Option.some.inj (found.symm.trans found_other)]
  · rfl

section Map

variable (change : Document → Document) (kept : ∀ document, (change document).path = document.path)
  (documents : Documents)

include kept

theorem find?_map (path : FilePath) :
    find? (documents.map change) path = (documents.find? path).map change := by
  simp only [find?, List.find?_map, Function.comp_def, kept]

theorem erase_map (path : FilePath) :
    erase (documents.map change) path = (documents.erase path).map change := by
  simp only [erase, List.filter_map, Function.comp_def, kept]

theorem update_map (path : FilePath) (before after : Document → Document)
    (commutes : ∀ document, after (change document) = change (before document)) :
    update (documents.map change) path after = (documents.update path before).map change := by
  rw [update, update, List.map_map, List.map_map]
  refine List.map_congr_left fun document _ => ?_
  simp only [Function.comp_def, kept]
  split
  · exact commutes document
  · rfl

end Map

/-- A change that keeps paths is seen at the path where it was made. -/
theorem find?_update (documents : Documents) (path named : FilePath)
    (change : Document → Document) (kept : ∀ document, (change document).path = document.path) :
    (documents.update path change).find? named =
      (documents.find? named).map fun document =>
        if named.same path then change document else document := by
  have kept_update : ∀ document : Document,
      (if document.path.same path then change document else document).path = document.path := by
    intro document
    split
    · exact kept document
    · rfl
  rw [update, documents.find?_map _ kept_update]
  cases found : documents.find? named with
  | none => rfl
  | some document =>
      have same := (find?_some found).2
      rw [FilePath.same_iff] at same
      have named_same : document.path.same path = named.same path := by
        simp only [FilePath.same, same]
      simp only [Option.map_some, named_same]

/-- A document that takes the place of another is found there. -/
theorem find?_replace {documents : Documents} {path : FilePath} {former replacement : Document}
    (found : documents.find? path = some former) (kept : replacement.path = former.path) :
    (documents.update path fun _ => replacement).find? path = some replacement := by
  have same := (find?_some found).2
  have kept_same : (fun document : Document =>
      (if document.path.same path then replacement else document).path.same path) =
        fun document => document.path.same path := by
    funext document
    split
    · next document_same => rw [kept, same, document_same]
    · rfl
  have first : List.find? (fun document => document.path.same path) documents = some former :=
    found
  rw [find?, update, List.find?_map, Function.comp_def, kept_same, first, Option.map_some,
    if_pos same]

end Documents

namespace ProjectRun

/-- A handler at work on a project leaves all handles alone. -/
theorem handles_run {α : Type} (scope : List FilePath) (work : ProjectRun α)
    (documents : Documents) :
    Documents.handles (work.run scope documents).1 = documents.handles := by
  induction work generalizing documents with
  | finish result => rfl
  | contains path next induction => exact induction _ documents
  | look path next induction => exact induction _ documents
  | revise path diagnostics next induction =>
      rw [run, induction]
      split
      · exact Documents.handles_update fun document _ _ => document.handle_diagnosed diagnostics
      · rfl

end ProjectRun
end LintBus

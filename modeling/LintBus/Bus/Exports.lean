import LintBus.Bus.Interface

/-!
# Exports

Which interfaces are exported at which object paths: a table with a row for each path at which
something is exported. Rows are in order of their paths, and the interfaces of a row in their own
order. A row is made for the first interface at a path and goes away with the last one.
-/

namespace LintBus

/-! ## Lists in order of a key -/

section

variable {α κ : Type} [DecidableEq κ] [LT κ] [DecidableLT κ]

/-- Revise the item with some key in a list in order of keys, or put a new one in its place. -/
def upsert (key : α → κ) (wanted : κ) (fresh : α) (revise : α → α) : List α → List α
  | [] => [fresh]
  | held :: rest =>
      if wanted = key held then revise held :: rest
      else if wanted < key held then fresh :: held :: rest
      else held :: upsert key wanted fresh revise rest

variable {key : α → κ} {wanted : κ} {fresh : α} {revise : α → α} {items : List α}

private theorem upsert_ne_nil : upsert key wanted fresh revise items ≠ [] := by
  fun_cases upsert key wanted fresh revise items with
  | case1 | case2 | case3 | case4 => simp

private theorem key_of_mem_upsert (fresh_key : key fresh = wanted)
    (revise_key : ∀ held, key (revise held) = key held) {item : α}
    (found : item ∈ upsert key wanted fresh revise items) :
    key item = wanted ∨ ∃ held ∈ items, key held = key item := by
  induction items with
  | nil =>
      obtain rfl := List.mem_singleton.mp found
      exact .inl fresh_key
  | cons first rest induction =>
      unfold upsert at found
      split at found
      · next same =>
        rcases List.mem_cons.mp found with rfl | found
        · exact .inl ((revise_key first).trans same.symm)
        · exact .inr ⟨item, List.mem_cons_of_mem _ found, rfl⟩
      · split at found
        · rcases List.mem_cons.mp found with rfl | found
          · exact .inl fresh_key
          · exact .inr ⟨item, found, rfl⟩
        · rcases List.mem_cons.mp found with rfl | found
          · exact .inr ⟨item, List.mem_cons_self, rfl⟩
          · rcases induction found with same | ⟨held, held_mem, same⟩
            · exact .inl same
            · exact .inr ⟨held, List.mem_cons_of_mem _ held_mem, same⟩

private theorem upsert_ordered [LE κ] [Std.IsLinearOrder κ] [Std.LawfulOrderLT κ]
    (fresh_key : key fresh = wanted) (revise_key : ∀ held, key (revise held) = key held)
    (ordered : items.Pairwise (key · < key ·)) :
    (upsert key wanted fresh revise items).Pairwise (key · < key ·) := by
  induction items with
  | nil => exact List.pairwise_singleton _ _
  | cons first rest induction =>
      have ⟨first_lt, rest_ordered⟩ := List.pairwise_cons.mp ordered
      unfold upsert
      split
      · refine List.pairwise_cons.mpr ⟨fun other found => ?_, rest_ordered⟩
        rw [revise_key]
        exact first_lt other found
      · next different =>
        split
        · next before =>
          refine List.pairwise_cons.mpr ⟨fun other found => ?_, ordered⟩
          rw [fresh_key]
          rcases List.mem_cons.mp found with rfl | found
          · exact before
          · exact Std.lt_trans before (first_lt other found)
        · next notBefore =>
          refine List.pairwise_cons.mpr ⟨fun other found => ?_, induction rest_ordered⟩
          rcases key_of_mem_upsert fresh_key revise_key found with same | ⟨held, held_mem, same⟩
          · rw [same]
            exact Std.lt_of_le_of_ne (Std.not_lt.mp notBefore) (Ne.symm different)
          · rw [← same]
            exact first_lt held held_mem

end

/-! ## Rows -/

/-- Put an interface into a list in order, unless it is there. -/
def insertInterface (interface : Interface) : List Interface → List Interface :=
  upsert Interface.rank interface.rank interface id

private theorem insertInterface_ordered {interface : Interface} {interfaces : List Interface}
    (ordered : interfaces.Pairwise (·.rank < ·.rank)) :
    (insertInterface interface interfaces).Pairwise (·.rank < ·.rank) :=
  upsert_ordered rfl (fun _ => rfl) ordered

private theorem insertInterface_ne_nil (interface : Interface) (interfaces : List Interface) :
    insertInterface interface interfaces ≠ [] :=
  upsert_ne_nil

/-- An object path at which something is exported. -/
@[ext]
structure ExportRow where
  path : String
  /-- What is exported there. -/
  interfaces : List Interface
  /-- The interfaces are in order, so none is repeated. -/
  ordered : interfaces.Pairwise (·.rank < ·.rank)
  /-- There is no row for a path without interfaces. -/
  occupied : interfaces ≠ []

namespace ExportRow

/-- The row of a path with its first interface. -/
def single (path : String) (interface : Interface) : ExportRow :=
  ⟨path, [interface], List.pairwise_singleton _ _, List.cons_ne_nil _ _⟩

/-- A row with one more interface, unless it is there. -/
def insert (interface : Interface) (row : ExportRow) : ExportRow :=
  ⟨row.path, insertInterface interface row.interfaces, insertInterface_ordered row.ordered,
    insertInterface_ne_nil interface row.interfaces⟩

@[simp]
theorem path_single (path : String) (interface : Interface) :
    (single path interface).path = path := rfl

@[simp]
theorem path_insert (interface : Interface) (row : ExportRow) :
    (row.insert interface).path = row.path := rfl

/-- A row without an interface, if there are others in it. -/
def erase? (interface : Interface) (row : ExportRow) : Option ExportRow :=
  if occupied : row.interfaces.filter (· ≠ interface) ≠ [] then
    some ⟨row.path, row.interfaces.filter (· ≠ interface), row.ordered.filter _, occupied⟩
  else none

theorem path_of_erase? {interface : Interface} {row left : ExportRow}
    (erased : row.erase? interface = some left) : left.path = row.path := by
  unfold erase? at erased
  split at erased
  · obtain rfl := Option.some.inj erased
    rfl
  · cases erased

end ExportRow

/-- Export an interface at a path, in a row of its own if there is none for the path. -/
def insertAt (path : String) (interface : Interface) : List ExportRow → List ExportRow :=
  upsert ExportRow.path path (.single path interface) (ExportRow.insert interface)

private theorem insertAt_ordered {path : String} {interface : Interface} {rows : List ExportRow}
    (ordered : rows.Pairwise (·.path < ·.path)) :
    (insertAt path interface rows).Pairwise (·.path < ·.path) :=
  upsert_ordered (ExportRow.path_single path interface) (ExportRow.path_insert interface) ordered

/-- Retract an interface at a path, together with the row of the path if nothing is left in it. -/
def eraseAt (path : String) (interface : Interface) : List ExportRow → List ExportRow
  | [] => []
  | row :: rest =>
      if path = row.path then (row.erase? interface).toList ++ rest
      else row :: eraseAt path interface rest

private theorem path_of_mem_eraseAt {path : String} {interface : Interface} {rows : List ExportRow}
    {row : ExportRow} (found : row ∈ eraseAt path interface rows) :
    ∃ held ∈ rows, held.path = row.path := by
  induction rows with
  | nil => cases found
  | cons first rest induction =>
      unfold eraseAt at found
      split at found
      · rcases List.mem_append.mp found with found | found
        · have erased := Option.mem_toList.mp found
          exact ⟨first, List.mem_cons_self, (ExportRow.path_of_erase? erased).symm⟩
        · exact ⟨row, List.mem_cons_of_mem _ found, rfl⟩
      · rcases List.mem_cons.mp found with rfl | found
        · exact ⟨row, List.mem_cons_self, rfl⟩
        · obtain ⟨held, held_mem, same⟩ := induction found
          exact ⟨held, List.mem_cons_of_mem _ held_mem, same⟩

private theorem eraseAt_ordered {path : String} {interface : Interface} {rows : List ExportRow}
    (ordered : rows.Pairwise (·.path < ·.path)) :
    (eraseAt path interface rows).Pairwise (·.path < ·.path) := by
  induction rows with
  | nil => exact .nil
  | cons first rest induction =>
      rw [List.pairwise_cons] at ordered
      unfold eraseAt
      split
      · cases erased : first.erase? interface with
        | none => exact ordered.2
        | some left =>
            refine List.pairwise_cons.mpr ⟨fun other found => ?_, ordered.2⟩
            rw [ExportRow.path_of_erase? erased]
            exact ordered.1 other found
      · refine List.pairwise_cons.mpr ⟨fun other found => ?_, induction ordered.2⟩
        obtain ⟨held, held_mem, same⟩ := path_of_mem_eraseAt found
        rw [← same]
        exact ordered.1 held held_mem

/-! ## The table -/

/-- The interfaces that are exported, by object path. -/
structure Exports where
  rows : List ExportRow
  /-- The rows are in order, so no path has two. -/
  ordered : rows.Pairwise (·.path < ·.path)

namespace Exports

/-- Nothing is exported. -/
def empty : Exports := ⟨[], .nil⟩

/-- Export an interface at a path. -/
def insert (exports : Exports) (path : String) (interface : Interface) : Exports :=
  ⟨insertAt path interface exports.rows, insertAt_ordered exports.ordered⟩

/-- Retract an interface at a path. -/
def erase (exports : Exports) (path : String) (interface : Interface) : Exports :=
  ⟨eraseAt path interface exports.rows, eraseAt_ordered exports.ordered⟩

/-- The row of a path. -/
def row? (exports : Exports) (path : String) : Option ExportRow :=
  exports.rows.find? (·.path == path)

/-- The interfaces exported at a path, in their order. -/
def interfaces (exports : Exports) (path : String) : List Interface :=
  ((exports.row? path).map (·.interfaces)).getD []

/-- The interface is exported at the path. -/
def contains (exports : Exports) (path : String) (interface : Interface) : Bool :=
  (exports.interfaces path).contains interface

/-- The exported pairs of path and interface, in their order. -/
def pairs (exports : Exports) : List (String × Interface) :=
  exports.rows.flatMap fun row => row.interfaces.map (row.path, ·)

/-- The paths at which something is exported, in their order. -/
def paths (exports : Exports) : List String := exports.rows.map (·.path)

/-- Number of paths at which something is exported. -/
def size (exports : Exports) : Nat := exports.rows.length

/-- Nothing is exported. -/
def isEmpty (exports : Exports) : Bool := exports.rows.isEmpty

end Exports
end LintBus

import LintBus.Bus.Gate
import Mathlib.Tactic.Tauto

/-!
# Exports as sets

The table of exports is known by its pairs of path and interface alone, and each operation of the
bus is described by the pairs that it adds or takes away.  Exporting interfaces together at a path
where nothing is exported either adds all of them or leaves the bus as it was.
-/

namespace LintBus

section

variable {α κ : Type} [DecidableEq κ] [LT κ] {key : α → κ} {wanted : κ} {items : List α}

private theorem find?_of_before [LE κ] [Std.IsLinearOrder κ] [Std.LawfulOrderLT κ]
    (before : ∀ item ∈ items, wanted < key item) : items.find? (key · == wanted) = none := by
  refine List.find?_eq_none.mpr fun item found => ?_
  simpa using (Std.ne_of_lt (before item found)).symm

/-- In order of keys, only one item has the key that is looked for. -/
theorem find?_of_ordered [LE κ] [Std.IsLinearOrder κ] [Std.LawfulOrderLT κ]
    (ordered : items.Pairwise (key · < key ·)) {item : α} :
    items.find? (key · == wanted) = some item ↔ item ∈ items ∧ key item = wanted := by
  induction items with
  | nil => simp
  | cons first rest induction =>
      have ⟨first_lt, rest_ordered⟩ := List.pairwise_cons.mp ordered
      by_cases found : key first = wanted
      · have elsewhere : item ∈ rest → key item ≠ wanted := fun held same =>
          Std.ne_of_lt (first_lt item held) (found.trans same.symm)
        rw [List.find?_cons_of_pos (by simpa using found), Option.some_inj, List.mem_cons]
        constructor
        · rintro rfl
          exact ⟨.inl rfl, found⟩
        · rintro ⟨rfl | held, same⟩
          · rfl
          · exact absurd same (elsewhere held)
      · have unlike : (key first == wanted) = false := by simpa using found
        rw [List.find?_cons, unlike, induction rest_ordered, List.mem_cons, or_and_right]
        refine ⟨.inr, fun held => held.resolve_left ?_⟩
        rintro ⟨rfl, same⟩
        exact found same

variable [DecidableLT κ] {fresh : α} {revise : α → α}

private theorem find?_upsert_of_ne (fresh_key : key fresh = wanted)
    (revise_key : ∀ held, key (revise held) = key held) {other : κ} (different : wanted ≠ other) :
    (upsert key wanted fresh revise items).find? (key · == other) =
      items.find? (key · == other) := by
  induction items with
  | nil => simp [upsert, fresh_key, different]
  | cons first rest induction =>
      unfold upsert
      split
      · next found => simp [revise_key, ← found, different]
      · split
        · simp [fresh_key, different]
        · rw [List.find?_cons, List.find?_cons, induction]

/-- The upsert for a key revises what is found for it. -/
theorem find?_upsert [LE κ] [Std.IsLinearOrder κ] [Std.LawfulOrderLT κ]
    (fresh_key : key fresh = wanted) (revise_key : ∀ held, key (revise held) = key held)
    (ordered : items.Pairwise (key · < key ·)) :
    (upsert key wanted fresh revise items).find? (key · == wanted) =
      some (((items.find? (key · == wanted)).map revise).getD fresh) := by
  induction items with
  | nil => simp [upsert, fresh_key]
  | cons first rest induction =>
      have ⟨first_lt, rest_ordered⟩ := List.pairwise_cons.mp ordered
      unfold upsert
      split
      · next found => simp [revise_key, ← found]
      · next different =>
        split
        · next before =>
          have after : ∀ item ∈ first :: rest, wanted < key item :=
            List.forall_mem_cons.mpr
              ⟨before, fun item held => Std.lt_trans before (first_lt item held)⟩
          rw [find?_of_before after]
          simp [fresh_key]
        · simp [induction rest_ordered, Ne.symm different]

end

private theorem eq_of_ordered_of_mem {α : Type} {Before : α → α → Prop}
    (asymm : ∀ {left right}, Before left right → ¬ Before right left)
    {left right : List α} (left_ordered : left.Pairwise Before)
    (right_ordered : right.Pairwise Before) (same : ∀ item, item ∈ left ↔ item ∈ right) :
    left = right := by
  have nodup : ∀ {items : List α}, items.Pairwise Before → items.Nodup := by
    intro items ordered
    refine ordered.imp fun before equal => ?_
    subst equal
    exact asymm before before
  have permuted : left.Perm right :=
    (List.perm_ext_iff_of_nodup (nodup left_ordered) (nodup right_ordered)).mpr same
  refine permuted.eq_of_pairwise (fun first second _ _ before after => ?_)
    left_ordered right_ordered
  exact absurd after (asymm before)

private theorem Interface.rank_injective {left right : Interface} (same : left.rank = right.rank) :
    left = right := by
  cases left <;> cases right <;> simp_all [Interface.rank]

private theorem mem_insertInterface {interface other : Interface} {interfaces : List Interface} :
    other ∈ insertInterface interface interfaces ↔ other = interface ∨ other ∈ interfaces := by
  induction interfaces with
  | nil => simp [insertInterface, upsert]
  | cons held rest induction =>
      unfold insertInterface at induction ⊢
      unfold upsert
      split
      · next same =>
        obtain rfl := Interface.rank_injective same
        simp
      · split
        · simp
        · rw [List.mem_cons, List.mem_cons, induction]
          exact or_left_comm

private theorem find?_insertAt_of_ne {path other : String} (different : path ≠ other)
    (interface : Interface) (rows : List ExportRow) :
    (insertAt path interface rows).find? (·.path == other) = rows.find? (·.path == other) := by
  unfold insertAt
  exact find?_upsert_of_ne (ExportRow.path_single path interface)
    (ExportRow.path_insert interface) different

private theorem find?_insertAt {path : String} {interface : Interface} {rows : List ExportRow}
    (ordered : rows.Pairwise (·.path < ·.path)) :
    (insertAt path interface rows).find? (·.path == path) =
      some (((rows.find? (·.path == path)).map (·.insert interface)).getD
        (.single path interface)) := by
  unfold insertAt
  exact find?_upsert (ExportRow.path_single path interface) (ExportRow.path_insert interface)
    ordered

private theorem find?_eraseAt_of_ne {path other : String} (different : path ≠ other)
    (interface : Interface) (rows : List ExportRow) :
    (eraseAt path interface rows).find? (·.path == other) = rows.find? (·.path == other) := by
  induction rows with
  | nil => rfl
  | cons row rest induction =>
      unfold eraseAt
      split
      · next found =>
        have unlike : (row.path == other) = false := by simpa [← found] using different
        cases erased : row.erase? interface with
        | none => simp [unlike]
        | some left => simp [ExportRow.path_of_erase? erased, unlike]
      · rw [List.find?_cons, List.find?_cons, induction]

/-- An erasure leaves at most a part of the row of its path. -/
theorem find?_eraseAt {path : String} {interface : Interface} {rows : List ExportRow}
    (ordered : rows.Pairwise (·.path < ·.path)) :
    (eraseAt path interface rows).find? (·.path == path) =
      (rows.find? (·.path == path)).bind (·.erase? interface) := by
  induction rows with
  | nil => rfl
  | cons row rest induction =>
      have ⟨row_lt, rest_ordered⟩ := List.pairwise_cons.mp ordered
      unfold eraseAt
      split
      · next found =>
        have same : (row.path == path) = true := by simpa using found.symm
        rw [List.find?_cons, same, Option.bind_some]
        cases erased : row.erase? interface with
        | none => exact find?_of_before fun other held => found ▸ row_lt other held
        | some left => simp [ExportRow.path_of_erase? erased, same]
      · next different =>
        have unlike : (row.path == path) = false := by simpa using Ne.symm different
        rw [List.find?_cons, List.find?_cons, unlike]
        exact induction rest_ordered

namespace Exports

theorem row?_eq_some {exports : Exports} {path : String} {row : ExportRow} :
    exports.row? path = some row ↔ row ∈ exports.rows ∧ row.path = path :=
  find?_of_ordered exports.ordered

theorem interfaces_of_mem {exports : Exports} {row : ExportRow} (held : row ∈ exports.rows) :
    exports.interfaces row.path = row.interfaces := by
  rw [interfaces, row?_eq_some.mpr ⟨held, rfl⟩]
  rfl

private theorem interfaces_insert (exports : Exports) (path : String) (interface : Interface) :
    (exports.insert path interface).interfaces path =
      insertInterface interface (exports.interfaces path) := by
  have found : (exports.insert path interface).row? path =
      some (((exports.row? path).map (·.insert interface)).getD (.single path interface)) :=
    find?_insertAt exports.ordered
  rw [interfaces, interfaces, found]
  cases exports.row? path <;> rfl

private theorem interfaces_insert_of_ne {path other : String} (different : path ≠ other)
    (exports : Exports) (interface : Interface) :
    (exports.insert path interface).interfaces other = exports.interfaces other := by
  have found : (exports.insert path interface).row? other = exports.row? other :=
    find?_insertAt_of_ne different interface exports.rows
  rw [interfaces, interfaces, found]

private theorem interfaces_erase (exports : Exports) (path : String) (interface : Interface) :
    (exports.erase path interface).interfaces path =
      (exports.interfaces path).filter (· ≠ interface) := by
  have found : (exports.erase path interface).row? path =
      (exports.row? path).bind (·.erase? interface) :=
    find?_eraseAt exports.ordered
  rw [interfaces, interfaces, found]
  cases exports.row? path with
  | none => rfl
  | some row =>
      simp only [Option.bind_some, Option.map_some, Option.getD_some, ExportRow.erase?]
      split
      · rfl
      · next vacant => simpa using (not_not.mp vacant).symm

private theorem interfaces_erase_of_ne {path other : String} (different : path ≠ other)
    (exports : Exports) (interface : Interface) :
    (exports.erase path interface).interfaces other = exports.interfaces other := by
  have found : (exports.erase path interface).row? other = exports.row? other :=
    find?_eraseAt_of_ne different interface exports.rows
  rw [interfaces, interfaces, found]

@[simp]
theorem mem_interfaces (exports : Exports) (path : String) (interface : Interface) :
    interface ∈ exports.interfaces path ↔ (path, interface) ∈ exports.pairs := by
  simp only [pairs, List.mem_flatMap, List.mem_map, Prod.mk.injEq]
  constructor
  · intro listed
    cases found : exports.row? path with
    | none => simp [interfaces, found] at listed
    | some row =>
        obtain ⟨held, same⟩ := row?_eq_some.mp found
        rw [← same, interfaces_of_mem held] at listed
        exact ⟨row, held, interface, listed, same, rfl⟩
  · rintro ⟨row, held, _, listed, rfl, rfl⟩
    rwa [interfaces_of_mem held]

theorem interfaces_ordered (exports : Exports) (path : String) :
    (exports.interfaces path).Pairwise (·.rank < ·.rank) := by
  rw [interfaces]
  cases exports.row? path with
  | none => exact .nil
  | some row => exact row.ordered

/-- The interfaces exported at a path are an ordered list with the same members. -/
theorem interfaces_eq {exports : Exports} {path : String} {listed : List Interface}
    (ordered : listed.Pairwise (·.rank < ·.rank))
    (same : ∀ interface, (path, interface) ∈ exports.pairs ↔ interface ∈ listed) :
    exports.interfaces path = listed := by
  refine eq_of_ordered_of_mem (fun before after => Nat.lt_asymm before after)
    (exports.interfaces_ordered path) ordered fun interface => ?_
  rw [mem_interfaces, same]

/-- Sets with the same pairs at a path list the same interfaces there. -/
theorem interfaces_congr {left right : Exports} {path : String}
    (same : ∀ interface, (path, interface) ∈ left.pairs ↔ (path, interface) ∈ right.pairs) :
    left.interfaces path = right.interfaces path :=
  interfaces_eq (right.interfaces_ordered path) fun interface => by
    rw [mem_interfaces, same]

@[simp]
theorem mem_empty (pair : String × Interface) : pair ∈ empty.pairs ↔ False := by
  simp [empty, pairs]

@[simp]
theorem mem_insert (exports : Exports) (path : String) (interface : Interface)
    (pair : String × Interface) :
    pair ∈ (exports.insert path interface).pairs ↔
      pair = (path, interface) ∨ pair ∈ exports.pairs := by
  obtain ⟨at_path, shown⟩ := pair
  rw [← mem_interfaces, ← mem_interfaces, Prod.mk.injEq]
  by_cases same : path = at_path
  · subst same
    rw [interfaces_insert, mem_insertInterface]
    simp
  · rw [interfaces_insert_of_ne same]
    simp [Ne.symm same]

@[simp]
theorem mem_erase (exports : Exports) (path : String) (interface : Interface)
    (pair : String × Interface) :
    pair ∈ (exports.erase path interface).pairs ↔
      pair ∈ exports.pairs ∧ pair ≠ (path, interface) := by
  obtain ⟨at_path, shown⟩ := pair
  rw [← mem_interfaces, ← mem_interfaces, ne_eq, Prod.mk.injEq]
  by_cases same : path = at_path
  · subst same
    rw [interfaces_erase]
    simp
  · rw [interfaces_erase_of_ne same]
    simp [Ne.symm same]

private theorem mem_rows {exports : Exports} {row : ExportRow} :
    row ∈ exports.rows ↔ exports.interfaces row.path = row.interfaces := by
  refine ⟨interfaces_of_mem, fun listed => ?_⟩
  cases found : exports.row? row.path with
  | none =>
      rw [interfaces, found] at listed
      exact absurd listed.symm row.occupied
  | some held =>
      obtain ⟨held_mem, same⟩ := row?_eq_some.mp found
      rw [← same, interfaces_of_mem held_mem] at listed
      rwa [← ExportRow.ext same listed]

private theorem ext_mem {left right : Exports}
    (same : ∀ pair, pair ∈ left.pairs ↔ pair ∈ right.pairs) :
    left = right := by
  have rows_eq : left.rows = right.rows := by
    refine eq_of_ordered_of_mem String.lt_asymm left.ordered
      right.ordered fun row => ?_
    rw [mem_rows, mem_rows, interfaces_congr fun interface => same (row.path, interface)]
  cases left
  cases right
  simpa using rows_eq

end Exports

namespace Bus

/-- A bus is known by its gate and by what is exported. -/
theorem ext_mem {left right : Bus} (gate_eq : left.gate = right.gate)
    (same : ∀ pair, pair ∈ left.exports.pairs ↔ pair ∈ right.exports.pairs) : left = right := by
  have exports_eq := Exports.ext_mem same
  cases left
  cases right
  simp_all

/-- Behind the same gate, one bus has some interfaces at a path besides what the other has. -/
structure Adds (after before : Bus) (path : String) (interfaces : List Interface) : Prop where
  gate_eq : after.gate = before.gate
  mem_iff : ∀ pair, pair ∈ after.exports.pairs ↔
    pair ∈ before.exports.pairs ∨ pair.1 = path ∧ pair.2 ∈ interfaces

@[simp]
theorem retractAll_gate (bus : Bus) (path : String) (interfaces : List Interface) :
    (bus.retractAll path interfaces).gate = bus.gate := by
  induction interfaces generalizing bus with
  | nil => rfl
  | cons interface rest induction => exact induction (bus.retract path interface)

@[simp]
theorem mem_retractAll (bus : Bus) (path : String) (interfaces : List Interface)
    (pair : String × Interface) :
    pair ∈ (bus.retractAll path interfaces).exports.pairs ↔
      pair ∈ bus.exports.pairs ∧ ¬ (pair.1 = path ∧ pair.2 ∈ interfaces) := by
  induction interfaces generalizing bus with
  | nil => simp [retractAll]
  | cons interface rest induction =>
      change pair ∈ ((bus.retract path interface).retractAll path rest).exports.pairs ↔ _
      rw [induction]
      simp only [retract, Exports.mem_erase, ne_eq, Prod.ext_iff, List.mem_cons]
      tauto

/-- Exporting interfaces one after the other only adds pairs at the path, and adds all of them
when no export is refused. -/
theorem exportEach_ok {bus after : Bus} {path : String} {interfaces : List Interface}
    (exported : bus.exportEach path interfaces = (.ok (), after)) :
    after.Adds bus path interfaces := by
  induction interfaces generalizing bus with
  | nil =>
      obtain rfl : bus = after := by simpa [exportEach] using exported
      exact ⟨rfl, fun pair => by simp⟩
  | cons interface rest induction =>
      simp only [exportEach, tryExport] at exported
      cases verdict : bus.gate path interface with
      | some error => simp [verdict] at exported
      | none =>
          simp only [verdict] at exported
          obtain ⟨gate_eq, members⟩ := induction exported
          refine ⟨gate_eq, fun pair => ?_⟩
          rw [members]
          simp only [Exports.mem_insert, Prod.ext_iff, List.mem_cons]
          tauto

theorem exportEach_admitted {bus after : Bus} {path : String} {interfaces : List Interface}
    (exported : bus.exportEach path interfaces = (.ok (), after)) :
    ∀ interface ∈ interfaces, bus.gate path interface = none := by
  induction interfaces generalizing bus with
  | nil => simp
  | cons interface rest induction =>
      simp only [exportEach, tryExport] at exported
      cases verdict : bus.gate path interface with
      | some error => simp [verdict] at exported
      | none =>
          simp only [verdict] at exported
          have others := induction exported
          exact List.forall_mem_cons.mpr ⟨verdict, others⟩

private theorem exportEach_of_exportAfter {bus after : Bus} {path : String}
    {done interfaces : List Interface}
    (exported : bus.exportAfter path done interfaces = (.ok (), after)) :
    bus.exportEach path interfaces = (.ok (), after) := by
  induction interfaces generalizing bus done with
  | nil => simpa [exportAfter, exportEach] using exported
  | cons interface rest induction =>
      simp only [exportAfter] at exported
      simp only [exportEach]
      cases verdict : bus.tryExport path interface with
      | error error => simp [verdict] at exported
      | ok next => exact induction (by simpa [verdict] using exported)

/-- When only the interfaces in `done` were exported at the path, a refusal clears the path. -/
private theorem exportAfter_error {bus after : Bus} {path : String}
    {done interfaces : List Interface} {error : BusError}
    (at_path : ∀ interface, (path, interface) ∈ bus.exports.pairs → interface ∈ done)
    (refused : bus.exportAfter path done interfaces = (.error error, after)) :
    after.gate = bus.gate ∧
      ∀ pair, pair ∈ after.exports.pairs ↔ pair ∈ bus.exports.pairs ∧ pair.1 ≠ path := by
  induction interfaces generalizing bus done with
  | nil => simp [exportAfter] at refused
  | cons interface rest induction =>
      simp only [exportAfter, tryExport] at refused
      cases verdict : bus.gate path interface with
      | some reason =>
          obtain ⟨-, rfl⟩ : reason = error ∧ bus.retractAll path done = after := by
            simpa [verdict] using refused
          refine ⟨bus.retractAll_gate path done, fun pair => ?_⟩
          rw [mem_retractAll]
          constructor
          · rintro ⟨held, kept⟩
            refine ⟨held, fun same => kept ⟨same, at_path pair.2 ?_⟩⟩
            simpa only [← same] using held
          · rintro ⟨held, elsewhere⟩
            exact ⟨held, fun found => elsewhere found.1⟩
      | none =>
          simp only [verdict] at refused
          have still_at_path : ∀ other,
              (path, other) ∈ (bus.exports.insert path interface).pairs →
                other ∈ done ++ [interface] := by
            intro other held
            rcases (Exports.mem_insert ..).mp held with same | held
            · obtain ⟨-, rfl⟩ := Prod.ext_iff.mp same
              simp
            · simp [at_path other held]
          obtain ⟨gate_eq, members⟩ := induction still_at_path refused
          refine ⟨gate_eq, fun pair => ?_⟩
          rw [members]
          simp only [Exports.mem_insert, Prod.ext_iff]
          tauto

/-- Interfaces are exported together completely or, at a path that was clear, not at all. -/
theorem exportTogether_cases {bus : Bus} {path : String} (interfaces : List Interface)
    (clear : ∀ interface, (path, interface) ∉ bus.exports.pairs) :
    (∃ error, bus.exportTogether path interfaces = (.error error, bus)) ∨
      ∃ after, bus.exportTogether path interfaces = (.ok (), after) ∧
        after.Adds bus path interfaces := by
  cases outcome : bus.exportTogether path interfaces with
  | mk result after =>
      cases result with
      | error error =>
          left
          obtain ⟨gate_eq, members⟩ :=
            exportAfter_error (fun interface held => absurd held (clear interface)) outcome
          have exports_eq : after.exports = bus.exports := by
            refine Exports.ext_mem fun pair => (members pair).trans ?_
            refine ⟨And.left, fun held => ⟨held, fun same => clear pair.2 ?_⟩⟩
            simpa only [← same] using held
          refine ⟨error, ?_⟩
          cases after
          cases bus
          simp_all
      | ok done =>
          right
          exact ⟨after, rfl, exportEach_ok (exportEach_of_exportAfter outcome)⟩

/-- A gate that admits everything at a path refuses nothing there. -/
theorem exportTogether_admitted {bus : Bus} {path : String}
    (admitted : ∀ interface, bus.gate path interface = none) (interfaces : List Interface) :
    ∃ after, bus.exportTogether path interfaces = (.ok (), after) := by
  have exporting : ∀ (done : List Interface) (bus : Bus),
      (∀ interface, bus.gate path interface = none) →
        ∃ after, bus.exportAfter path done interfaces = (.ok (), after) := by
    induction interfaces with
    | nil => exact fun done bus _ => ⟨bus, rfl⟩
    | cons interface rest induction =>
        intro done bus admitted
        simp only [exportAfter, tryExport, admitted]
        exact induction _ _ admitted
  exact exporting [] bus admitted

end Bus
end LintBus

import LintBus.Proofs.Bus.Exports
import LintBus.Proofs.Bus.ObjectPath
import Mathlib.Data.Set.Card

/-!
# What a history leaves exported

A bus is asked to export and to retract interfaces, over and over.  What is exported in the end is
told by the last request about each pair of path and interface that was not refused: how often it
was exported before does not count.  The paths in the table are those with an interface.
-/

namespace LintBus

namespace Exports

private theorem mem_paths {exports : Exports} {path : String} :
    path ∈ exports.paths ↔ exports.interfaces path ≠ [] := by
  rw [paths, List.mem_map]
  constructor
  · rintro ⟨row, held, rfl⟩
    rw [interfaces_of_mem held]
    exact row.occupied
  · intro occupied
    cases found : exports.row? path with
    | none => simp [interfaces, found] at occupied
    | some row => exact ⟨row, row?_eq_some.mp found⟩

private theorem paths_nodup (exports : Exports) : exports.paths.Nodup := by
  rw [paths, List.Nodup, List.pairwise_map]
  exact exports.ordered.imp fun before => Std.ne_of_lt before

private theorem encard_occupied (exports : Exports) :
    {path | exports.interfaces path ≠ []}.encard = exports.size := by
  have occupied :
      {path | exports.interfaces path ≠ []} = (exports.paths.toFinset : Set String) := by
    ext path
    simp [mem_paths]
  rw [occupied, Set.encard_coe_eq_coe_finsetCard,
    List.toFinset_card_of_nodup exports.paths_nodup, paths, List.length_map, size]

private theorem interfaces_eq_filter (exports : Exports) (path : String) {shown : Interface → Bool}
    (same : ∀ interface, interface ∈ exports.interfaces path ↔ shown interface = true) :
    exports.interfaces path = Interface.all.filter shown := by
  have all_ordered : Interface.all.Pairwise (·.rank < ·.rank) := by decide
  have mem_all : ∀ interface, interface ∈ Interface.all := by
    intro interface
    cases interface <;> decide
  refine interfaces_eq (all_ordered.filter _) fun interface => ?_
  rw [← mem_interfaces, same, List.mem_filter, and_iff_right (mem_all interface)]

end Exports

namespace Bus

/-- What a bus can be asked for. -/
inductive Request where
  /-- Export an interface at a path. -/
  | exporting (path : String) (interface : Interface)
  /-- Retract an interface at a path. -/
  | retracting (path : String) (interface : Interface)
deriving DecidableEq, Repr

/-- The path and the interface that a request is about. -/
def Request.pair : Request → String × Interface
  | .exporting path interface | .retracting path interface => (path, interface)

/-- What comes of a request, and the bus afterwards. -/
def handle (bus : Bus) : Request → Except BusError Unit × Bus
  | .exporting path interface => bus.exportEach path [interface]
  | .retracting path interface => (.ok (), bus.retract path interface)

/-- The bus after some requests. -/
def run (bus : Bus) : List Request → Bus
  | [] => bus
  | request :: rest => (bus.handle request).2.run rest

/-- Requests in their order, each with what came of it. -/
def log (bus : Bus) : List Request → List (Request × Except BusError Unit)
  | [] => []
  | request :: rest => (request, (bus.handle request).1) :: (bus.handle request).2.log rest

/-- The last request about a pair of path and interface that was not refused. -/
def lastSuccess? (pair : String × Interface) (log : List (Request × Except BusError Unit)) :
    Option Request :=
  (log.reverse.find? fun entry => entry.1.pair == pair && entry.2.isOk).map (·.1)

private theorem lastSuccess?_cons (pair : String × Interface)
    (entry : Request × Except BusError Unit)
    (rest : List (Request × Except BusError Unit)) :
    lastSuccess? pair (entry :: rest) =
      (lastSuccess? pair rest).or
        (if entry.1.pair == pair && entry.2.isOk then some entry.1 else none) := by
  rw [lastSuccess?, List.reverse_cons, List.find?_append, List.find?_singleton, lastSuccess?,
    Option.map_or, apply_ite (Option.map _)]
  rfl

private theorem handle_exporting (bus : Bus) (path : String) (interface : Interface) :
    bus.handle (.exporting path interface) =
      match bus.gate path interface with
      | some error => (.error error, bus)
      | none => (.ok (), { bus with exports := bus.exports.insert path interface }) := by
  rw [handle, exportEach, tryExport]
  cases bus.gate path interface <;> rfl

private theorem handle_gate (bus : Bus) (request : Request) :
    (bus.handle request).2.gate = bus.gate := by
  cases request with
  | exporting path interface =>
      rw [handle_exporting]
      cases bus.gate path interface <;> rfl
  | retracting path interface => rfl

private theorem mem_handle (bus : Bus) (request : Request) (path : String) (interface : Interface) :
    interface ∈ (bus.handle request).2.interfaces path ↔
      if request.pair == (path, interface) && (bus.handle request).1.isOk then
        request = .exporting path interface
      else interface ∈ bus.interfaces path := by
  cases request with
  | exporting asked_path asked =>
      rw [handle_exporting, Request.pair]
      cases verdict : bus.gate asked_path asked with
      | some error => simp [Except.isOk, Except.toBool]
      | none =>
          by_cases same : (asked_path, asked) = (path, interface)
          · obtain ⟨rfl, rfl⟩ := Prod.mk.inj same
            simp [Bus.interfaces, Except.isOk, Except.toBool]
          · simp [Bus.interfaces, same, Ne.symm same]
  | retracting asked_path asked =>
      by_cases same : (asked_path, asked) = (path, interface)
      · obtain ⟨rfl, rfl⟩ := Prod.mk.inj same
        simp [handle, retract, Bus.interfaces, Request.pair, Except.isOk, Except.toBool]
      · simp [handle, retract, Bus.interfaces, Request.pair, same, Ne.symm same]

/-- Behind the gate for object paths, an export is carried out exactly at these, and a refused one
leaves the bus as it was. -/
theorem handle_objectPaths {bus : Bus} (gate_eq : bus.gate = .objectPaths) (path : String)
    (interface : Interface) :
    ((bus.handle (.exporting path interface)).1 = .ok () ↔ ObjectPath.InGrammar path.toList) ∧
      (¬ ObjectPath.InGrammar path.toList → bus.handle (.exporting path interface) =
        (.error (.refused path interface.name "invalid object path"), bus)) := by
  rw [handle_exporting, gate_eq, Gate.objectPaths, ← ObjectPath.isValid_iff]
  cases ObjectPath.isValid path <;> simp

private theorem run_gate (bus : Bus) (requests : List Request) :
    (bus.run requests).gate = bus.gate := by
  induction requests generalizing bus with
  | nil => rfl
  | cons request rest induction => rw [run, induction, handle_gate]

private theorem mem_run (bus : Bus) (requests : List Request) (path : String)
    (interface : Interface) :
    interface ∈ (bus.run requests).interfaces path ↔
      match lastSuccess? (path, interface) (bus.log requests) with
      | some request => request = .exporting path interface
      | none => interface ∈ bus.interfaces path := by
  induction requests generalizing bus with
  | nil => rfl
  | cons request rest induction =>
      rw [run, induction, log, lastSuccess?_cons]
      cases lastSuccess? (path, interface) ((bus.handle request).2.log rest) with
      | some later => rfl
      | none =>
          simp only [Option.none_or]
          rw [mem_handle]
          cases request.pair == (path, interface) && (bus.handle request).1.isOk <;> rfl

/-- A bus on which nothing was exported admits an export exactly at an object path and is left as it
was by one that it refuses.  After any requests, the interfaces at a path are those for which the
last request that was not refused is an export, and the paths in the table are those with
interfaces. -/
theorem run_last_success (requests : List Request) :
    let bus := Bus.empty.run requests
    (∀ path interface,
      ((bus.handle (.exporting path interface)).1 = .ok () ↔
        ObjectPath.InGrammar path.toList) ∧
      (¬ ObjectPath.InGrammar path.toList → bus.handle (.exporting path interface) =
        (.error (.refused path interface.name "invalid object path"), bus))) ∧
    (∀ path, bus.interfaces path = Interface.all.filter fun interface =>
      lastSuccess? (path, interface) (Bus.empty.log requests) =
        some (.exporting path interface)) ∧
    (∀ path, path ∈ bus.exports.paths ↔ bus.interfaces path ≠ []) ∧
    {path | bus.interfaces path ≠ []}.encard = bus.exports.size := by
  intro bus
  have gate_eq : bus.gate = .objectPaths := run_gate Bus.empty requests
  refine ⟨handle_objectPaths gate_eq, fun path => ?_, fun path => Exports.mem_paths,
    bus.exports.encard_occupied⟩
  refine bus.exports.interfaces_eq_filter path fun interface => ?_
  have settled := mem_run Bus.empty requests path interface
  rw [decide_eq_true_iff]
  refine settled.trans ?_
  cases lastSuccess? (path, interface) (Bus.empty.log requests) with
  | some request => exact Option.some_inj.symm
  | none =>
      have absent : interface ∉ Bus.empty.interfaces path := List.not_mem_nil
      simpa using absent

/-- One retraction is enough after two exports, and one that is refused counts for nothing. -/
example : (Bus.empty.run [.exporting "/a/b" .diagnostics, .exporting "/a/b" .document,
    .exporting "/a/b" .diagnostics, .exporting "a/" .service,
    .retracting "/a/b" .diagnostics]).exports.pairs = [("/a/b", .document)] := by decide

end Bus
end LintBus

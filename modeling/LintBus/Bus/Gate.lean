import LintBus.Bus.Exports
import LintBus.Bus.ObjectPath

/-!
# The bus

A bus is a set of exports behind a gate that may refuse one. A refused export leaves the set as it
is; what is exported can always be retracted.
-/

namespace LintBus

/-- A failure of the bus. -/
inductive BusError where
  | refused (path interface reason : String)
  | io (message : String)
deriving DecidableEq, Repr

/-- The text of a failure of the bus. -/
def BusError.message : BusError → String
  | .refused path interface reason => s!"failed to export `{interface}` at `{path}`: {reason}"
  | .io message => message

/-- Whether an interface may be exported at a path; the reason if not. -/
def Gate := String → Interface → Option BusError

namespace Gate

/-- Only object paths are admitted. -/
def objectPaths : Gate := fun path interface =>
  if ObjectPath.isValid path then none
  else some (.refused path interface.name "invalid object path")

end Gate

/-- A set of exports and the gate in front of it. -/
structure Bus where
  exports : Exports
  gate : Gate

namespace Bus

/-- A bus with nothing exported and a gate that admits object paths. -/
def empty : Bus := ⟨.empty, .objectPaths⟩

/-- Export an interface at a path, if the gate admits it. -/
def tryExport (bus : Bus) (path : String) (interface : Interface) : Except BusError Bus :=
  match bus.gate path interface with
  | some error => .error error
  | none => .ok { bus with exports := bus.exports.insert path interface }

/-- Retract an interface at a path. -/
def retract (bus : Bus) (path : String) (interface : Interface) : Bus :=
  { bus with exports := bus.exports.erase path interface }

/-- Retract some interfaces at a path. -/
def retractAll (bus : Bus) (path : String) (interfaces : List Interface) : Bus :=
  interfaces.foldl (fun bus interface => bus.retract path interface) bus

/-- The interfaces exported at a path. -/
def interfaces (bus : Bus) (path : String) : List Interface := bus.exports.interfaces path

/-- Export interfaces at a path one after the other, up to the first that is refused. -/
def exportEach (bus : Bus) (path : String) : List Interface → Except BusError Unit × Bus
  | [] => (.ok (), bus)
  | interface :: rest =>
      match bus.tryExport path interface with
      | .error error => (.error error, bus)
      | .ok bus => bus.exportEach path rest

/-- Export interfaces at a path after those in `done`; when one is refused, all of them are
retracted. -/
def exportAfter (bus : Bus) (path : String) (done : List Interface) :
    List Interface → Except BusError Unit × Bus
  | [] => (.ok (), bus)
  | interface :: rest =>
      match bus.tryExport path interface with
      | .error error => (.error error, bus.retractAll path done)
      | .ok bus => bus.exportAfter path (done ++ [interface]) rest

/-- Export some interfaces at a path, all or none. -/
def exportTogether (bus : Bus) (path : String) (interfaces : List Interface) :
    Except BusError Unit × Bus :=
  bus.exportAfter path [] interfaces

end Bus
end LintBus

/-!
# Owners of bus names

The bus announces whenever a name changes hands. A client that disconnects shows as its unique
name losing its owner.
-/

namespace LintBus

/-- A change of the owner of a bus name. -/
structure OwnerChange where
  name : String
  oldOwner : String
  newOwner : String
deriving DecidableEq, Repr

namespace OwnerChange

/-- The unique name of a client has gone away. -/
def departure (name : String) : OwnerChange := ⟨name, name, ""⟩

/-- The owner that a name has lost, if nobody took the name over. -/
def departed? (change : OwnerChange) : Option String :=
  if change.newOwner.isEmpty && !change.oldOwner.isEmpty then some change.oldOwner else none

end OwnerChange
end LintBus

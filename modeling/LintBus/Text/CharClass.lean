/-!
# Classes of characters

A class of characters is given by the code points at which membership changes, in increasing
order. Membership is a parity count, so a table of a few hundred numbers describes a property of
all code points.
-/

namespace LintBus

/-- A set of characters, as the code points where membership switches on or off. -/
structure CharClass where
  /-- Code points at which membership changes, in increasing order; the first one switches on. -/
  switches : List Nat

namespace CharClass

/-- Count the switches up to `code` modulo two, starting from `inside`. -/
def insideAt (code : Nat) : List Nat → Bool → Bool
  | [], inside => inside
  | switch :: rest, inside => if switch ≤ code then insideAt code rest (!inside) else inside

/-- The character belongs to the class. -/
def contains (charClass : CharClass) (character : Char) : Bool :=
  insideAt character.toNat charClass.switches false

end CharClass
end LintBus

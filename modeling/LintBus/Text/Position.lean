/-!
# Places in a text

Lines and columns count from one. A column counts characters; a line ends at a line feed, or at a
carriage return followed by a line feed. A carriage return alone is a character of its line.
-/

namespace LintBus

/-- A line and a column, both counted from one. -/
structure Position where
  /-- One more than the number of line ends before the place. -/
  line : Nat
  /-- One more than the number of characters of the line before the place. -/
  column : Nat
deriving DecidableEq, Repr

namespace Position

/-- The first place of every text. -/
def start : Position := ⟨1, 1⟩

/-- The place reached from `position` by reading `consumed`. -/
def advance (position : Position) : List Char → Position
  | [] => position
  | '\r' :: '\n' :: rest => advance ⟨position.line + 1, 1⟩ rest
  | '\n' :: rest => advance ⟨position.line + 1, 1⟩ rest
  | _ :: rest => advance ⟨position.line, position.column + 1⟩ rest

/-- The place of the character at index `offset` of `text`; only the text before it counts. -/
def ofOffset (text : List Char) (offset : Nat) : Position :=
  start.advance (text.take offset)

end Position

end LintBus

/-!
# Pieces of a text

A text is cut at each occurrence of a mark: paths at their slashes, names at their dots, and lines
at their ends. Joining the pieces with the mark between them gives the text back. A text may also be
cut off before the last occurrence of some words.
-/

namespace LintBus

/-- Cut a text at each occurrence of `mark`; a text without it is a single piece. -/
def piecesAt {α : Type} [DecidableEq α] (mark : α) : List α → List (List α)
  | [] => [[]]
  | unit :: rest =>
      if unit = mark then [] :: piecesAt mark rest
      else
        match piecesAt mark rest with
        | [] => [[unit]]
        | first :: others => (unit :: first) :: others

/-- What stands before the last occurrence of `words` in a text, if they occur. -/
def beforeLast? {α : Type} [DecidableEq α] (words : List α) : List α → Option (List α)
  | [] => if words = [] then some [] else none
  | unit :: rest =>
      match beforeLast? words rest with
      | some before => some (unit :: before)
      | none => if words.isPrefixOf (unit :: rest) then some [] else none

end LintBus

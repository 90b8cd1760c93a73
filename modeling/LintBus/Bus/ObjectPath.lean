import LintBus.Text.Pieces

/-!
# Object paths

An object path is a slash, or a row of elements with a slash before each. Elements are not empty
and hold ASCII letters, digits and underscores.
-/

namespace LintBus
namespace ObjectPath

/-- A character of an element. -/
def isElementChar (character : Char) : Bool :=
  character.isAlphanum || character == '_'

/-- A non-empty run of element characters. -/
def isElement (element : List Char) : Bool :=
  !element.isEmpty && element.all isElementChar

/-- The text is an object path. -/
def isValid (path : String) : Bool :=
  match path.toList with
  | [] => false
  | '/' :: rest => rest.isEmpty || (piecesAt '/' rest).all isElement
  | _ => false

end ObjectPath
end LintBus

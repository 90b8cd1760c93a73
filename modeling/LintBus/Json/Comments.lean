/-!
# Comments in JSON texts

Line comments and block comments are replaced by blanks, character by character, so that every
place in the text keeps its line and column. What looks like a comment inside a string is left
alone. A block comment that is never closed reaches to the end of the text.
-/

namespace LintBus
namespace Json

/-- What surrounds the next character. -/
inductive Context where
  /-- Neither string nor comment. -/
  | outside
  /-- A string. -/
  | string
  /-- A comment that ends with its line. -/
  | lineComment
  /-- A comment that ends with a star and a slash; the star has just been read or not. -/
  | blockComment (star : Bool)
deriving DecidableEq, Repr

/-- The blank that stands for a character of a comment: line feeds stay. -/
def blankFor (character : Char) : Char :=
  if character = '\n' then '\n' else ' '

/-- Replace comments by blanks in a text that goes on from a context. -/
def blankFrom : Context → List Char → List Char
  | _, [] => []
  | .string, '\\' :: escaped :: rest => '\\' :: escaped :: blankFrom .string rest
  | .string, '"' :: rest => '"' :: blankFrom .outside rest
  | .string, character :: rest => character :: blankFrom .string rest
  | .outside, '"' :: rest => '"' :: blankFrom .string rest
  | .outside, '/' :: '/' :: rest => ' ' :: ' ' :: blankFrom .lineComment rest
  | .outside, '/' :: '*' :: rest => ' ' :: ' ' :: blankFrom (.blockComment false) rest
  | .outside, character :: rest => character :: blankFrom .outside rest
  | .lineComment, character :: rest =>
      if character = '\n' then '\n' :: blankFrom .outside rest
      else ' ' :: blankFrom .lineComment rest
  | .blockComment star, character :: rest =>
      blankFor character ::
        blankFrom
          (if star && character == '/' then .outside else .blockComment (character == '*')) rest

/-- Replace the comments of a text by blanks. -/
def blankOutComments (source : String) : String :=
  String.ofList (blankFrom .outside source.toList)

end Json
end LintBus

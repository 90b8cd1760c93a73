import LintBus.Diagnostic
import LintBus.Json.Comments
import LintBus.Json.Reader
import LintBus.Text.Pieces

/-!
# Checking JSON texts

A text that is no JSON value has one problem. The reader places it by bytes; the column of the
problem counts the characters of the line that start before that byte, and its message is what the
reader says without the place.
-/

namespace LintBus
namespace Json

/-- Number of characters that start before byte `offset` of a line. -/
def charactersBefore : List Char → Nat → Nat
  | [], _ => 0
  | character :: rest, offset =>
      if offset = 0 then 0 else 1 + charactersBefore rest (offset - character.utf8Size)

/-- The column of a byte column of a line, in characters; lines beyond the text keep the bytes. -/
def characterColumn (text : List Char) (line byteColumn : Nat) : Nat :=
  match (piecesAt '\n' text)[line - 1]? with
  | none => byteColumn
  | some line => charactersBefore line byteColumn

/-- The text of an error without its place; a text that names no place stays as it is. -/
def withoutPlace (message : String) : String :=
  match beforeLast? " at line ".toList message.toList with
  | none => message
  | some before => String.ofList before

/-- The problem that a reader's error stands for in the text that was read. -/
def ReadError.toProblem (error : ReadError) (source : String) : Problem :=
  let (line, byteColumn) := linePlace source.toList error.offset
  ⟨.ofPosition ⟨line, characterColumn source.toList line byteColumn⟩,
    withoutPlace (error.located source)⟩

/-- Check that a text holds one JSON value; its problem if it does not. -/
def check (source : String) : Except Problem Unit :=
  match read source with
  | .ok _ => .ok ()
  | .error error => .error (error.toProblem source)

end Json
end LintBus

import LintBus.Bus.Interface
import LintBus.File.Path

/-!
# Addresses of documents

All object paths of a service lie below the one named for its language: the service itself, a
placeholder that shows the interfaces of documents before one is open, and every document under
the number of its session and its own. Paths of clients are resolved against one base directory.
-/

namespace LintBus

/-- How the documents of a service are named and exported. -/
structure Addressing where
  language : String
  /-- Interfaces exported at every document. -/
  interfaces : List Interface
  /-- Directory against which relative paths of clients are resolved. -/
  baseDirectory : FilePath

namespace Addressing

/-- Object path of the service. -/
def serviceObject (addressing : Addressing) : String :=
  objectRoot ++ "/" ++ addressing.language

/-- Object path of the placeholder. -/
def placeholderObject (addressing : Addressing) : String :=
  addressing.serviceObject ++ "/document"

/-- Object path of a document of a session. -/
def documentObject (addressing : Addressing) (session document : Nat) : String :=
  s!"{addressing.serviceObject}/{session}/documents/{document}"

/-- The canonical form of a path of a client. -/
def canonical (addressing : Addressing) (path : String) : FilePath :=
  FilePath.canonical path addressing.baseDirectory

/-- The place of the contents that a call names; none stays none. -/
def contentsPath (addressing : Addressing) (contents : String) : FilePath :=
  if contents.isEmpty then ⟨""⟩ else addressing.canonical contents

end Addressing
end LintBus

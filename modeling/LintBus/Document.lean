import LintBus.Diagnostic
import LintBus.File.Path

/-!
# Documents

An open document has a canonical path, which is its key among the documents of its client, and an
object path, at which it is exported. Each parse brings the place where its contents live and the
client's cursor, and leaves diagnostics.
-/

namespace LintBus

/-- An open document of a client. -/
structure Document where
  /-- Number of the document within its session. -/
  id : Nat
  /-- Canonical path. -/
  path : FilePath
  /-- The path as the client first spelled it. -/
  spelling : String
  /-- Where the contents live; a client with unsaved edits keeps them elsewhere. -/
  contents : FilePath
  /-- The client's cursor. -/
  cursor : Location
  /-- What the last parse had to say. -/
  diagnostics : List Diagnostic
  /-- Object path at which the document is exported. -/
  object : String
deriving DecidableEq

namespace Document

/-- A document that has not been parsed. -/
def opened (id : Nat) (path : FilePath) (spelling object : String) : Document :=
  { id := id
    path := path
    spelling := spelling
    contents := path
    cursor := .origin
    diagnostics := []
    object := object }

/-- Take over what a call says about a document. Without a path for the contents they are in the
file itself. -/
def refresh (document : Document) (contents : FilePath) (cursor : Location) : Document :=
  { document with
    contents := if contents.text.isEmpty then document.path else contents
    cursor := cursor }

/-- Replace the diagnostics. -/
def diagnosed (document : Document) (diagnostics : List Diagnostic) : Document :=
  { document with diagnostics := diagnostics }

end Document

/-- Open documents in the order in which they were opened. -/
abbrev Documents := List Document

namespace Documents

/-- The document at a path. -/
def find? (documents : Documents) (path : FilePath) : Option Document :=
  List.find? (fun document => document.path.same path) documents

/-- Change the document at a path. -/
def update (documents : Documents) (path : FilePath) (change : Document → Document) : Documents :=
  documents.map fun document => if document.path.same path then change document else document

/-- Forget the document at a path. -/
def erase (documents : Documents) (path : FilePath) : Documents :=
  documents.filter fun document => !document.path.same path

/-- The document that is exported at an object path. -/
def exportedAt? (documents : Documents) (object : String) : Option Document :=
  List.find? (fun document => document.object == object) documents

end Documents
end LintBus

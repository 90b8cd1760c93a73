/-!
# Interfaces and capabilities

Objects on the bus offer interfaces. Which of them a service offers follows from the capabilities
that its backend declares; an interface that is not offered is never exported.
-/

namespace LintBus

/-- Name under which all interfaces and errors of the service stand. -/
def busName : String := "org.gnome.CodeAssist.v1"

/-- Object path below which all objects of the service stand. -/
def objectRoot : String := "/org/gnome/CodeAssist/v1"

/-- The interfaces that an object can offer. -/
inductive Interface where
  | service
  | project
  | document
  | diagnostics
deriving DecidableEq, Repr

namespace Interface

/-- All interfaces in their order. -/
def all : List Interface := [.service, .project, .document, .diagnostics]

/-- The place of an interface in their order. -/
def rank : Interface → Nat
  | .service => 0
  | .project => 1
  | .document => 2
  | .diagnostics => 3

/-- The last word of an interface's name. -/
def shortName : Interface → String
  | .service => "Service"
  | .project => "Project"
  | .document => "Document"
  | .diagnostics => "Diagnostics"

/-- The full name of an interface. -/
def name (interface : Interface) : String :=
  busName ++ "." ++ interface.shortName

/-- The interface with a full name. -/
def ofName? (name : String) : Option Interface :=
  all.find? fun interface => interface.name == name

end Interface

/-- What a backend can do beyond parsing a document. -/
inductive Capability where
  /-- Its documents carry diagnostics. -/
  | diagnostics
  /-- It parses some documents together as one project. -/
  | project
deriving DecidableEq, Repr

/-- The interfaces that a service exports. -/
structure Offer where
  /-- At the path of the service. -/
  service : List Interface
  /-- At the path of every document. -/
  document : List Interface
deriving DecidableEq, Repr

namespace Offer

/-- The interfaces for some capabilities. The results of a project are read as diagnostics, so
projects are only offered together with them. -/
def ofCapabilities (capabilities : List Capability) : Offer :=
  let diagnostics := capabilities.contains .diagnostics
  let project := capabilities.contains .project && diagnostics
  { service := .service :: if project then [.project] else []
    document := .document :: if diagnostics then [.diagnostics] else [] }

/-- The interface is exported at some path. -/
def supports (offer : Offer) (interface : Interface) : Bool :=
  offer.service.contains interface || offer.document.contains interface

end Offer
end LintBus

import LintBus.Backend.Project
import LintBus.Document.Addressing
import LintBus.Json.Value

/-!
# Backends

A backend parses documents of one language. Each session has a backend state of its own; what lies
outside all sessions, such as files, is a world that handlers may read and change. What a handler
did before it failed or panicked stays done.
-/

namespace LintBus

/-- Options of a call, as the client gave them. -/
abbrev Options := Json.Entries

/-- What a handler leaves behind. -/
structure Handled (ω σ α : Type) where
  world : ω
  state : σ
  result : α

/-- What a parse leaves in a document, and how it ended. -/
structure Attempt where
  diagnostics : List Diagnostic
  outcome : Outcome Unit

/-- A backend over worlds `ω`, with a state `σ` for each session. -/
structure Backend (ω σ : Type) where
  /-- The name of the language. -/
  language : String
  /-- What it declares to do. -/
  capabilities : List Capability
  /-- The state of a new session. -/
  create : σ
  /-- Parse a document, whose diagnostics were cleared. -/
  parse : ω → σ → Document → Options → Handled ω σ Attempt
  /-- Parse a project: its root and its members, in the order of the call. -/
  parseAll :
    ω → σ → FilePath → List FilePath → Options → ProjectRun (Handled ω σ (Outcome (List FilePath)))
  /-- Release what the backend holds for a document that goes away, if it holds anything. -/
  dispose : Option (ω → σ → Document → Handled ω σ (Outcome Unit))

namespace Backend

variable {ω σ : Type}

/-- What a backend without projects does when it is asked to parse one. -/
def noProject (world : ω) (state : σ) (root : FilePath) :
    ProjectRun (Handled ω σ (Outcome (List FilePath))) :=
  .finish ⟨world, state, .failed
    (.raised "backend" "NotSupported" s!"project parsing is not supported for {root.text}")⟩

/-- The interfaces that follow from what a backend declares. -/
def offer (backend : Backend ω σ) : Offer := .ofCapabilities backend.capabilities

/-- How the documents of a service for a backend are named and exported. -/
def addressing (backend : Backend ω σ) (baseDirectory : FilePath) : Addressing :=
  ⟨backend.language, backend.offer.document, baseDirectory⟩

end Backend
end LintBus

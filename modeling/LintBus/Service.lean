import LintBus.Backend
import LintBus.Bus.Gate

/-!
# Services

A service runs one backend and exports its documents. It starts by exporting its own object and a
placeholder, so that clients can look at the interfaces of documents before one is open.
-/

namespace LintBus

/-- A backend and how its documents are named and exported. -/
structure Service (ω σ : Type) where
  backend : Backend ω σ
  addressing : Addressing

namespace Service

variable {ω σ : Type}

/-- The service for a backend. -/
def ofBackend (backend : Backend ω σ) (baseDirectory : FilePath) : Service ω σ :=
  ⟨backend, backend.addressing baseDirectory⟩

/-- Export the object of a service and the placeholder. What was exported before a refusal stays
so. -/
def start (service : Service ω σ) (bus : Bus) : Except BusError Unit × Bus :=
  match bus.exportEach service.addressing.serviceObject service.backend.offer.service with
  | (.error error, bus) => (.error error, bus)
  | (.ok (), bus) =>
      bus.exportEach service.addressing.placeholderObject service.backend.offer.document

end Service
end LintBus

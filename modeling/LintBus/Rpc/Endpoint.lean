import LintBus.Rpc.Connection

/-!
# Endpoints

An endpoint accepts connections and gives each a name of its own, counting from one. Its roster
holds the sessions of the clients that are connected.
-/

namespace LintBus

/-- A roster and the connections that lead to it. -/
structure Endpoint (ω σ : Type) where
  roster : Roster ω σ
  /-- Number of the next connection. -/
  nextName : Nat
  /-- Names of the open connections in the order in which they were accepted. -/
  names : List String

namespace Endpoint

variable {ω σ : Type}

/-- An endpoint without connections. -/
def opened (roster : Roster ω σ) : Endpoint ω σ := ⟨roster, 1, []⟩

/-- The name of a connection with a given number. -/
def nameOf (number : Nat) : String := s!":1.{number}"

/-- Accept a connection; the result is its name. -/
def accept (endpoint : Endpoint ω σ) : String × Endpoint ω σ :=
  let name := nameOf endpoint.nextName
  (name,
    { endpoint with
      nextName := endpoint.nextName + 1
      names := endpoint.names ++ [name] })

/-- Accept a connection that is closed at once without a word. -/
def acceptProbe (endpoint : Endpoint ω σ) : Endpoint ω σ :=
  { endpoint with nextName := endpoint.nextName + 1 }

/-- Forget a connection whose end has been handled. -/
def drop (endpoint : Endpoint ω σ) (name : String) : Endpoint ω σ :=
  { endpoint with names := endpoint.names.filter (· != name) }

/-- Handle bytes of a client up to a line feed; tell whether the connection is still open. -/
def receive (service : Service ω σ) (endpoint : Endpoint ω σ) (name : String)
    (bytes : List UInt8) : List Rpc.Response × Bool × Endpoint ω σ :=
  let (responses, isOpen, roster) :=
    Connection.handleLines service name (piecesAt 10 bytes) endpoint.roster
  let endpoint := { endpoint with roster := roster }
  (responses, isOpen, if isOpen then endpoint else endpoint.drop name)

/-- Handle the end of a connection. -/
def hangUp (service : Service ω σ) (endpoint : Endpoint ω σ) (name : String) : Endpoint ω σ :=
  { endpoint.drop name with
    roster := (endpoint.roster.ownerChanged service (.departure name)).2 }

/-- End all connections. -/
def shutDown (service : Service ω σ) (endpoint : Endpoint ω σ) : Endpoint ω σ :=
  endpoint.names.foldl (hangUp service) endpoint

end Endpoint
end LintBus

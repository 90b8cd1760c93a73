import LintBus.Rpc.Endpoint

/-!
# Traffic

Many clients talk to a service at the same time. A connection reads a line, has it answered and
reads the next one. Calls wait in a queue that all connections share, the end of a connection is
announced through the same queue, and the service works it off in order. Who comes next is open:
a run of the traffic is any row of acts of the connections, the service and its surroundings, and
an act at the wrong moment does nothing.
-/

namespace LintBus

/-- What a connection is doing. -/
inductive Phase where
  /-- It waits for a line. -/
  | listening
  /-- It waits for the reply to its call, which will go out under an identifier. -/
  | waiting (id : Rpc.Id)
  /-- It writes a response. -/
  | speaking (response : Rpc.Response)
  /-- It has ended. -/
  | closed

/-- A connection that waits when the service stops is told so. -/
def Phase.forsaken : Phase → Phase
  | .waiting id => .speaking (Connection.answer id (.error .serviceGone))
  | phase => phase

/-- An event in the queue. -/
structure Posted where
  /-- The connection that it comes from and that is waiting for the reply, if there is to be one. -/
  origin : String
  event : Event

/-- What can be seen of a connection. -/
inductive Deed where
  | accepted (name : String)
  /-- It has read a line. -/
  | heard (name line : String)
  /-- It has put an event into the queue. -/
  | posted (name : String) (event : Event)
  /-- It has written a response. -/
  | wrote (name : String) (response : Rpc.Response)
  /-- It could not write a response. -/
  | lost (name : String) (response : Rpc.Response)

/-- The connection whose deed it is. -/
def Deed.name : Deed → String
  | .accepted name | .heard name _ | .posted name _ | .wrote name _ | .lost name _ => name

/-- What can happen next. -/
inductive Act (ω : Type) where
  /-- A client connects. -/
  | accept
  /-- A connection reads a line. -/
  | hear (name line : String)
  /-- The service handles the first event of the queue. -/
  | serve
  /-- A connection writes its response. -/
  | write (name : String)
  /-- A connection ends: its input ends or cannot be read, its response cannot be written, or it is
  told to stop while it waits for a line. -/
  | hangUp (name : String)
  /-- The service stops and the queue is gone. -/
  | stop
  /-- Another gate stands in front of the bus. -/
  | gate (gate : Gate)
  /-- The world of the backend changes. -/
  | world (world : ω)

/-- A service and the connections that lead to it. -/
structure Traffic (ω σ : Type) where
  roster : Roster ω σ
  /-- Number of the next connection. -/
  nextName : Nat
  /-- What the connection with a name is doing; nothing under a name that was not given out. -/
  phase? : String → Option Phase
  queue : List Posted
  /-- The service has not stopped. -/
  serving : Bool

namespace Traffic

variable {ω σ : Type}

/-- A service to which no connection leads yet. -/
def opened (roster : Roster ω σ) : Traffic ω σ := ⟨roster, 1, fun _ => none, [], true⟩

/-- A connection goes over to another phase. -/
def turn (traffic : Traffic ω σ) (name : String) (phase : Phase) : Traffic ω σ :=
  { traffic with
    phase? := fun other => if other = name then some phase else traffic.phase? other }

/-- A connection puts an event into the queue, if there still is one. -/
def post (traffic : Traffic ω σ) (name : String) (event : Event) : List Deed × Traffic ω σ :=
  if traffic.serving then
    ([.posted name event], { traffic with queue := traffic.queue ++ [⟨name, event⟩] })
  else ([], traffic)

/-- A connection does what a line asks for. -/
def heed (traffic : Traffic ω σ) (name : String) :
    Connection.Demand → List Deed × Traffic ω σ
  | .nothing => ([], traffic)
  | .answer response => ([], traffic.turn name (.speaking response))
  | .call id call =>
      if traffic.serving then (traffic.turn name (.waiting id)).post name (.call call)
      else ([], traffic.turn name (.speaking (Connection.answer id (.error .serviceGone))))

/-- A connection ends and announces it. -/
def finish (traffic : Traffic ω σ) (name : String) : List Deed × Traffic ω σ :=
  (traffic.turn name .closed).post name (.ownerChanged (.departure name))

/-- A connection receives the reply that it waits for. -/
def deliver (traffic : Traffic ω σ) (name : String) (reply : Reply) : Traffic ω σ :=
  match traffic.phase? name with
  | some (.waiting id) => traffic.turn name (.speaking (Connection.answer id reply))
  | _ => traffic

/-- The service handles the first event of the queue. -/
def serve (service : Service ω σ) (traffic : Traffic ω σ) : Traffic ω σ :=
  match traffic.queue with
  | [] => traffic
  | posted :: rest =>
      let (reply, roster) := service.handle traffic.roster posted.event
      let traffic := { traffic with roster := roster, queue := rest }
      match reply with
      | some reply => traffic.deliver posted.origin reply
      | none => traffic

/-- The service stops. -/
def stop (traffic : Traffic ω σ) : Traffic ω σ :=
  { traffic with
    phase? := fun name => (traffic.phase? name).map Phase.forsaken
    queue := []
    serving := false }

/-- An act, with the deeds of connections in it. -/
def step (service : Service ω σ) (traffic : Traffic ω σ) : Act ω → List Deed × Traffic ω σ
  | .accept =>
      let name := Endpoint.nameOf traffic.nextName
      ([.accepted name],
        { traffic.turn name .listening with nextName := traffic.nextName + 1 })
  | .hear name line =>
      match traffic.phase? name with
      | some .listening =>
          let (deeds, traffic) := traffic.heed name (Connection.demand name line)
          (.heard name line :: deeds, traffic)
      | _ => ([], traffic)
  | .serve => ([], traffic.serve service)
  | .write name =>
      match traffic.phase? name with
      | some (.speaking response) => ([.wrote name response], traffic.turn name .listening)
      | _ => ([], traffic)
  | .hangUp name =>
      match traffic.phase? name with
      | some .listening => traffic.finish name
      | some (.speaking response) =>
          let (deeds, traffic) := traffic.finish name
          (.lost name response :: deeds, traffic)
      | _ => ([], traffic)
  | .stop => ([], traffic.stop)
  | .gate gate =>
      let roster := traffic.roster.setBus { traffic.roster.around.bus with gate := gate }
      ([], { traffic with roster := roster })
  | .world world => ([], { traffic with roster := traffic.roster.setWorld world })

/-- Some acts in order, with the deeds of connections in them. -/
def run (service : Service ω σ) : List (Act ω) → Traffic ω σ → List Deed × Traffic ω σ
  | [], traffic => ([], traffic)
  | act :: rest, traffic =>
      let (deeds, traffic) := traffic.step service act
      let (others, traffic) := run service rest traffic
      (deeds ++ others, traffic)

end Traffic
end LintBus

import LintBus.Proofs.Rpc.Demand
import LintBus.Rpc.Traffic

/-!
# Turns of a connection

To a single connection an act of the traffic is one of a few turns: it reads, calls, writes or
ends, the service comes to its event or stops, or nothing happens to it.  A connection that waits
has its call in the queue and nothing else, and one that has ended has its departure there unless
its session is gone.
-/

namespace LintBus

variable {ω σ : Type}

/-- The connection has ended. -/
def Phase.isClosed : Phase → Bool
  | .closed => true
  | .listening | .waiting _ | .speaking _ => false

/-- The connection has read a line that it has not answered yet. -/
def Phase.isBusy : Phase → Bool
  | .waiting _ | .speaking _ => true
  | .listening | .closed => false

/-- What of the traffic matters to a connection. -/
structure Stand where
  serving : Bool
  phase? : Option Phase
  /-- Its events in the queue. -/
  pending : List Event
  /-- There is a session under its name. -/
  housed : Bool

/-- Where a connection can stand. -/
inductive Stand.Valid (name : String) : Stand → Prop
  | unknown (serving : Bool) : Valid name ⟨serving, none, [], false⟩
  | listening (serving housed : Bool) : Valid name ⟨serving, some .listening, [], housed⟩
  | waiting (id : Rpc.Id) (call : Call) (housed : Bool) (sender : call.sender = name) :
      Valid name ⟨true, some (.waiting id), [.call call], housed⟩
  | speaking (serving : Bool) (response : Rpc.Response) (housed : Bool) :
      Valid name ⟨serving, some (.speaking response), [], housed⟩
  | parting (housed : Bool) :
      Valid name ⟨true, some .closed, [.ownerChanged (.departure name)], housed⟩
  | parted (serving : Bool) : Valid name ⟨serving, some .closed, [], false⟩
  | stranded (housed : Bool) : Valid name ⟨false, some .closed, [], housed⟩

/-- A connection has nothing in the queue while it has not been accepted, waits for a line or
writes a response. -/
theorem Stand.Valid.idle {name : String} {stand : Stand} (valid : stand.Valid name) :
    match stand.phase? with
    | none => stand.pending = [] ∧ stand.housed = false
    | some .listening | some (.speaking _) => stand.pending = []
    | some (.waiting _) | some .closed => True := by
  cases valid <;> simp

/-- A connection with something in the queue waits for the reply to its call or has ended. -/
theorem Stand.Valid.busy {name : String} {stand : Stand} (valid : stand.Valid name)
    {event : Event} {rest : List Event} (pending : stand.pending = event :: rest) :
    (∃ id call, event = .call call ∧ call.sender = name ∧
      stand = ⟨true, some (.waiting id), [.call call], stand.housed⟩) ∨
    event = .ownerChanged (.departure name) ∧
      stand = ⟨true, some .closed, [.ownerChanged (.departure name)], stand.housed⟩ := by
  cases valid with
  | waiting id call housed sender =>
      obtain ⟨rfl, -⟩ := List.cons.inj pending
      exact .inl ⟨id, call, rfl, sender, rfl⟩
  | parting housed =>
      obtain ⟨rfl, -⟩ := List.cons.inj pending
      exact .inr ⟨rfl, rfl⟩
  | unknown serving => exact absurd pending.symm (List.cons_ne_nil event rest)
  | listening serving housed => exact absurd pending.symm (List.cons_ne_nil event rest)
  | speaking serving response housed => exact absurd pending.symm (List.cons_ne_nil event rest)
  | parted serving => exact absurd pending.symm (List.cons_ne_nil event rest)
  | stranded housed => exact absurd pending.symm (List.cons_ne_nil event rest)

/-- What a connection that ends puts into the queue. -/
def farewell (serving : Bool) (name : String) : List Event :=
  if serving then [.ownerChanged (.departure name)] else []

/-- What an act is to a connection: where it stood, its deeds, and where it stands then. -/
inductive Turn (service : Service ω σ) (name : String) : Stand → List Deed → Stand → Prop
  | rest (stand : Stand) : Turn service name stand [] stand
  | accept (serving : Bool) :
      Turn service name ⟨serving, none, [], false⟩ [.accepted name]
        ⟨serving, some .listening, [], false⟩
  | overhear (serving housed : Bool) {line : String}
      (demanded : Connection.demand name line = .nothing) :
      Turn service name ⟨serving, some .listening, [], housed⟩ [.heard name line]
        ⟨serving, some .listening, [], housed⟩
  | retort (serving housed : Bool) {line : String} {response : Rpc.Response}
      (demanded : Connection.demand name line = .answer response) :
      Turn service name ⟨serving, some .listening, [], housed⟩ [.heard name line]
        ⟨serving, some (.speaking response), [], housed⟩
  | call (housed : Bool) {line : String} {id : Rpc.Id} {call : Call}
      (demanded : Connection.demand name line = .call id call) :
      Turn service name ⟨true, some .listening, [], housed⟩
        [.heard name line, .posted name (.call call)]
        ⟨true, some (.waiting id), [.call call], housed⟩
  | callInVain (housed : Bool) {line : String} {id : Rpc.Id} {call : Call}
      (demanded : Connection.demand name line = .call id call) :
      Turn service name ⟨false, some .listening, [], housed⟩ [.heard name line]
        ⟨false, some (.speaking (Connection.answer id (.error .serviceGone))), [], housed⟩
  | serve (roster : Roster ω σ) (id : Rpc.Id) (call : Call) (housed still : Bool) :
      Turn service name ⟨true, some (.waiting id), [.call call], housed⟩ []
        ⟨true, some (.speaking (Connection.answer id (service.answer roster call).1)), [], still⟩
  | part (housed : Bool) :
      Turn service name ⟨true, some .closed, [.ownerChanged (.departure name)], housed⟩ []
        ⟨true, some .closed, [], false⟩
  | write (serving : Bool) (response : Rpc.Response) (housed : Bool) :
      Turn service name ⟨serving, some (.speaking response), [], housed⟩ [.wrote name response]
        ⟨serving, some .listening, [], housed⟩
  | hangUp (serving housed : Bool) :
      Turn service name ⟨serving, some .listening, [], housed⟩
        ((farewell serving name).map (.posted name))
        ⟨serving, some .closed, farewell serving name, housed⟩
  | breakOff (serving : Bool) (response : Rpc.Response) (housed : Bool) :
      Turn service name ⟨serving, some (.speaking response), [], housed⟩
        (.lost name response :: (farewell serving name).map (.posted name))
        ⟨serving, some .closed, farewell serving name, housed⟩
  | stop (stand : Stand) :
      Turn service name stand [] ⟨false, stand.phase?.map Phase.forsaken, [], stand.housed⟩

namespace Turn

variable {service : Service ω σ} {name : String} {before after : Stand} {deeds : List Deed}

/-- Each turn leads a connection to where it can stand. -/
theorem valid (turn : Turn service name before deeds after) (valid : before.Valid name) :
    after.Valid name := by
  cases turn with
  | rest stand => exact valid
  | accept serving => exact .listening serving false
  | overhear serving housed demanded => exact .listening serving housed
  | retort serving housed demanded => exact .speaking serving _ housed
  | call housed demanded =>
      exact .waiting _ _ housed (Connection.calls_of_demand demanded).sender_eq
  | callInVain housed demanded => exact .speaking false _ housed
  | serve roster id call housed still => exact .speaking true _ still
  | part housed => exact .parted true
  | write serving response housed => exact .listening serving housed
  | hangUp serving housed =>
      cases serving with
      | true => exact .parting housed
      | false => exact .stranded housed
  | breakOff serving response housed =>
      cases serving with
      | true => exact .parting housed
      | false => exact .stranded housed
  | stop stand =>
      cases valid with
      | unknown serving => exact .unknown false
      | listening serving housed => exact .listening false housed
      | waiting id call housed sender => exact .speaking false _ housed
      | speaking serving response housed => exact .speaking false response housed
      | parting housed => exact .stranded housed
      | parted serving => exact .parted false
      | stranded housed => exact .stranded housed

/-- A name that is not in use comes into use when its connection is accepted. -/
theorem known (turn : Turn service name before deeds after) (unknown : before.phase? = none) :
    after.phase? = none ∨ deeds = [.accepted name] := by
  cases turn with
  | rest stand => exact .inl unknown
  | accept serving => exact .inr rfl
  | stop stand => exact .inl (by rw [unknown, Option.map_none])
  | overhear | retort | call | callInVain | serve | part | write | hangUp | breakOff =>
      exact absurd unknown (Option.some_ne_none _)

end Turn

end LintBus

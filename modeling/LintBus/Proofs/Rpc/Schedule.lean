import LintBus.Proofs.Rpc.Dialogue

/-!
# The schedule of an endpoint

An endpoint deals with each line to the end before it turns to the next one.  That is one order of
acts among all that the traffic can take: a connection that reads a line is followed by the service
and writes its response at once.  So what holds of every run of the traffic holds of an endpoint.
-/

namespace LintBus

variable {ω σ : Type}

/-- Between two lines an endpoint is the traffic in which the connections with its names wait for a
line, no other connection is running, and the queue is empty. -/
structure Endpoint.Rests (endpoint : Endpoint ω σ) (traffic : Traffic ω σ) : Prop where
  roster_eq : traffic.roster = endpoint.roster
  nextName_eq : traffic.nextName = endpoint.nextName
  listening : ∀ name ∈ endpoint.names, traffic.phase? name = some .listening
  silent : ∀ name ∉ endpoint.names, traffic.isOpen name = false
  queue_eq : traffic.queue = []
  serving : traffic.serving = true

namespace Endpoint.Rests

open Traffic (run)

variable {service : Service ω σ} {endpoint : Endpoint ω σ} {traffic : Traffic ω σ} {name : String}

private theorem opened (roster : Roster ω σ) :
    (Endpoint.opened roster).Rests (Traffic.opened roster) :=
  ⟨rfl, rfl, nofun, fun _ _ => rfl, rfl, rfl⟩

private theorem resume (rests : endpoint.Rests traffic) (named : name ∈ endpoint.names)
    {after : Traffic ω σ} {roster : Roster ω σ} (roster_eq : after.roster = roster)
    (nextName_eq : after.nextName = traffic.nextName)
    (own : after.phase? name = some .listening)
    (others : ∀ other ≠ name, after.phase? other = traffic.phase? other)
    (queue_eq : after.queue = []) (serving : after.serving = true) :
    Endpoint.Rests { endpoint with roster := roster } after := by
  refine ⟨roster_eq, nextName_eq.trans rests.nextName_eq, fun other other_named => ?_,
    fun other unnamed => ?_, queue_eq, serving⟩
  · by_cases same : other = name
    · rw [same, own]
    · rw [others other same, rests.listening other other_named]
  · have different : other ≠ name := fun same => unnamed (same ▸ named)
    rw [Traffic.isOpen, others other different]
    exact rests.silent other unnamed

/-- The connection reads a line, the service comes to it, and the response is written. -/
theorem deal (service : Service ω σ) (rests : endpoint.Rests traffic)
    (named : name ∈ endpoint.names) (line : String) :
    let dealt := run service [.hear name line, .serve, .write name] traffic
    let handled := Connection.handleLine service name line endpoint.roster
    Endpoint.Rests { endpoint with roster := handled.2 } dealt.2 ∧
      (deedsOf name dealt.1).filterMap Deed.written? = handled.1.toList := by
  have phase := rests.listening name named
  have queue_eq := rests.queue_eq
  have serving := rests.serving
  intro dealt handled
  cases demanded : Connection.demand name line with
  | nothing =>
      have dealt_eq : dealt = ([.heard name line], traffic) := by
        simp [dealt, run, Traffic.step, Traffic.heed, Traffic.serve, phase, queue_eq, demanded]
      have handled_eq : handled = (none, endpoint.roster) := by
        simp [handled, Connection.handleLine, demanded]
      rw [dealt_eq, handled_eq]
      exact ⟨rests, by simp [deedsOf, Deed.name, Deed.written?]⟩
  | answer response =>
      have dealt_eq : dealt = ([.heard name line, .wrote name response],
          (traffic.turn name (.speaking response)).turn name .listening) := by
        simp [dealt, run, Traffic.step, Traffic.heed, Traffic.serve, Traffic.turn, phase, queue_eq,
          demanded]
      have handled_eq : handled = (some response, endpoint.roster) := by
        simp [handled, Connection.handleLine, demanded]
      rw [dealt_eq, handled_eq]
      refine ⟨rests.resume named rests.roster_eq rfl (if_pos rfl) ?_ queue_eq serving, ?_⟩
      · intro other different
        simp [Traffic.turn, different]
      · simp [deedsOf, Deed.name, Deed.written?, List.filterMap_cons]
  | call id call =>
      let response := Connection.answer id (service.answer traffic.roster call).1
      let roster := (service.answer traffic.roster call).2
      have dealt_eq : dealt =
          ([.heard name line, .posted name (.call call), .wrote name response],
            (((traffic.turn name (.waiting id)).past [] roster).turn name
              (.speaking response)).turn name .listening) := by
        simp [dealt, run, Traffic.step, Traffic.heed, Traffic.post, Traffic.serve, Traffic.turn,
          Traffic.deliver, Traffic.past, Service.handle, phase, queue_eq, serving, demanded,
          response, roster]
      have handled_eq : handled = (some response, roster) := by
        simp [handled, Connection.handleLine, demanded, ← rests.roster_eq, response, roster]
      rw [dealt_eq, handled_eq]
      refine ⟨rests.resume named rfl rfl (if_pos rfl) ?_ rfl serving, ?_⟩
      · intro other different
        simp [Traffic.turn, Traffic.past, different]
      · simp [deedsOf, Deed.name, Deed.written?, List.filterMap_cons]

/-- The connection ends and the service hears of it. -/
theorem hangUp (service : Service ω σ) (rests : endpoint.Rests traffic)
    (named : name ∈ endpoint.names) :
    let ended := run service [.hangUp name, .serve] traffic
    (endpoint.hangUp service name).Rests ended.2 ∧
      (deedsOf name ended.1).filterMap Deed.written? = [] := by
  have phase := rests.listening name named
  have queue_eq := rests.queue_eq
  have serving := rests.serving
  intro ended
  let departed := Event.ownerChanged (.departure name)
  have ended_eq : ended = ([.posted name departed],
      (traffic.turn name .closed).past [] (service.handle traffic.roster departed).2) := by
    simp [ended, run, Traffic.step, Traffic.finish, Traffic.post, Traffic.serve, Traffic.turn,
      Traffic.past, Service.handle, phase, queue_eq, serving, departed]
  rw [ended_eq]
  constructor
  · refine ⟨congrArg (fun roster => (roster.ownerChanged service (.departure name)).2)
      rests.roster_eq, rests.nextName_eq, fun other found => ?_, fun other missing => ?_, rfl,
      serving⟩
    · obtain ⟨other_named, different⟩ : other ∈ endpoint.names ∧ other ≠ name := by
        simpa [Endpoint.hangUp, Endpoint.drop] using found
      simpa [Traffic.turn, Traffic.past, different] using rests.listening other other_named
    · by_cases same : other = name
      · simp [Traffic.isOpen, Traffic.turn, Traffic.past, same, Phase.isClosed]
      · have unnamed : other ∉ endpoint.names := by
          simpa [Endpoint.hangUp, Endpoint.drop, same] using missing
        simpa [Traffic.isOpen, Traffic.turn, Traffic.past, same] using rests.silent other unnamed
  · simp [deedsOf, Deed.name, Deed.written?]

/-- The acts with which the lines of a connection are dealt with, up to one that is no text. -/
def dealings (name : String) : List (List UInt8) → List (Act ω)
  | [] => []
  | line :: rest =>
      match String.fromUTF8? ⟨(Connection.dropReturn line).toArray⟩ with
      | none => [.hangUp name, .serve]
      | some line => [.hear name line, .serve, .write name] ++ dealings name rest

private theorem dealAll (service : Service ω σ) (rests : endpoint.Rests traffic)
    (named : name ∈ endpoint.names) (lines : List (List UInt8)) :
    let dealt := run service (dealings name lines) traffic
    let handled := Connection.handleLines service name lines endpoint.roster
    let left := { endpoint with roster := handled.2.2 }
    (if handled.2.1 then left else left.drop name).Rests dealt.2 ∧
      (deedsOf name dealt.1).filterMap Deed.written? = handled.1 := by
  induction lines generalizing endpoint traffic with
  | nil => exact ⟨rests, rfl⟩
  | cons line rest induction =>
      cases text : String.fromUTF8? ⟨(Connection.dropReturn line).toArray⟩ with
      | none =>
          simp only [dealings, Connection.handleLines, text]
          exact rests.hangUp service named
      | some line =>
          obtain ⟨dealt, written⟩ := rests.deal service named line
          obtain ⟨others, others_written⟩ := induction dealt named
          simp only [dealings, Connection.handleLines, text, Traffic.run_append, deedsOf_append,
            List.filterMap_append, written]
          exact ⟨others, congrArg (_ ++ ·) others_written⟩

private theorem receive (service : Service ω σ) (rests : endpoint.Rests traffic)
    (named : name ∈ endpoint.names) (bytes : List UInt8) :
    let dealt := run service (dealings name (piecesAt 10 bytes)) traffic
    let received := endpoint.receive service name bytes
    received.2.2.Rests dealt.2 ∧
      (deedsOf name dealt.1).filterMap Deed.written? = received.1 :=
  rests.dealAll service named (piecesAt 10 bytes)

private theorem accept (service : Service ω σ) (rests : endpoint.Rests traffic) :
    endpoint.accept.2.Rests (run service [.accept] traffic).2 := by
  have next_eq := congrArg Endpoint.nameOf rests.nextName_eq
  refine ⟨rests.roster_eq, congrArg (· + 1) rests.nextName_eq, fun name named => ?_,
    fun name unnamed => ?_, rests.queue_eq, rests.serving⟩
  · by_cases same : name = Endpoint.nameOf endpoint.nextName
    · simp [run, Traffic.step, Traffic.turn, same, next_eq]
    · have earlier : name ∈ endpoint.names := by simpa [Endpoint.accept, same] using named
      simpa [run, Traffic.step, Traffic.turn, same, next_eq] using rests.listening name earlier
  · obtain ⟨earlier, different⟩ :
        name ∉ endpoint.names ∧ name ≠ Endpoint.nameOf endpoint.nextName := by
      simpa [Endpoint.accept] using unnamed
    simpa [run, Traffic.step, Traffic.turn, Traffic.isOpen, different, next_eq] using
      rests.silent name earlier

/-- A connection that is closed without a word comes and goes. -/
theorem acceptProbe (rests : endpoint.Rests traffic) (sound : traffic.Sound service) :
    let name := Endpoint.nameOf endpoint.nextName
    endpoint.acceptProbe.Rests (run service [.accept, .hangUp name, .serve] traffic).2 := by
  intro name
  have stood := sound.stand_next
  rw [rests.nextName_eq] at stood
  have unnamed : name ∉ endpoint.names := by
    intro found
    have phase : traffic.phase? name = none := congrArg Stand.phase? stood
    rw [rests.listening name found] at phase
    exact Option.some_ne_none _ phase
  have absent : endpoint.roster.contains name = false := by
    rw [← rests.roster_eq]
    exact congrArg Stand.housed stood
  have departed : (OwnerChange.departure name).departed? = some name :=
    OwnerChange.departed?_departure (Endpoint.nameOf_ne_empty _)
  have gone : endpoint.accept.2.hangUp service name = endpoint.acceptProbe := by
    have names_eq : endpoint.names.filter (· != name) = endpoint.names := by
      refine List.filter_eq_self.mpr fun other found => bne_iff_ne.mpr ?_
      rintro rfl
      exact unnamed found
    have roster_eq : (endpoint.roster.ownerChanged service (.departure name)).2 =
        endpoint.roster := by
      simp [Roster.ownerChanged, departed, absent]
    simp [Endpoint.hangUp, Endpoint.accept, Endpoint.acceptProbe, Endpoint.drop, names_eq,
      roster_eq, name]
  have named : name ∈ endpoint.accept.2.names := by simp [Endpoint.accept, name]
  rw [← gone]
  exact ((rests.accept service).hangUp service named).1

end Endpoint.Rests

/-- The endpoints that a service comes to, from a roster on. -/
inductive Endpoint.Reached (service : Service ω σ) (roster : Roster ω σ) : Endpoint ω σ → Prop
  | opened : Reached service roster (.opened roster)
  | accept {endpoint : Endpoint ω σ} (reached : Reached service roster endpoint) :
      Reached service roster endpoint.accept.2
  | acceptProbe {endpoint : Endpoint ω σ} (reached : Reached service roster endpoint) :
      Reached service roster endpoint.acceptProbe
  | receive {endpoint : Endpoint ω σ} (reached : Reached service roster endpoint) {name : String}
      (named : name ∈ endpoint.names) (bytes : List UInt8) :
      Reached service roster (endpoint.receive service name bytes).2.2
  | hangUp {endpoint : Endpoint ω σ} (reached : Reached service roster endpoint) {name : String}
      (named : name ∈ endpoint.names) :
      Reached service roster (endpoint.hangUp service name)
  | world {endpoint : Endpoint ω σ} (reached : Reached service roster endpoint) (world : ω) :
      Reached service roster { endpoint with roster := endpoint.roster.setWorld world }

namespace Endpoint.Reached

open Traffic (run)

variable {service : Service ω σ} {roster : Roster ω σ} {endpoint : Endpoint ω σ}

/-- Each endpoint that is reached is where a run of the traffic leads. -/
theorem scheduled (begins : service.Begins roster) (reached : endpoint.Reached service roster) :
    ∃ acts, endpoint.Rests (run service acts (.opened roster)).2 := by
  have begun := Traffic.sound_opened begins
  induction reached with
  | opened => exact ⟨[], .opened roster⟩
  | accept reached induction =>
      obtain ⟨acts, rests⟩ := induction
      refine ⟨acts ++ [.accept], ?_⟩
      rw [Traffic.run_append]
      exact rests.accept service
  | @acceptProbe endpoint reached induction =>
      obtain ⟨acts, rests⟩ := induction
      refine ⟨acts ++ [.accept, .hangUp (nameOf endpoint.nextName), .serve], ?_⟩
      rw [Traffic.run_append]
      exact rests.acceptProbe (begun.run acts)
  | @receive endpoint reached name named bytes induction =>
      obtain ⟨acts, rests⟩ := induction
      refine ⟨acts ++ Rests.dealings name (piecesAt 10 bytes), ?_⟩
      rw [Traffic.run_append]
      exact (rests.receive service named bytes).1
  | @hangUp endpoint reached name named induction =>
      obtain ⟨acts, rests⟩ := induction
      refine ⟨acts ++ [.hangUp name, .serve], ?_⟩
      rw [Traffic.run_append]
      exact (rests.hangUp service named).1
  | world reached world induction =>
      obtain ⟨acts, rests⟩ := induction
      refine ⟨acts ++ [.world world], ?_⟩
      rw [Traffic.run_append]
      exact ⟨congrArg (·.setWorld world) rests.roster_eq, rests.nextName_eq, rests.listening,
        rests.silent, rests.queue_eq, rests.serving⟩

end Endpoint.Reached
end LintBus

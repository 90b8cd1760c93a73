import LintBus.Proofs.Client.Release
import LintBus.Proofs.Rpc.Turn
import LintBus.Proofs.Service.Course
import Std.Data.String.ToNat

/-!
# Turns in the traffic

Each act is a turn of each connection, whatever the others are doing, because a connection that has
nothing to do with an act stands after it where it stood before.  So what every turn keeps, every
run keeps, in whichever order connections and service come to act.
-/

namespace LintBus

variable {ω σ : Type}

private theorem Endpoint.nameOf_injective : Function.Injective Endpoint.nameOf := by
  intro left right same
  have texts : (":1." ++ left.repr).toList = (":1." ++ right.repr).toList := congrArg _ same
  rw [String.toList_append, String.toList_append] at texts
  exact Nat.repr_injective (String.toList_inj.mp (List.append_cancel_left texts))

theorem Endpoint.nameOf_ne_empty (number : Nat) : Endpoint.nameOf number ≠ "" := by
  intro same
  have texts : (":1." ++ number.repr).toList = "".toList := congrArg _ same
  simp at texts

/-- The deeds of a connection among those of all. -/
def deedsOf (name : String) (deeds : List Deed) : List Deed :=
  deeds.filter (·.name == name)

@[simp]
theorem deedsOf_nil (name : String) : deedsOf name [] = [] := rfl

@[simp]
theorem deedsOf_append (name : String) (earlier later : List Deed) :
    deedsOf name (earlier ++ later) = deedsOf name earlier ++ deedsOf name later :=
  List.filter_append ..

private theorem deedsOf_cons (name : String) (deed : Deed) (deeds : List Deed) :
    deedsOf name (deed :: deeds) =
      if deed.name = name then deed :: deedsOf name deeds else deedsOf name deeds := by
  simp [deedsOf, List.filter_cons]

private theorem deedsOf_posted (name : String) (events : List Event) :
    deedsOf name (events.map (.posted name)) = events.map (.posted name) := by
  simp [deedsOf, Deed.name]

namespace Traffic

variable {service : Service ω σ} {traffic : Traffic ω σ} {name other : String}

/-- The events of a connection in the queue. -/
def pending (traffic : Traffic ω σ) (name : String) : List Event :=
  (traffic.queue.filter (·.origin == name)).map Posted.event

/-- Where a connection stands. -/
def stand (traffic : Traffic ω σ) (name : String) : Stand :=
  ⟨traffic.serving, traffic.phase? name, traffic.pending name, traffic.roster.contains name⟩

/-- The connection with a name is still running. -/
def isOpen (traffic : Traffic ω σ) (name : String) : Bool :=
  (traffic.phase? name).any fun phase => !phase.isClosed

/-- The connection with a name has ended. -/
def isClosed (traffic : Traffic ω σ) (name : String) : Bool :=
  (traffic.phase? name).any Phase.isClosed

/-- The connection with a name has read a line that it has not answered yet. -/
def isBusy (traffic : Traffic ω σ) (name : String) : Bool :=
  (traffic.phase? name).any Phase.isBusy

theorem isClosed_iff : traffic.isClosed name = true ↔ traffic.phase? name = some .closed := by
  simp only [isClosed, Option.any_eq_true]
  constructor
  · rintro ⟨phase, found, closed⟩
    cases phase with
    | closed => exact found
    | listening | waiting | speaking => exact absurd closed Bool.false_ne_true
  · exact fun found => ⟨.closed, found, rfl⟩

/-- The traffic is in order: so are the roster and the bus, each connection has a name that was
given out, and each stands where it can. -/
structure Sound (service : Service ω σ) (traffic : Traffic ω σ) : Prop where
  orderly : traffic.roster.Orderly service.addressing
  agrees : service.Agrees traffic.roster
  named : ∀ name, traffic.phase? name ≠ none →
    ∃ number < traffic.nextName, name = Endpoint.nameOf number
  valid : ∀ name, (traffic.stand name).Valid name

/-! ## Parts of acts -/

private theorem stand_turn_self (traffic : Traffic ω σ) (name : String) (phase : Phase) :
    (traffic.turn name phase).stand name = { traffic.stand name with phase? := some phase } := by
  simp [stand, turn, pending]

private theorem stand_turn_other (traffic : Traffic ω σ) (phase : Phase)
    (different : other ≠ name) :
    (traffic.turn name phase).stand other = traffic.stand other := by
  simp [stand, turn, pending, different]

private theorem finish_deeds (traffic : Traffic ω σ) (name : String) :
    (traffic.finish name).1 = (farewell traffic.serving name).map (.posted name) := by
  cases serving : traffic.serving <;> simp [finish, post, turn, farewell, serving]

private theorem stand_finish_self (pending : traffic.pending name = []) :
    (traffic.finish name).2.stand name =
      ⟨traffic.serving, some .closed, farewell traffic.serving name,
        traffic.roster.contains name⟩ := by
  simp only [Traffic.pending, List.map_eq_nil_iff] at pending
  cases serving : traffic.serving <;>
    simp [finish, post, turn, stand, Traffic.pending, farewell, serving, pending]

private theorem finish_other (traffic : Traffic ω σ) (different : other ≠ name) :
    deedsOf other (traffic.finish name).1 = [] ∧
      (traffic.finish name).2.stand other = traffic.stand other := by
  cases serving : traffic.serving <;>
    simp [finish, post, turn, stand, Traffic.pending, deedsOf, Deed.name, serving, different,
      different.symm]

private theorem heed_other (traffic : Traffic ω σ) (demand : Connection.Demand)
    (different : other ≠ name) :
    deedsOf other (traffic.heed name demand).1 = [] ∧
      (traffic.heed name demand).2.stand other = traffic.stand other := by
  cases demand with
  | nothing => exact ⟨rfl, rfl⟩
  | answer response => exact ⟨rfl, stand_turn_other traffic _ different⟩
  | call id call =>
      cases serving : traffic.serving <;>
        simp [heed, post, turn, stand, Traffic.pending, deedsOf, Deed.name, serving, different,
          different.symm]

private theorem stand_heed_call (serving : traffic.serving = true)
    (pending : traffic.pending name = [])
    (id : Rpc.Id) (call : Call) :
    (traffic.heed name (.call id call)).2.stand name =
      ⟨true, some (.waiting id), [.call call], traffic.roster.contains name⟩ := by
  simp only [Traffic.pending, List.map_eq_nil_iff] at pending
  simp [heed, post, turn, stand, Traffic.pending, serving, pending]

section Stands

variable (sound : traffic.Sound service)

include sound

private theorem Sound.stand_listening (phase : traffic.phase? name = some .listening) :
    traffic.stand name =
      ⟨traffic.serving, some .listening, [], traffic.roster.contains name⟩ := by
  have idle := (sound.valid name).idle
  simp only [stand, phase] at idle ⊢
  rw [idle]

private theorem Sound.stand_speaking {response : Rpc.Response}
    (phase : traffic.phase? name = some (.speaking response)) :
    traffic.stand name =
      ⟨traffic.serving, some (.speaking response), [], traffic.roster.contains name⟩ := by
  have idle := (sound.valid name).idle
  simp only [stand, phase] at idle ⊢
  rw [idle]

/-- The next name is not in use. -/
theorem Sound.stand_next :
    traffic.stand (Endpoint.nameOf traffic.nextName) = ⟨traffic.serving, none, [], false⟩ := by
  have unused : traffic.phase? (Endpoint.nameOf traffic.nextName) = none := by
    by_contra used
    obtain ⟨number, below, same⟩ := sound.named _ used
    have number_eq := Endpoint.nameOf_injective same
    omega
  have idle := (sound.valid (Endpoint.nameOf traffic.nextName)).idle
  simp only [stand, unused] at idle ⊢
  rw [idle.1, idle.2]

end Stands

/-! ## Acts as turns -/

private theorem turn_accept (sound : traffic.Sound service) (name : String) :
    Turn service name (traffic.stand name) (deedsOf name (traffic.step service .accept).1)
      ((traffic.step service .accept).2.stand name) := by
  have after : (traffic.step service .accept).2.stand name =
      (traffic.turn (Endpoint.nameOf traffic.nextName) .listening).stand name := rfl
  rw [after]
  by_cases own : name = Endpoint.nameOf traffic.nextName
  · subst own
    simp only [step, deedsOf_cons, Deed.name, if_true, stand_turn_self, sound.stand_next]
    exact .accept _
  · simp only [step, deedsOf_cons, Deed.name, Ne.symm own, if_false,
      stand_turn_other traffic .listening own]
    exact .rest _

private theorem turn_hear (sound : traffic.Sound service) (speaker line name : String) :
    Turn service name (traffic.stand name)
      (deedsOf name (traffic.step service (.hear speaker line)).1)
      ((traffic.step service (.hear speaker line)).2.stand name) := by
  simp only [step]
  split
  · next phase =>
    by_cases own : name = speaker
    · subst own
      have stood := sound.stand_listening phase
      have pending : traffic.pending name = [] := congrArg Stand.pending stood
      simp only [deedsOf_cons, Deed.name, if_true, stood]
      cases demanded : Connection.demand name line with
      | nothing =>
          simp only [heed, stood]
          exact .overhear _ _ demanded
      | answer response =>
          simp only [heed, stand_turn_self, stood]
          exact .retort _ _ demanded
      | call id call =>
          cases serving : traffic.serving with
          | true =>
              have posted :
                  (traffic.heed name (.call id call)).1 = [.posted name (.call call)] := by
                simp [heed, post, turn, serving]
              simp only [stand_heed_call serving pending, posted, deedsOf_cons, Deed.name, if_true]
              exact .call _ demanded
          | false =>
              simp only [heed, serving, Bool.false_eq_true, if_false, stand_turn_self, stood]
              exact .callInVain _ demanded
    · obtain ⟨deeds, after⟩ := heed_other traffic (Connection.demand speaker line) own
      simp only [deedsOf_cons, Deed.name, Ne.symm own, if_false, deeds, after]
      exact .rest _
  · exact .rest _

private theorem turn_write (sound : traffic.Sound service) (speaker name : String) :
    Turn service name (traffic.stand name)
      (deedsOf name (traffic.step service (.write speaker)).1)
      ((traffic.step service (.write speaker)).2.stand name) := by
  simp only [step]
  split
  · next response phase =>
    by_cases own : name = speaker
    · subst own
      simp only [deedsOf_cons, Deed.name, if_true, stand_turn_self, sound.stand_speaking phase]
      exact .write _ _ _
    · simp only [deedsOf_cons, Deed.name, Ne.symm own, if_false,
        stand_turn_other traffic .listening own]
      exact .rest _
  · exact .rest _

private theorem turn_hangUp (sound : traffic.Sound service) (speaker name : String) :
    Turn service name (traffic.stand name)
      (deedsOf name (traffic.step service (.hangUp speaker)).1)
      ((traffic.step service (.hangUp speaker)).2.stand name) := by
  simp only [step]
  split
  · next phase =>
    by_cases own : name = speaker
    · subst own
      have stood := sound.stand_listening phase
      have pending : traffic.pending name = [] := congrArg Stand.pending stood
      rw [stand_finish_self pending, finish_deeds, deedsOf_posted, stood]
      exact .hangUp _ _
    · obtain ⟨deeds, after⟩ := finish_other traffic own
      rw [deeds, after]
      exact .rest _
  · next response phase =>
    by_cases own : name = speaker
    · subst own
      have stood := sound.stand_speaking phase
      have pending : traffic.pending name = [] := congrArg Stand.pending stood
      simp only [stand_finish_self pending, finish_deeds, deedsOf_cons, Deed.name, if_true,
        deedsOf_posted, stood]
      exact .breakOff _ _ _
    · obtain ⟨deeds, after⟩ := finish_other traffic own
      simp only [deedsOf_cons, Deed.name, Ne.symm own, if_false, deeds, after]
      exact .rest _
  · exact .rest _

/-! ## The queue -/

section Queue

variable {origin : String} {event : Event} {rest : List Posted}

/-- The traffic after the first event of the queue has left a roster behind. -/
def past (traffic : Traffic ω σ) (rest : List Posted) (roster : Roster ω σ) : Traffic ω σ :=
  { traffic with roster := roster, queue := rest }

private theorem pending_cons (queue : traffic.queue = ⟨origin, event⟩ :: rest) :
    traffic.pending origin =
      event :: (rest.filter (·.origin == origin)).map Posted.event := by
  simp [pending, queue]

private theorem stand_past_other (queue : traffic.queue = ⟨origin, event⟩ :: rest)
    {roster : Roster ω σ} (different : other ≠ origin)
    (frame : roster.session? other = traffic.roster.session? other) :
    (traffic.past rest roster).stand other = traffic.stand other := by
  simp [past, stand, pending, queue, different.symm, Roster.contains, frame]

private theorem stand_past_self (queue : traffic.queue = ⟨origin, event⟩ :: rest) {phase : Phase}
    (stood : traffic.stand origin =
      ⟨true, some phase, [event], traffic.roster.contains origin⟩) (roster : Roster ω σ) :
    (traffic.past rest roster).stand origin = ⟨true, some phase, [], roster.contains origin⟩ := by
  have pending : traffic.pending origin = [event] := congrArg Stand.pending stood
  rw [pending_cons queue] at pending
  have serving : traffic.serving = true := congrArg Stand.serving stood
  have phase_eq : traffic.phase? origin = some phase := congrArg Stand.phase? stood
  simp only [stand, past, Traffic.pending, serving, phase_eq, (List.cons.inj pending).2]

private theorem stand_deliver_other (traffic : Traffic ω σ) (reply : Reply)
    (different : other ≠ name) :
    (traffic.deliver name reply).stand other = traffic.stand other := by
  rw [deliver]
  split
  · exact stand_turn_other traffic _ different
  · rfl

private theorem stand_deliver_self {id : Rpc.Id} {pending : List Event} {housed : Bool}
    (stood : traffic.stand name = ⟨true, some (.waiting id), pending, housed⟩) (reply : Reply) :
    (traffic.deliver name reply).stand name =
      ⟨true, some (.speaking (Connection.answer id reply)), pending, housed⟩ := by
  have phase : traffic.phase? name = some (.waiting id) := congrArg Stand.phase? stood
  simp only [deliver, phase, stand_turn_self, stood]

theorem serve_call {call : Call} (queue : traffic.queue = ⟨origin, .call call⟩ :: rest) :
    traffic.serve service =
      (traffic.past rest (service.handle traffic.roster (.call call)).2).deliver origin
        (service.answer traffic.roster call).1 := by
  simp only [serve, queue, Service.handle, past]

theorem serve_departure {change : OwnerChange}
    (queue : traffic.queue = ⟨origin, .ownerChanged change⟩ :: rest) :
    traffic.serve service =
      traffic.past rest (service.handle traffic.roster (.ownerChanged change)).2 := by
  simp only [serve, queue, Service.handle, past]

end Queue

private theorem contains_departed (roster : Roster ω σ) (named : name ≠ "") :
    (service.handle roster (.ownerChanged (.departure name))).2.contains name = false := by
  rw [Service.handle_departed (OwnerChange.departed?_departure named), Roster.contains,
    Roster.session?_dismiss, if_pos rfl]
  rfl

theorem turn_serve (sound : traffic.Sound service) (name : String) :
    Turn service name (traffic.stand name) [] ((traffic.serve service).stand name) := by
  cases queue : traffic.queue with
  | nil =>
      simp only [serve, queue]
      exact .rest _
  | cons posted rest =>
      obtain ⟨origin, event⟩ := posted
      have frame (client : event.client? = some origin) (different : name ≠ origin) :
          (service.handle traffic.roster event).2.session? name = traffic.roster.session? name := by
        refine Service.handle_frame sound.orderly sound.agrees ?_
        rw [client]
        exact fun same => different (Option.some.inj same).symm
      rcases (sound.valid origin).busy (pending_cons queue) with
        ⟨id, call, rfl, sender, stood⟩ | ⟨rfl, stood⟩
      · have client : (Event.call call).client? = some origin := congrArg some sender
        rw [serve_call queue]
        by_cases own : name = origin
        · subst own
          rw [stand_deliver_self (stand_past_self queue stood _), stood]
          exact .serve _ _ _ _ _
        · rw [stand_deliver_other _ _ own, stand_past_other queue own (frame client own)]
          exact .rest _
      · have phase : traffic.phase? origin = some .closed := congrArg Stand.phase? stood
        obtain ⟨number, -, rfl⟩ := sound.named origin (by simp [phase])
        have named := Endpoint.nameOf_ne_empty number
        rw [serve_departure queue]
        by_cases own : name = Endpoint.nameOf number
        · subst own
          rw [stand_past_self queue stood, stood, contains_departed _ named]
          exact .part _
        · rw [stand_past_other queue own (frame (OwnerChange.departed?_departure named) own)]
          exact .rest _

/-! ## Steps and runs -/

/-- Each act is a turn of each connection. -/
theorem turn_step (sound : traffic.Sound service) (act : Act ω) (name : String) :
    Turn service name (traffic.stand name) (deedsOf name (traffic.step service act).1)
      ((traffic.step service act).2.stand name) := by
  cases act with
  | accept => exact turn_accept sound name
  | hear speaker line => exact turn_hear sound speaker line name
  | serve => exact turn_serve sound name
  | write speaker => exact turn_write sound speaker name
  | hangUp speaker => exact turn_hangUp sound speaker name
  | stop => exact .stop (traffic.stand name)
  | gate gate => exact .rest (traffic.stand name)
  | world world => exact .rest (traffic.stand name)

section Parts

variable (traffic : Traffic ω σ) (name : String)

private theorem heed_keeps (demand : Connection.Demand) :
    (traffic.heed name demand).2.roster = traffic.roster ∧
      (traffic.heed name demand).2.nextName = traffic.nextName ∧
      ∀ other, .accepted other ∉ (traffic.heed name demand).1 := by
  cases demand with
  | nothing => exact ⟨rfl, rfl, fun _ => List.not_mem_nil⟩
  | answer response => exact ⟨rfl, rfl, fun _ => List.not_mem_nil⟩
  | call id call => cases serving : traffic.serving <;> simp [heed, post, turn, serving]

private theorem finish_keeps :
    (traffic.finish name).2.roster = traffic.roster ∧
      (traffic.finish name).2.nextName = traffic.nextName ∧
      ∀ other, .accepted other ∉ (traffic.finish name).1 := by
  cases serving : traffic.serving <;> simp [finish, post, turn, serving]

private theorem deliver_keeps (reply : Reply) :
    (traffic.deliver name reply).roster = traffic.roster ∧
      (traffic.deliver name reply).nextName = traffic.nextName := by
  rw [deliver]
  split <;> exact ⟨rfl, rfl⟩

end Parts

/-- What an act is to the service. -/
def occurrences (traffic : Traffic ω σ) : Act ω → List (Occurrence ω)
  | .serve => traffic.queue.head?.toList.map (.event ·.event)
  | .gate gate => [.gate gate]
  | .world world => [.world world]
  | .accept | .hear _ _ | .write _ | .hangUp _ | .stop => []

private theorem serve_keeps (service : Service ω σ) (traffic : Traffic ω σ) :
    (traffic.serve service).roster =
        service.course (traffic.occurrences .serve) traffic.roster ∧
      (traffic.serve service).nextName = traffic.nextName := by
  cases queue : traffic.queue with
  | nil => simp [serve, occurrences, queue]
  | cons posted rest =>
      obtain ⟨origin, event⟩ := posted
      rw [occurrences, queue]
      cases event with
      | call call =>
          rw [serve_call queue]
          exact deliver_keeps ..
      | ownerChanged change =>
          rw [serve_departure queue]
          exact ⟨rfl, rfl⟩

private theorem roster_step (service : Service ω σ) (traffic : Traffic ω σ) (act : Act ω) :
    (traffic.step service act).2.roster =
      service.course (traffic.occurrences act) traffic.roster := by
  cases act with
  | serve => exact (serve_keeps service traffic).1
  | accept | stop | gate gate | world world => rfl
  | hear name line =>
      simp only [step]
      split
      · exact (heed_keeps ..).1
      · rfl
  | write name =>
      simp only [step]
      split <;> rfl
  | hangUp name =>
      simp only [step]
      split
      · exact (finish_keeps ..).1
      · exact (finish_keeps ..).1
      · rfl

private theorem nextName_step (service : Service ω σ) (traffic : Traffic ω σ) (act : Act ω) :
    traffic.nextName ≤ (traffic.step service act).2.nextName ∧
      ∀ name, .accepted name ∈ (traffic.step service act).1 →
        name = Endpoint.nameOf traffic.nextName ∧
          traffic.nextName < (traffic.step service act).2.nextName := by
  cases act with
  | accept => simp [step, turn]
  | serve => simp [step, (serve_keeps service traffic).2]
  | stop | gate gate | world world => simp [step, stop]
  | hear name line =>
      obtain ⟨-, same, none_accepted⟩ := heed_keeps traffic name (Connection.demand name line)
      simp only [step]
      split <;> simp [same, none_accepted]
  | write name =>
      simp only [step]
      split <;> simp [turn]
  | hangUp name =>
      obtain ⟨-, same, none_accepted⟩ := finish_keeps traffic name
      simp only [step]
      split <;> simp [same, none_accepted]

/-- Each act keeps the traffic in order. -/
theorem Sound.step (sound : traffic.Sound service) (act : Act ω) :
    (traffic.step service act).2.Sound service := by
  have turn := turn_step sound act
  obtain ⟨grows, accepted⟩ := nextName_step service traffic act
  obtain ⟨orderly, agrees⟩ :=
    Service.course_sound sound.orderly sound.agrees (traffic.occurrences act)
  rw [← roster_step] at orderly agrees
  refine ⟨orderly, agrees, fun name used => ?_, fun name => (turn name).valid (sound.valid name)⟩
  by_cases known : traffic.phase? name = none
  · rcases (turn name).known known with unknown | deeds
    · exact absurd unknown used
    · have found : .accepted name ∈ deedsOf name (traffic.step service act).1 := by simp [deeds]
      obtain ⟨named, less⟩ := accepted name (List.mem_filter.mp found).1
      exact ⟨traffic.nextName, less, named⟩
  · obtain ⟨number, below, named⟩ := sound.named name known
    exact ⟨number, Nat.lt_of_lt_of_le below grows, named⟩

/-- The traffic of a service that has begun is in order. -/
theorem sound_opened {roster : Roster ω σ} (begins : service.Begins roster) :
    (opened roster).Sound service := by
  obtain ⟨orderly, agrees⟩ := begins.sound
  refine ⟨orderly, agrees, fun name used => absurd rfl used, fun name => ?_⟩
  obtain ⟨gate, bus, world, -, rfl⟩ := begins
  exact .unknown true

@[simp]
theorem run_append (service : Service ω σ) (earlier later : List (Act ω))
    (traffic : Traffic ω σ) :
    run service (earlier ++ later) traffic =
      ((run service earlier traffic).1 ++ (run service later (run service earlier traffic).2).1,
        (run service later (run service earlier traffic).2).2) := by
  induction earlier generalizing traffic with
  | nil => rfl
  | cons act rest induction =>
      simp only [List.cons_append, run, induction, List.append_assoc]

theorem Sound.run (sound : traffic.Sound service) (acts : List (Act ω)) :
    (Traffic.run service acts traffic).2.Sound service := by
  induction acts generalizing traffic with
  | nil => exact sound
  | cons act rest induction => exact induction (sound.step act)

/-- What a run is to the service. -/
theorem roster_run (service : Service ω σ) (acts : List (Act ω)) (traffic : Traffic ω σ) :
    ∃ occurrences : List (Occurrence ω),
      (Traffic.run service acts traffic).2.roster =
        service.course occurrences traffic.roster := by
  induction acts generalizing traffic with
  | nil => exact ⟨[], rfl⟩
  | cons act rest induction =>
      obtain ⟨later, moved⟩ := induction (traffic.step service act).2
      refine ⟨traffic.occurrences act ++ later, ?_⟩
      rw [Service.course_append, ← roster_step]
      exact moved

/-- What each turn of a connection keeps, together with its deeds so far, a run keeps. -/
theorem run_induction {name : String} {motive : Stand → List Deed → Prop}
    (turns : ∀ {before deeds after earlier}, Turn service name before deeds after →
      before.Valid name → motive before earlier → motive after (earlier ++ deeds))
    (sound : traffic.Sound service) {earlier : List Deed}
    (base : motive (traffic.stand name) earlier) (acts : List (Act ω)) :
    motive ((run service acts traffic).2.stand name)
      (earlier ++ deedsOf name (run service acts traffic).1) := by
  induction acts generalizing traffic earlier with
  | nil => simpa [run] using base
  | cons act rest induction =>
      have first := turns (turn_step sound act name) (sound.valid name) base
      rw [run, deedsOf_append, ← List.append_assoc]
      exact induction (sound.step act) first

end Traffic
end LintBus

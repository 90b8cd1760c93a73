import LintBus.Proofs.Rpc.Traffic

/-!
# Dialogue with a client

In whichever order connections and service come to act, a connection answers its lines in order,
each that wants a response with exactly one and before it reads the next.  The calls that it puts
into the queue are those that its lines make, in order, and its departure comes after them.
-/

namespace LintBus

variable {ω σ : Type}

namespace Deed

/-- The line that was read. -/
def line? : Deed → Option String
  | .heard _ line => some line
  | .accepted _ | .posted _ _ | .wrote _ _ | .lost _ _ => none

/-- The event that was put into the queue. -/
def event? : Deed → Option Event
  | .posted _ event => some event
  | .accepted _ | .heard _ _ | .wrote _ _ | .lost _ _ => none

/-- The response that was written, or should have been. -/
def response? : Deed → Option Rpc.Response
  | .wrote _ response | .lost _ response => some response
  | .accepted _ | .heard _ _ | .posted _ _ => none

/-- The response that was written. -/
def written? : Deed → Option Rpc.Response
  | .wrote _ response => some response
  | .accepted _ | .heard _ _ | .posted _ _ | .lost _ _ => none

end Deed

/-- A response to a line of the client with a given name, while the service is still there or
not. -/
inductive Connection.Answers (service : Service ω σ) (serving : Bool) (name line : String) :
    Rpc.Response → Prop
  | retort {response : Rpc.Response} (retorts : Retorts name line response) :
      Answers service serving name line response
  | reply {id : Rpc.Id} {call : Call} (calls : Calls name line id call) (roster : Roster ω σ) :
      Answers service serving name line (answer id (service.answer roster call).1)
  | forsaken {id : Rpc.Id} {call : Call} (calls : Calls name line id call)
      (stopped : serving = false) :
      Answers service serving name line (answer id (.error .serviceGone))

private theorem Connection.Answers.stop {service : Service ω σ} {serving : Bool}
    {name line : String}
    {response : Rpc.Response} (answers : Answers service serving name line response) :
    Answers service false name line response := by
  cases answers with
  | retort retorts => exact .retort retorts
  | reply calls roster => exact .reply calls roster
  | forsaken calls stopped => exact .forsaken calls rfl

private theorem Connection.answer_id (id : Rpc.Id) (reply : Reply) : (answer id reply).id = id := by
  cases reply <;> rfl

/-- A line that is no message is answered by an error under no identifier, a message by a response
under its own. -/
theorem Connection.Answers.id_eq {service : Service ω σ} {serving : Bool} {name line : String}
    {response : Rpc.Response} (answers : Answers service serving name line response) :
    match Rpc.Request.read? line with
    | none => response = ⟨.null, .error .unreadable⟩
    | some request => request.id = some response.id := by
  cases answers with
  | retort retorts =>
      cases retorts with
      | unreadable shown unread => rw [unread]
      | hello asks hello => simpa only [asks.read] using asks.identified
      | undotted asks undotted => simpa only [asks.read] using asks.identified
      | undecodable asks other dotted undecoded => simpa only [asks.read] using asks.identified
  | reply calls roster =>
      obtain ⟨asks, -, -, -, -⟩ := calls
      simpa only [asks.read, answer_id] using asks.identified
  | forsaken calls stopped =>
      obtain ⟨asks, -, -, -, -⟩ := calls
      simpa only [asks.read, answer_id] using asks.identified

open Connection (Answers Calls wants called?)

/-- The lines that a connection has read and not answered yet. -/
inductive Stand.Owes (service : Service ω σ) (name : String) : Stand → List String → Prop
  | unknown (serving housed : Bool) : Owes service name ⟨serving, none, [], housed⟩ []
  | listening (serving housed : Bool) : Owes service name ⟨serving, some .listening, [], housed⟩ []
  | waiting {line : String} {id : Rpc.Id} {call : Call} (calls : Calls name line id call)
      (housed : Bool) :
      Owes service name ⟨true, some (.waiting id), [.call call], housed⟩ [line]
  | speaking {line : String} {response : Rpc.Response} {serving : Bool}
      (answers : Answers service serving name line response) (housed : Bool) :
      Owes service name ⟨serving, some (.speaking response), [], housed⟩ [line]
  | closed (serving : Bool) (pending : List Event) (housed : Bool) :
      Owes service name ⟨serving, some .closed, pending, housed⟩ []

private theorem Stand.Owes.length_eq {service : Service ω σ} {name : String} {stand : Stand}
    {owed : List String} (owes : stand.Owes service name owed) :
    owed.length = if stand.phase?.any Phase.isBusy then 1 else 0 := by
  cases owes <;> rfl

/-- The lines that want a response have been answered in order, but for those that are owed one. -/
def Answered (service : Service ω σ) (name : String) (stand : Stand) (deeds : List Deed) : Prop :=
  ∃ answered owed,
    (deeds.filterMap Deed.line?).filter wants = answered ++ owed ∧
    stand.Owes service name owed ∧
    List.Forall₂ (Answers service stand.serving name) answered (deeds.filterMap Deed.response?)

private theorem filterMap_posted {β : Type} (name : String) (events : List Event)
    {view : Deed → Option β}
    (blind : ∀ event, view (.posted name event) = none) :
    (events.map (.posted name)).filterMap view = [] := by
  simp [blind]

section Turns

variable {service : Service ω σ} {name : String} {before after : Stand}
  {earlier deeds : List Deed}

private theorem Answered.idle (told : Answered service name before earlier)
    (unheard : deeds.filterMap Deed.line? = []) (unsaid : deeds.filterMap Deed.response? = [])
    (owes : ∀ {owed}, before.Owes service name owed → after.Owes service name owed)
    (answers : ∀ {line response}, Answers service before.serving name line response →
      Answers service after.serving name line response) :
    Answered service name after (earlier ++ deeds) := by
  obtain ⟨answered, owed, lines_eq, owed_owes, answered_answers⟩ := told
  refine ⟨answered, owed, ?_, owes owed_owes, ?_⟩
  · rw [List.filterMap_append, unheard, List.append_nil, lines_eq]
  · rw [List.filterMap_append, unsaid, List.append_nil]
    exact answered_answers.imp fun _ _ => answers

private theorem Answered.hear {serving housed : Bool} {line : String}
    (told : Answered service name ⟨serving, some .listening, [], housed⟩ earlier)
    (wanted : wants line = true) (heard : deeds.filterMap Deed.line? = [line])
    (unsaid : deeds.filterMap Deed.response? = []) (still : after.serving = serving)
    (owes : after.Owes service name [line]) : Answered service name after (earlier ++ deeds) := by
  obtain ⟨answered, owed, lines_eq, listening, answers⟩ := told
  cases listening
  refine ⟨answered, [line], ?_, owes, ?_⟩
  · rw [List.filterMap_append, heard, List.filter_append, lines_eq, List.append_nil]
    simp [wanted]
  · rw [List.filterMap_append, unsaid, List.append_nil, still]
    exact answers

private theorem Answered.say {serving housed : Bool} {response : Rpc.Response}
    (told : Answered service name ⟨serving, some (.speaking response), [], housed⟩ earlier)
    (unheard : deeds.filterMap Deed.line? = [])
    (said : deeds.filterMap Deed.response? = [response]) (still : after.serving = serving)
    (owes : after.Owes service name []) : Answered service name after (earlier ++ deeds) := by
  obtain ⟨answered, owed, lines_eq, speaking, answers⟩ := told
  cases speaking with
  | @speaking line _ _ last housed =>
      refine ⟨answered ++ [line], [], ?_, owes, ?_⟩
      · rw [List.filterMap_append, unheard, List.append_nil, lines_eq, List.append_nil]
      · rw [List.filterMap_append, said, still]
        exact List.rel_append answers (.cons last .nil)

private theorem Turn.answered (turn : Turn service name before deeds after)
    (told : Answered service name before earlier) :
    Answered service name after (earlier ++ deeds) := by
  cases turn with
  | rest stand => exact told.idle rfl rfl (fun owes => owes) (fun answers => answers)
  | accept serving =>
      refine told.idle rfl rfl (fun owes => ?_) (fun answers => answers)
      cases owes
      exact .listening serving false
  | overhear serving housed demanded =>
      have unwanted := Connection.wants_of_demand demanded
      obtain ⟨answered, owed, lines_eq, owes, answers⟩ := told
      refine ⟨answered, owed, ?_, owes, ?_⟩
      · simpa [Deed.line?, List.filterMap_cons, unwanted] using lines_eq
      · simpa [Deed.response?, List.filterMap_cons] using answers
  | retort serving housed demanded =>
      have retorts := Connection.retorts_of_demand demanded
      exact told.hear retorts.wants rfl rfl rfl (.speaking (.retort retorts) housed)
  | call housed demanded =>
      have calls := Connection.calls_of_demand demanded
      exact told.hear calls.wants rfl rfl rfl (.waiting calls housed)
  | callInVain housed demanded =>
      have calls := Connection.calls_of_demand demanded
      exact told.hear calls.wants rfl rfl rfl (.speaking (.forsaken calls rfl) housed)
  | serve roster id call housed still =>
      refine told.idle rfl rfl (fun owes => ?_) (fun answers => answers)
      cases owes with
      | waiting calls housed => exact .speaking (.reply calls roster) still
  | part housed =>
      refine told.idle rfl rfl (fun owes => ?_) (fun answers => answers)
      cases owes
      exact .closed true [] false
  | write serving response housed => exact told.say rfl rfl rfl (.listening serving housed)
  | hangUp serving housed =>
      refine told.idle (filterMap_posted name _ fun _ => rfl) (filterMap_posted name _ fun _ => rfl)
        (fun owes => ?_) (fun answers => answers)
      cases owes
      exact .closed serving _ housed
  | breakOff serving response housed =>
      refine told.say (filterMap_posted name _ fun _ => rfl) ?_ rfl (.closed serving _ housed)
      exact congrArg (response :: ·) (filterMap_posted name _ fun _ => rfl)
  | stop stand =>
      refine told.idle rfl rfl (fun owes => ?_) .stop
      cases owes with
      | unknown serving housed => exact .unknown false housed
      | listening serving housed => exact .listening false housed
      | waiting calls housed => exact .speaking (.forsaken calls rfl) housed
      | speaking answers housed => exact .speaking answers.stop housed
      | closed serving pending housed => exact .closed false [] housed

/-- All responses have been written, but for the last one of a connection that broke off. -/
def Uttered (stand : Stand) (deeds : List Deed) : Prop :=
  deeds.filterMap Deed.response? = deeds.filterMap Deed.written? ∨
    stand.phase? = some .closed ∧
      ∃ last, deeds.filterMap Deed.response? = deeds.filterMap Deed.written? ++ [last]

private theorem Uttered.idle (told : Uttered before earlier)
    (unsaid : deeds.filterMap Deed.response? = []) (unwritten : deeds.filterMap Deed.written? = [])
    (closed : before.phase? = some .closed → after.phase? = some .closed) :
    Uttered after (earlier ++ deeds) := by
  rw [Uttered, List.filterMap_append, List.filterMap_append, unsaid, unwritten, List.append_nil,
    List.append_nil]
  exact told.imp_right fun broken => ⟨closed broken.1, broken.2⟩

private theorem Turn.uttered (turn : Turn service name before deeds after)
    (told : Uttered before earlier) : Uttered after (earlier ++ deeds) := by
  cases turn with
  | rest | part => exact told.idle rfl rfl fun closed => closed
  | accept | overhear | retort | call | callInVain | serve => exact told.idle rfl rfl nofun
  | hangUp =>
      exact told.idle (filterMap_posted name _ fun _ => rfl) (filterMap_posted name _ fun _ => rfl)
        nofun
  | stop stand => exact told.idle rfl rfl fun closed => by rw [closed]; rfl
  | write serving response housed =>
      rcases told with same | ⟨closed, -⟩
      · left
        rw [List.filterMap_append, List.filterMap_append, same]
        rfl
      · exact absurd closed nofun
  | breakOff serving response housed =>
      rcases told with same | ⟨closed, -⟩
      · refine .inr ⟨rfl, response, ?_⟩
        have unsaid : ((farewell serving name).map (.posted name)).filterMap Deed.response? = [] :=
          filterMap_posted name _ fun _ => rfl
        simp [Deed.response?, Deed.written?, same, unsaid]
      · exact absurd closed nofun

/-- What a connection that has made some calls is to put into the queue. -/
def Stand.due (stand : Stand) (name : String) (calls : List Call) : List Event :=
  calls.map .call ++
    if stand.phase?.any Phase.isClosed then [.ownerChanged (.departure name)] else []

/-- The calls have been put into the queue in order, and after them the departure, as long as
there was a queue. -/
def Announced (name : String) (stand : Stand) (deeds : List Deed) : Prop :=
  let due := stand.due name ((deeds.filterMap Deed.line?).filterMap (called? name))
  deeds.filterMap Deed.event? <+: due ∧
    (stand.serving = true → deeds.filterMap Deed.event? = due)

private theorem Announced.idle (told : Announced name before earlier)
    (uncalled : (deeds.filterMap Deed.line?).filterMap (called? name) = [])
    (unposted : deeds.filterMap Deed.event? = [])
    (closed : after.phase?.any Phase.isClosed = before.phase?.any Phase.isClosed)
    (serving : after.serving = true → before.serving = true) :
    Announced name after (earlier ++ deeds) := by
  simp only [Announced, Stand.due, List.filterMap_append, uncalled, unposted, List.append_nil,
    closed]
  exact ⟨told.1, fun still => told.2 (serving still)⟩

private theorem Announced.extend (told : Announced name before earlier) (calls : List Call)
    (running : before.phase?.any Phase.isClosed = false)
    (called : (deeds.filterMap Deed.line?).filterMap (called? name) = calls)
    (posted : deeds.filterMap Deed.event? = if before.serving then after.due name calls else [])
    (still : after.serving = before.serving) : Announced name after (earlier ++ deeds) := by
  have before_due (made : List Call) : before.due name made = made.map .call := by
    simp [Stand.due, running]
  have after_due (made : List Call) :
      after.due name (made ++ calls) = made.map .call ++ after.due name calls := by
    simp [Stand.due]
  simp only [Announced, before_due] at told
  simp only [Announced, List.filterMap_append, called, posted, after_due, still]
  cases serving : before.serving with
  | true =>
      rw [told.2 serving]
      exact ⟨List.prefix_rfl, fun _ => rfl⟩
  | false =>
      refine ⟨?_, nofun⟩
      simpa using told.1.trans (List.prefix_append ..)

private theorem any_forsaken {view : Phase → Bool}
    (blind : ∀ phase, view phase.forsaken = view phase)
    (phase? : Option Phase) : (phase?.map Phase.forsaken).any view = phase?.any view := by
  cases phase? with
  | none => rfl
  | some phase => exact blind phase

private theorem Turn.announced (turn : Turn service name before deeds after)
    (told : Announced name before earlier) : Announced name after (earlier ++ deeds) := by
  cases turn with
  | rest | accept | serve | part | write => exact told.idle rfl rfl rfl fun serving => serving
  | stop stand =>
      exact told.idle rfl rfl (any_forsaken (fun phase => by cases phase <;> rfl) _) nofun
  | overhear serving housed demanded =>
      exact told.idle (by simp [Deed.line?, called?, demanded]) rfl rfl
        fun serving => serving
  | retort serving housed demanded =>
      exact told.idle (by simp [Deed.line?, called?, demanded]) rfl rfl
        fun serving => serving
  | @call housed line id call demanded =>
      have called : called? name line = some call := by simp [called?, demanded]
      refine told.extend [call] rfl ?_ rfl rfl
      simp [Deed.line?, List.filterMap_cons, called]
  | @callInVain housed line id call demanded =>
      have called : called? name line = some call := by simp [called?, demanded]
      refine told.extend [call] rfl ?_ rfl rfl
      simp [Deed.line?, called]
  | hangUp serving housed =>
      refine told.extend [] rfl ?_ ?_ rfl
      · rw [filterMap_posted name _ fun _ => rfl]
        rfl
      · cases serving <;> rfl
  | breakOff serving response housed =>
      refine told.extend [] rfl ?_ ?_ rfl
      · exact congrArg (List.filterMap _) (filterMap_posted name _ fun _ => rfl)
      · cases serving <;> rfl

/-- The deeds of a connection so far make a dialogue that has led it to where it stands. -/
structure Dialogue (service : Service ω σ) (name : String) (stand : Stand) (deeds : List Deed) :
    Prop where
  answered : Answered service name stand deeds
  uttered : Uttered stand deeds
  announced : Announced name stand deeds

private theorem Turn.dialogue (turn : Turn service name before deeds after)
    (dialogue : Dialogue service name before earlier) :
    Dialogue service name after (earlier ++ deeds) :=
  ⟨turn.answered dialogue.answered, turn.uttered dialogue.uttered,
    turn.announced dialogue.announced⟩

private theorem Turn.busy (turn : Turn service name before deeds after) (silent : deeds = [])
    (busy : before.phase?.any Phase.isBusy = true) : after.phase?.any Phase.isBusy = true := by
  cases turn with
  | rest => exact busy
  | serve => rfl
  | stop => exact (any_forsaken (fun phase => by cases phase <;> rfl) _).trans busy
  | write | breakOff => exact absurd silent (List.cons_ne_nil _ _)
  | accept | overhear | retort | call | callInVain | part | hangUp =>
      exact absurd busy Bool.false_ne_true

end Turns

private theorem Stand.Valid.responds {name : String} {stand : Stand} (valid : stand.Valid name)
    (busy : stand.phase?.any Phase.isBusy = true) (pending_eq : stand.pending = []) :
    ∃ response, stand.phase? = some (.speaking response) := by
  cases valid with
  | speaking serving response housed => exact ⟨response, rfl⟩
  | waiting => exact absurd pending_eq (List.cons_ne_nil _ _)
  | unknown | listening | parting | parted | stranded => exact absurd busy Bool.false_ne_true

namespace Traffic

variable {service : Service ω σ} {traffic : Traffic ω σ} {name : String}

private theorem queue_serve (service : Service ω σ) (traffic : Traffic ω σ) :
    (traffic.serve service).queue = traffic.queue.tail := by
  cases queue : traffic.queue with
  | nil => simp [serve, queue]
  | cons posted rest =>
      obtain ⟨origin, event⟩ := posted
      cases event with
      | call call =>
          rw [serve_call queue, deliver]
          split <;> rfl
      | ownerChanged change =>
          rw [serve_departure queue]
          rfl

/-- The service works its queue off one event after the other, and who waits for a reply waits or
has it. -/
theorem busy_serves (sound : traffic.Sound service) (busy : traffic.isBusy name = true)
    (count : Nat) :
    (run service (List.replicate count .serve) traffic).2.queue = traffic.queue.drop count ∧
      (run service (List.replicate count .serve) traffic).2.isBusy name = true := by
  induction count generalizing traffic with
  | zero => exact ⟨rfl, busy⟩
  | succ count induction =>
      have served_busy : (traffic.serve service).isBusy name = true :=
        (turn_serve sound name).busy rfl busy
      have served := induction (sound.step .serve) served_busy
      rw [List.replicate_succ]
      refine ⟨?_, served.2⟩
      rw [← List.drop_tail, ← queue_serve service traffic]
      exact served.1

private theorem settle (sound : traffic.Sound service) (busy : traffic.isBusy name = true) :
    let settling := List.replicate traffic.queue.length .serve ++ [.write name]
    (run service settling traffic).2.phase? name = some .listening := by
  obtain ⟨queue, still_busy⟩ := busy_serves sound busy traffic.queue.length
  have served := sound.run (List.replicate traffic.queue.length .serve)
  have pending_eq : (run service (List.replicate traffic.queue.length .serve)
      traffic).2.pending name = [] := by
    rw [pending, queue, List.drop_length]
    rfl
  obtain ⟨response, phase⟩ := (served.valid name).responds still_busy pending_eq
  simp only [stand] at phase
  simp [run, step, phase, turn]

/-- Up to any moment of a run of the traffic from a successful start, a connection has answered its
lines in order: each one that wants a response, but for the last one while the connection is busy
with it, and all its responses have been written, but for the last one if the connection broke off.
As long as the service has not stopped, it has put into the queue the calls that its lines make,
in order, and after them its departure if it has ended.  The service and the connection can always
go on until nothing is owed. -/
theorem run_dialogue {roster : Roster ω σ} (begins : service.Begins roster)
    (acts : List (Act ω)) (name : String) :
    let reached := (run service acts (opened roster)).2
    let deeds := deedsOf name (run service acts (opened roster)).1
    let lines := deeds.filterMap Deed.line?
    let responses := deeds.filterMap Deed.response?
    let written := deeds.filterMap Deed.written?
    let posted := deeds.filterMap Deed.event?
    let due := (lines.filterMap (called? name)).map .call ++
      if reached.isClosed name then [.ownerChanged (.departure name)] else []
    (∃ answered owed, lines.filter wants = answered ++ owed ∧
      owed.length = (if reached.isBusy name then 1 else 0) ∧
      List.Forall₂ (Answers service reached.serving name) answered responses) ∧
    (responses = written ∨
      reached.isClosed name = true ∧ ∃ last, responses = written ++ [last]) ∧
    posted <+: due ∧ (reached.serving = true → posted = due) ∧
    (∀ line response, Answers service reached.serving name line response →
      match Rpc.Request.read? line with
      | none => response = ⟨.null, .error .unreadable⟩
      | some request => request.id = some response.id) ∧
    (∀ line call, called? name line = some call ↔ ∃ id, Calls name line id call) ∧
    (reached.isBusy name = true →
      let settling := List.replicate reached.queue.length .serve ++ [.write name]
      (run service settling reached).2.phase? name = some .listening) := by
  intro reached deeds lines responses written posted due
  have begun := sound_opened begins
  have reached_sound : reached.Sound service := begun.run acts
  have opening : Dialogue service name ((opened roster).stand name) [] :=
    ⟨⟨[], [], rfl, .unknown _ _, .nil⟩, .inl rfl, List.prefix_rfl, fun _ => rfl⟩
  have dialogue : Dialogue service name (reached.stand name) ([] ++ deeds) :=
    run_induction (fun turn _ dialogue => turn.dialogue dialogue) begun opening acts
  obtain ⟨⟨answered, owed, lines_eq, owes, answers⟩, uttered, announced⟩ := dialogue
  refine ⟨⟨answered, owed, lines_eq, owes.length_eq, answers⟩, ?_, announced.1, announced.2,
    fun line response answers => answers.id_eq, fun line call => Connection.called?_eq_some,
    settle reached_sound⟩
  exact uttered.imp_right fun broken => ⟨isClosed_iff.mpr broken.1, broken.2⟩

end Traffic

/-- A client sends a blank line, one that is no message, a notification, a request without a dot
and one with, and leaves. -/
def Rehearsal.chat : List (Act Stage) :=
  [.accept, .hear ":1.1" " ", .hear ":1.1" "oops", .write ":1.1",
    .hear ":1.1" "[\"2.0\", \"a\"]", .hear ":1.1" "[\"2.0\", \"a\", null, 7]", .write ":1.1",
    .hear ":1.1" "[\"2.0\", \"a.b\", [\"/\"], 8]", .serve, .write ":1.1", .hangUp ":1.1"]

theorem Traffic.run_dialogue_chat :
    let chatted := run Rehearsal.service Rehearsal.chat (opened Rehearsal.roster)
    let lines := (deedsOf ":1.1" chatted.1).filterMap Deed.line?
    Rehearsal.service.Begins Rehearsal.roster ∧ chatted.2.serving = true ∧
      chatted.2.isClosed ":1.1" = true ∧ lines.length = 5 ∧ (lines.filter wants).length = 3 ∧
      ((deedsOf ":1.1" chatted.1).filterMap Deed.written?).length = 3 ∧
      (lines.filterMap (called? ":1.1")).length = 1 ∧
      (deedsOf ":1.1" chatted.1).filterMap Deed.event? =
        (lines.filterMap (called? ":1.1")).map .call ++ [.ownerChanged (.departure ":1.1")] := by
  have facts :
      let chatted := run Rehearsal.service Rehearsal.chat (opened Rehearsal.roster)
      let lines := (deedsOf ":1.1" chatted.1).filterMap Deed.line?
      chatted.2.serving = true ∧
        chatted.2.isClosed ":1.1" = true ∧ lines.length = 5 ∧ (lines.filter wants).length = 3 ∧
        ((deedsOf ":1.1" chatted.1).filterMap Deed.written?).length = 3 ∧
        (lines.filterMap (called? ":1.1")).length = 1 := by decide +kernel
  obtain ⟨serving, closed, heard, wanted, written, called⟩ := facts
  obtain ⟨-, -, -, posted, -⟩ := run_dialogue Rehearsal.begins Rehearsal.chat ":1.1"
  have due := posted serving
  rw [if_pos closed] at due
  exact ⟨Rehearsal.begins, serving, closed, heard, wanted, written, called, due⟩

end LintBus

import LintBus.Proofs.Rpc.Schedule
import LintBus.Proofs.Service.Identity

/-!
# Departure of clients

In whichever order connections and service come to act, a session does not outlive its connection:
while the service works its queue off, each session belongs to a connection that is still open or
whose departure is in the queue.  The departure is the last that comes from a connection, so once
it has been handled nothing of the client is left, and nothing of it comes back.
-/

namespace LintBus

variable {ω σ : Type}

private theorem Stand.Valid.of_housed {name : String} {stand : Stand} (valid : stand.Valid name)
    (serving : stand.serving = true) (housed : stand.housed = true) :
    (stand.phase?.any fun phase => !phase.isClosed) = true ∨
      .ownerChanged (.departure name) ∈ stand.pending := by
  cases valid with
  | unknown | parted => exact absurd housed Bool.false_ne_true
  | listening | waiting | speaking => exact .inl rfl
  | parting => exact .inr List.mem_cons_self
  | stranded => exact absurd serving Bool.false_ne_true

/-- A connection has ended, nothing of it is in the queue, and there is no session. -/
structure Stand.Gone (stand : Stand) : Prop where
  ended : stand.phase? = some .closed
  pending_eq : stand.pending = []
  housed_eq : stand.housed = false

private theorem Stand.Valid.gone {name : String} {stand : Stand} (valid : stand.Valid name)
    (serving : stand.serving = true) (ended : stand.phase? = some .closed)
    (pending_eq : stand.pending = []) : stand.Gone := by
  refine ⟨ended, pending_eq, ?_⟩
  cases valid with
  | parted => rfl
  | unknown | listening | waiting | speaking => simp at ended
  | parting => simp at pending_eq
  | stranded => simp at serving

private theorem Turn.gone {service : Service ω σ} {name : String} {before after : Stand}
    {deeds : List Deed} (turn : Turn service name before deeds after) (gone : before.Gone) :
    after.Gone := by
  obtain ⟨ended, pending_eq, housed_eq⟩ := gone
  cases turn with
  | rest stand => exact ⟨ended, pending_eq, housed_eq⟩
  | stop stand => exact ⟨by rw [ended]; rfl, rfl, housed_eq⟩
  | part => simp at pending_eq
  | accept | overhear | retort | call | callInVain | serve | write | hangUp | breakOff =>
      simp at ended

namespace Traffic

variable {service : Service ω σ} {traffic : Traffic ω σ} {name : String}

private theorem mem_pending {event : Event} :
    event ∈ traffic.pending name ↔ ⟨name, event⟩ ∈ traffic.queue := by
  simp only [pending, List.mem_map, List.mem_filter, beq_iff_eq]
  constructor
  · rintro ⟨⟨origin, event⟩, ⟨queued, rfl⟩, rfl⟩
    exact queued
  · exact fun queued => ⟨_, ⟨queued, rfl⟩, rfl⟩

private theorem pending_eq_nil_iff :
    traffic.pending name = [] ↔ ∀ posted ∈ traffic.queue, posted.origin ≠ name := by
  simp [pending, List.filter_eq_nil_iff]

private theorem Sound.anchored (sound : traffic.Sound service) (serving : traffic.serving = true)
    {session : Session σ} (session_mem : session ∈ traffic.roster.sessions) :
    traffic.isOpen session.identity = true ∨
      ⟨session.identity, .ownerChanged (.departure session.identity)⟩ ∈ traffic.queue := by
  have housed : traffic.roster.contains session.identity = true := by
    rw [Roster.contains, Roster.session?_eq_some sound.orderly.identities session_mem]
    rfl
  exact ((sound.valid session.identity).of_housed serving housed).imp_right mem_pending.mp

private theorem gone_run (sound : traffic.Sound service) (gone : (traffic.stand name).Gone)
    (acts : List (Act ω)) : ((run service acts traffic).2.stand name).Gone := by
  induction acts generalizing traffic with
  | nil => exact gone
  | cons act rest induction =>
      exact induction (sound.step act) ((turn_step sound act name).gone gone)

private theorem follows_run (sound : traffic.Sound service) (acts : List (Act ω)) :
    (run service acts traffic).2.roster.Follows traffic.roster := by
  obtain ⟨occurrences, moved⟩ := roster_run service acts traffic
  rw [moved]
  exact Service.course_follows sound.orderly sound.agrees occurrences

private theorem follows_take (sound : traffic.Sound service) (acts : List (Act ω)) (count : Nat) :
    (run service acts traffic).2.roster.Follows
      (run service (acts.take count) traffic).2.roster := by
  have follows := follows_run (sound.run (acts.take count)) (acts.drop count)
  have run_eq := congrArg Prod.snd
    (run_append service (acts.take count) (acts.drop count) traffic)
  rw [List.take_append_drop] at run_eq
  rw [run_eq]
  exact follows

/-- An object path that a document of a client has had leads nowhere once the client has no
session. -/
theorem interfaces_of_absent {before after : Roster ω σ} (follows : after.Follows before)
    (orderly_before : before.Orderly service.addressing)
    (orderly : after.Orderly service.addressing) (agrees : service.Agrees after)
    (absent : after.session? name = none) {document : Document}
    (held : document ∈ before.documentsOf name) :
    after.around.bus.interfaces document.object = [] := by
  obtain ⟨former, found, document_mem⟩ := Roster.mem_documentsOf.mp held
  obtain ⟨former_mem, former_identity⟩ := Roster.session?_some found
  have holds := Roster.holds_document former_mem document_mem
  by_contra shown
  rcases agrees.exported shown with same | same | ⟨handle, ⟨session, session_mem, held⟩, same⟩
  · exact orderly_before.ne_serviceObject holds same
  · exact orderly_before.ne_placeholderObject holds same
  · obtain ⟨-, continues, -⟩ := (Roster.Follows.refl after).held_between follows orderly_before
      orderly former_mem (Documents.handle_mem document_mem) session_mem held same.symm
    exact Roster.session?_none.mp absent session session_mem
      (continues.identity_eq.trans former_identity)

private theorem sessions_open {roster : Roster ω σ} {endpoint : Endpoint ω σ}
    (begins : service.Begins roster) (reached : endpoint.Reached service roster) :
    ∀ session ∈ endpoint.roster.sessions, session.identity ∈ endpoint.names := by
  intro session session_mem
  obtain ⟨acts, rests⟩ := reached.scheduled begins
  have sound := (sound_opened begins).run acts
  rw [← rests.roster_eq] at session_mem
  rcases sound.anchored rests.serving session_mem with running | queued
  · by_contra unnamed
    rw [rests.silent session.identity unnamed] at running
    exact Bool.false_ne_true running
  · rw [rests.queue_eq] at queued
    exact absurd queued List.not_mem_nil

/-- In every run of the traffic from a successful start, while the service has not stopped, each
session belongs to a connection that is open or whose departure is in the queue.  When a connection
has ended and nothing of it is left in the queue, its client has no session then or later, nothing
is put into the queue in its name, and no object that a document of it had is exported.  An
endpoint, which deals with each line to the end, is where such a run leads, and each of its sessions
belongs to a connection that is open. -/
theorem run_departed {roster : Roster ω σ} (begins : service.Begins roster)
    (earlier later : List (Act ω)) :
    let reached := (run service earlier (opened roster)).2
    let after := (run service later reached).2
    (reached.serving = true → ∀ session ∈ reached.roster.sessions,
      reached.isOpen session.identity = true ∨
        ⟨session.identity, .ownerChanged (.departure session.identity)⟩ ∈ reached.queue) ∧
    (∀ name, reached.serving = true → reached.isClosed name = true →
      (∀ posted ∈ reached.queue, posted.origin ≠ name) →
      after.isClosed name = true ∧ (∀ posted ∈ after.queue, posted.origin ≠ name) ∧
        after.roster.session? name = none ∧
        ∀ count, ∀ document ∈
            (run service (earlier.take count) (opened roster)).2.roster.documentsOf name,
          after.roster.around.bus.interfaces document.object = []) ∧
    ∀ endpoint : Endpoint ω σ, endpoint.Reached service roster →
      (∃ acts, endpoint.Rests (run service acts (opened roster)).2) ∧
        ∀ session ∈ endpoint.roster.sessions, session.identity ∈ endpoint.names := by
  intro reached after
  have begun := sound_opened begins
  have sound : reached.Sound service := begun.run earlier
  have sound_after : after.Sound service := sound.run later
  refine ⟨?anchored, ?departed, ?scheduled⟩
  case anchored => exact fun serving session session_mem => sound.anchored serving session_mem
  case scheduled =>
    exact fun endpoint endpoint_reached =>
      ⟨endpoint_reached.scheduled begins, sessions_open begins endpoint_reached⟩
  case departed =>
    intro name serving closed unqueued
    have gone := (sound.valid name).gone serving (isClosed_iff.mp closed)
      (pending_eq_nil_iff.mpr unqueued)
    obtain ⟨ended, pending_eq, housed_eq⟩ := gone_run sound gone later
    have absent : after.roster.session? name = none := by
      simpa [stand, Roster.contains] using housed_eq
    refine ⟨isClosed_iff.mpr ended, pending_eq_nil_iff.mp pending_eq, absent, ?_⟩
    intro count document held
    have sound_before := begun.run (earlier.take count)
    have follows := (follows_run sound later).trans (follows_take begun earlier count)
    exact interfaces_of_absent follows sound_before.orderly sound_after.orderly sound_after.agrees
      absent held

end Traffic

/-- The line with which a client asks to parse the file at a path. -/
def Rehearsal.parseLine (path : String) : String :=
  "[\"2.0\", \"org.gnome.CodeAssist.v1.Service.Parse\", [\"/org/gnome/CodeAssist/v1/css\", [\"" ++
    path ++ "\", \"\", [0, 0], \x7b\x7d]], 1]"

/-- A client has a file parsed and leaves while another one is connected. -/
def Rehearsal.farewells : List (Act Stage) :=
  [.accept, .accept, .hear ":1.1" (Rehearsal.parseLine "a.css"), .serve, .write ":1.1",
    .hangUp ":1.1", .serve]

theorem Traffic.run_departed_farewells :
    let before := (run Rehearsal.service (Rehearsal.farewells.take 4) (opened Rehearsal.roster)).2
    let reached := (run Rehearsal.service Rehearsal.farewells (opened Rehearsal.roster)).2
    let after := (run Rehearsal.service [.accept, .hangUp ":1.2", .serve] reached).2
    Rehearsal.service.Begins Rehearsal.roster ∧
      reached.serving = true ∧ reached.isClosed ":1.1" = true ∧
      (∀ posted ∈ reached.queue, posted.origin ≠ ":1.1") ∧
      (before.roster.documentsOf ":1.1").length = 1 ∧
      ∀ document ∈ before.roster.documentsOf ":1.1",
        after.roster.around.bus.interfaces document.object = [] := by
  have facts :
      let before := (run Rehearsal.service (Rehearsal.farewells.take 4) (opened Rehearsal.roster)).2
      let reached := (run Rehearsal.service Rehearsal.farewells (opened Rehearsal.roster)).2
      reached.serving = true ∧ reached.isClosed ":1.1" = true ∧
        (∀ posted ∈ reached.queue, posted.origin ≠ ":1.1") ∧
        (before.roster.documentsOf ":1.1").length = 1 := by decide +kernel
  obtain ⟨serving, closed, unqueued, held⟩ := facts
  obtain ⟨-, -, -, retracted⟩ := (run_departed Rehearsal.begins Rehearsal.farewells
    [.accept, .hangUp ":1.2", .serve]).2.1 ":1.1" serving closed unqueued
  exact ⟨Rehearsal.begins, serving, closed, unqueued, held, retracted 4⟩

end LintBus

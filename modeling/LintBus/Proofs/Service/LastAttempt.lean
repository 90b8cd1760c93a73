import LintBus.Proofs.Client.Attempt
import LintBus.Proofs.Service.Isolation
import LintBus.Proofs.Service.Surface

/-!
# Reading diagnostics

What a client reads at the object of a document is what the last attempt left there that named the
document and reached the backend.  Nothing else that happens in between makes a difference, and
neither does the order in which sessions and documents are searched for the object.
-/

namespace LintBus

namespace Roster

variable {ω σ : Type} {service : Service ω σ} {roster after : Roster ω σ} {identity : String}

/-- A document that is open after others have been opened was open before, unless it is one of
them. -/
theorem mem_documentsOf_openEach {openings : List Opening} {document : Document}
    (opened : roster.openEach service identity openings = (.ok (), after))
    (held : document ∈ after.documentsOf identity)
    (unnamed : ProjectRun.inScope (openings.map (service.addressing.canonical ·.path))
      document.path = false) :
    document ∈ roster.documentsOf identity := by
  by_cases none_opened : openings = []
  · subst none_opened
    obtain rfl : roster = after := congrArg Prod.snd opened
    exact held
  · obtain ⟨session, found, held⟩ := mem_documentsOf.mp held
    rw [openEach_ok none_opened opened, Option.some.injEq] at found
    rw [← documents_sessionFor service roster identity]
    exact Session.mem_openingEach (found ▸ held) unnamed

private theorem exportedAt?_eq (roster : Roster ω σ) (object : String) :
    roster.exportedAt? object = roster.documents.find? (·.object == object) := by
  rw [documents, List.find?_flatMap]
  rfl

/-- In whatever order documents with distinct objects are searched, each is found at its object. -/
theorem exportedAt?_of_mem (distinct : (roster.documents.map Document.object).Nodup)
    {document : Document} (held : document ∈ roster.documents) :
    roster.exportedAt? document.object = some document := by
  rw [exportedAt?_eq]
  cases found : roster.documents.find? (·.object == document.object) with
  | none =>
      have unlike := List.find?_eq_none.mp found document held
      simp at unlike
  | some other =>
      have same : other.object = document.object := by simpa using List.find?_some found
      rw [List.inj_on_of_nodup_map distinct (List.mem_of_find?_eq_some found) held same]

end Roster

namespace Service

variable {ω σ : Type} {service : Service ω σ} {roster : Roster ω σ}

/-- What a job leaves at a path of a session in which its documents are open. -/
def jobLeaves (service : Service ω σ) (session : Session σ) (world : ω) (path : FilePath) :
    Job → Option (List Diagnostic)
  | .parse request =>
      session.parseLeaves service.backend world (service.addressing.canonical request.path)
        request.options
  | .parseAll request =>
      session.parseAllLeaves service.backend world (service.addressing.canonical request.path)
        (request.members.map (service.addressing.canonical ·.1)) request.options path
  | .close _ | .diagnostics => none

/-- What a call leaves at a path of its sender, if it is an attempt that names the path and reaches
the backend. -/
def leaves (service : Service ω σ) (roster : Roster ω σ) (call : Call) (path : FilePath) :
    Option (List Diagnostic) :=
  match job? roster call with
  | none => none
  | some job =>
      match roster.openEach service call.sender job.openings with
      | (.error _, _) => none
      | (.ok (), opened) =>
          if ProjectRun.inScope (service.scope job) path then
            (opened.session? call.sender).bind
              (service.jobLeaves · opened.around.world path job)
          else none

/-- A document after a job has what the job leaves there, or the job does not name it and it is as
before. -/
theorem mem_proceed (ready : roster.Ready service) {sender path : String} {job : Job}
    {document : Document}
    (held : document ∈ (service.proceed roster sender path job).2.documentsOf sender) :
    ProjectRun.inScope (service.scope job) document.path = true ∧
        (roster.session? sender).bind
          (service.jobLeaves · roster.around.world document.path job) =
            some document.diagnostics ∨
      ProjectRun.inScope (service.scope job) document.path = false ∧
        document ∈ roster.documentsOf sender := by
  cases job with
  | parse request =>
      rw [proceed_parse] at held
      cases found : roster.session? sender with
      | none =>
          simp only [Roster.parse, found, Roster.documentsOf, Option.elim_none] at held
          exact absurd held List.not_mem_nil
      | some session =>
          obtain ⟨after, parsed, kept⟩ := Roster.parse_found ready.orderly found
            (service.addressing.canonical request.path) request.options
          rw [parsed, Roster.documentsOf, kept, Option.elim_some] at held
          rcases Session.mem_parse held with ⟨same, left_eq⟩ | ⟨different, held⟩
          · exact .inl ⟨by simp [ProjectRun.inScope, same], left_eq⟩
          · refine .inr ⟨by simp [ProjectRun.inScope, different], ?_⟩
            exact Roster.mem_documentsOf.mpr ⟨session, found, held⟩
  | close closed =>
      refine .inr ⟨rfl, ?_⟩
      obtain ⟨remaining, remains, held⟩ := Roster.mem_documentsOf.mp held
      have closing : (roster.session? sender).bind _ = some remaining :=
        (roster.session?_closeDocument service sender closed).symm.trans remains
      obtain ⟨session, found, closing⟩ := Option.bind_eq_some_iff.mp closing
      exact Roster.mem_documentsOf.mpr ⟨session, found, Session.mem_closing closing held⟩
  | parseAll request =>
      rw [proceed_parseAll] at held
      cases found : roster.session? sender with
      | none =>
          simp only [Roster.parseAll, found, Roster.documentsOf, Option.elim_none] at held
          exact absurd held List.not_mem_nil
      | some session =>
          obtain ⟨after, parsed, kept⟩ := Roster.parseAll_found found
            (service.addressing.canonical request.path)
            (request.members.map (service.addressing.canonical ·.1)) request.options
          have session_mem := (Roster.session?_some found).1
          have distinct := (ready.orderly.sessions session session_mem).distinct
          rw [parsed, Roster.documentsOf, kept, Option.elim_some] at held
          rw [scope_parseAll]
          rcases Session.mem_parseAll distinct held with ⟨named, left_eq⟩ | ⟨unnamed, held⟩
          · exact .inl ⟨named, left_eq⟩
          · exact .inr ⟨unnamed, Roster.mem_documentsOf.mpr ⟨session, found, held⟩⟩
  | diagnostics => exact .inr ⟨rfl, held⟩

/-- A document after a call of its client has what the call leaves there, or the call is no attempt
that names it and it is as before. -/
theorem mem_answer (ready : roster.Ready service) {call : Call} {document : Document}
    (held : document ∈ (service.answer roster call).2.documentsOf call.sender) :
    service.leaves roster call document.path = some document.diagnostics ∨
      service.leaves roster call document.path = none ∧
        document ∈ roster.documentsOf call.sender := by
  cases found : job? roster call with
  | none =>
      rw [answer_idle found] at held
      exact .inr ⟨by rw [leaves, found], held⟩
  | some job =>
      obtain ⟨method, -, -, answered⟩ := answer_job service found
      obtain ⟨opened, opened_ok⟩ := Roster.openEach_ready ready call.sender job.openings
      have moves := Roster.moves_openEach job.openings ready.orderly ready.agrees call.sender
      rw [opened_ok] at moves
      rw [answered, perform_opened opened_ok] at held
      have leaves_eq : service.leaves roster call document.path =
          if ProjectRun.inScope (service.scope job) document.path then
            (opened.session? call.sender).bind
              (service.jobLeaves · opened.around.world document.path job)
          else none := by
        rw [leaves, found]
        simp only [opened_ok]
      rcases mem_proceed (moves.ready ready) held with ⟨named, left_eq⟩ | ⟨unnamed, held⟩
      · exact .inl (by rw [leaves_eq, if_pos named, left_eq])
      · refine .inr ⟨by simp [leaves_eq, unnamed], ?_⟩
        exact Roster.mem_documentsOf_openEach opened_ok held unnamed

/-- What an occurrence leaves at a path of a client, if it is an attempt of the client. -/
def leavesBy (service : Service ω σ) (client : String) (path : FilePath) (roster : Roster ω σ) :
    Occurrence ω → Option (List Diagnostic)
  | .event (.call call) => if call.sender = client then service.leaves roster call path else none
  | .event (.ownerChanged _) | .gate _ | .world _ => none

/-- What the last attempt of a client in a course leaves at a path. -/
def lastLeft (service : Service ω σ) (client : String) (path : FilePath) :
    List (Occurrence ω) → Roster ω σ → Option (List Diagnostic)
  | [], _ => none
  | occurrence :: rest, roster =>
      (service.lastLeft client path rest (service.react roster occurrence)).or
        (service.leavesBy client path roster occurrence)

private theorem mem_react (ready : roster.Ready service) {client : String}
    {occurrence : Occurrence ω}
    {document : Document}
    (held : document ∈ (service.react roster occurrence).documentsOf client) :
    service.leavesBy client document.path roster occurrence = some document.diagnostics ∨
      service.leavesBy client document.path roster occurrence = none ∧
        document ∈ roster.documentsOf client := by
  cases occurrence with
  | gate gate => exact .inr ⟨rfl, held⟩
  | world world => exact .inr ⟨rfl, held⟩
  | event event =>
      rw [react] at held
      by_cases own : event.client? = some client
      · cases event with
        | call call =>
            obtain rfl : call.sender = client := by simpa [Event.client?] using own
            simp only [leavesBy, if_true]
            exact mem_answer ready held
        | ownerChanged change =>
            rw [handle_departed own, Roster.documentsOf, Roster.session?_dismiss,
              if_pos rfl] at held
            exact absurd held List.not_mem_nil
      · rw [Roster.documentsOf, handle_frame ready.orderly ready.agrees own] at held
        refine .inr ⟨?_, held⟩
        cases event with
        | call call =>
            rw [leavesBy, if_neg]
            exact fun same => own (congrArg some same)
        | ownerChanged change => rfl

private theorem react_ready (ready : roster.Ready service) {occurrence : Occurrence ω}
    (ungated : ∀ gate, occurrence ≠ .gate gate) :
    (service.react roster occurrence).Ready service := by
  cases occurrence with
  | gate gate => exact absurd rfl (ungated gate)
  | world world =>
      obtain ⟨orderly, agrees, admits⟩ := ready
      obtain ⟨orderly, agrees⟩ := react_sound orderly agrees (.world world)
      exact ⟨orderly, agrees, admits⟩
  | event event =>
      rw [react]
      cases client : event.client? with
      | none =>
          rw [handle_idle client]
          exact ready
      | some identity => exact (moves_handle ready.orderly ready.agrees client).ready ready

theorem course_ready (occurrences : List (Occurrence ω)) (ready : roster.Ready service)
    (ungated : ∀ gate, .gate gate ∉ occurrences) :
    (service.course occurrences roster).Ready service := by
  induction occurrences generalizing roster with
  | nil => exact ready
  | cons occurrence rest induction =>
      have first_ungated : ∀ gate, occurrence ≠ .gate gate := by
        rintro gate rfl
        exact ungated gate List.mem_cons_self
      exact induction (react_ready ready first_ungated)
        fun gate listed => ungated gate (List.mem_cons_of_mem _ listed)

/-- A document that is open after a course has what the last attempt in it has left there, or
there was none and it is as before. -/
theorem mem_course (occurrences : List (Occurrence ω)) (ready : roster.Ready service)
    (ungated : ∀ gate, .gate gate ∉ occurrences) {client : String} {document : Document}
    (held : document ∈ (service.course occurrences roster).documentsOf client) :
    service.lastLeft client document.path occurrences roster = some document.diagnostics ∨
      service.lastLeft client document.path occurrences roster = none ∧
        document ∈ roster.documentsOf client := by
  induction occurrences generalizing roster with
  | nil => exact .inr ⟨rfl, held⟩
  | cons occurrence rest induction =>
      have first_ungated : ∀ gate, occurrence ≠ .gate gate := by
        rintro gate rfl
        exact ungated gate List.mem_cons_self
      have first_ready := react_ready ready first_ungated
      have rest_ungated : ∀ gate, .gate gate ∉ rest :=
        fun gate listed => ungated gate (List.mem_cons_of_mem _ listed)
      rw [lastLeft]
      rcases induction first_ready rest_ungated held with later | ⟨later, held⟩
      · exact .inl (by rw [later, Option.some_or])
      · rw [later, Option.none_or]
        exact mem_react ready held

private theorem answer_read {call : Call} (routed : Routed roster call .diagnostics)
    {diagnostics : List Diagnostic}
    (found : service.diagnostics roster call.path = .ok [Diagnostic.listToValue diagnostics]) :
    service.answer roster call = (.ok [Diagnostic.listToValue diagnostics], roster) := by
  have decoded : Job.ofArgs .diagnostics call.args = .ok .diagnostics := rfl
  rw [answer_of_job routed.1 routed.2 decoded]
  simp only [perform, found, Except.bind, Call.answerWith, checkText_diagnostics]

/-- In every course of a service for diagnostics on a bus for object paths, what anybody reads at
the object of a document is what the last attempt of its client left there that named the document
and reached the backend, in whatever order sessions and documents are searched.  At the placeholder
nothing is ever found. -/
theorem course_diagnostics {backend : Backend ω σ} {baseDirectory : FilePath} {bus : Bus}
    (started : (ofBackend backend baseDirectory).start .empty = (.ok (), bus))
    (diagnosing : .diagnostics ∈ backend.capabilities) (world : ω)
    (occurrences : List (Occurrence ω)) (ungated : ∀ gate, .gate gate ∉ occurrences) :
    let service := ofBackend backend baseDirectory
    let begun : Roster ω σ := .opened bus world
    let after := service.course occurrences begun
    let read := fun sender object args =>
      (⟨sender, object, Interface.diagnostics.name, "Diagnostics", args⟩ : Call)
    ∀ searched : Roster ω σ, searched.around = after.around →
      searched.documents.Perm after.documents →
      (∀ client, ∀ document ∈ after.documentsOf client, ∀ sender args,
        ∃ left, service.lastLeft client document.path occurrences begun = some left ∧
          service.answer searched (read sender document.object args) =
            (.ok [Diagnostic.listToValue left], searched)) ∧
      ∀ sender args,
        service.answer searched (read sender service.addressing.placeholderObject args) =
          (.ok [Diagnostic.listToValue []], searched) := by
  intro service begun after read searched around_eq permuted
  have ready := start_ready started world
  obtain ⟨orderly, agrees⟩ := course_sound ready.orderly ready.agrees occurrences
  have shown : ∀ sender object args, (object = service.addressing.placeholderObject ∨
      ∃ document ∈ after.documents, object = document.object) →
      Routed searched (read sender object args) .diagnostics := by
    intro sender object args standing
    have routed : Routed after (read sender object args) .diagnostics :=
      agrees.routed_iff.mpr ⟨by decide, rfl, rfl, .inr (.inr ⟨standing, rfl, diagnosing⟩)⟩
    rwa [Routed, resolve, ← around_eq] at routed
  refine ⟨fun client document held sender args => ?_, fun sender args => ?_⟩
  · have open_in := after.documentsOf_subset client held
    rcases mem_course occurrences ready ungated held with left_eq | ⟨-, held⟩
    · refine ⟨document.diagnostics, left_eq, answer_read (shown sender _ args ?_) ?_⟩
      · exact .inr ⟨document, open_in, rfl⟩
      · have apart : document.object ≠ service.addressing.placeholderObject :=
          orderly.ne_placeholderObject (Roster.holds_of_mem_documents open_in)
        have distinct := (permuted.map Document.object).nodup_iff.mpr orderly.objects_nodup
        have found := Roster.exportedAt?_of_mem distinct (permuted.mem_iff.mpr open_in)
        change service.diagnostics searched document.object = _
        rw [diagnostics, if_neg apart, found]
    · exact absurd held List.not_mem_nil
  · refine answer_read (shown sender _ args (.inl rfl)) ?_
    simp [diagnostics, read, Diagnostic.listToValue]

end Service

/-- One client has a project parsed, and another opens the same root. -/
def Rehearsal.exchange : List (Occurrence Stage) :=
  [.event (.call (Rehearsal.parseAll ":1.7" "a.css" ["b.css"] (Rehearsal.scribble "first" []))),
    .event (Rehearsal.parse ":1.8" "a.css")]

theorem Service.course_diagnostics_exchange :
    (Rehearsal.service.start .empty).1 = .ok () ∧
      ((Rehearsal.service.course Rehearsal.exchange Rehearsal.roster).documentsOf ":1.7").map
        (·.diagnostics.length) = [1, 0] ∧
      ∀ document ∈
          (Rehearsal.service.course Rehearsal.exchange Rehearsal.roster).documentsOf ":1.7",
        ∃ left, Rehearsal.service.lastLeft ":1.7" document.path Rehearsal.exchange
            Rehearsal.roster = some left ∧
          Rehearsal.service.answer (Rehearsal.service.course Rehearsal.exchange Rehearsal.roster)
            ⟨":1.9", document.object, Interface.diagnostics.name, "Diagnostics", []⟩ =
              (.ok [Diagnostic.listToValue left],
                Rehearsal.service.course Rehearsal.exchange Rehearsal.roster) := by
  have started : Rehearsal.service.start .empty =
      (.ok (), (Rehearsal.service.start .empty).2) := by rfl
  have ungated : ∀ gate, .gate gate ∉ Rehearsal.exchange := by
    intro gate listed
    simp [Rehearsal.exchange] at listed
  have reads := (course_diagnostics started (by decide) (Scripted.stage ⟨[], []⟩)
    Rehearsal.exchange ungated _ rfl .rfl).1
  exact ⟨congrArg Prod.fst started, by decide +kernel,
    fun document held => reads ":1.7" document held ":1.9" []⟩

end LintBus

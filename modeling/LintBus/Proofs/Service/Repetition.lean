import LintBus.Proofs.Backend.Stylesheets
import LintBus.Proofs.Client.Confinement
import LintBus.Proofs.Client.Reopening
import LintBus.Proofs.Service.LastAttempt
import LintBus.Proofs.Service.Oblivion

/-!
# Repeated calls

A backend that leaves the world and the states of sessions as they are makes of a call to parse,
when it is repeated, what it has made of it before: opening the documents again changes nothing, and
what they were diagnosed with by the first call is cleared.
-/

namespace LintBus

variable {ω σ : Type}

/-- The handlers of a backend leave the world and the state of a session as they are. -/
structure Backend.Steady (backend : Backend ω σ) : Prop where
  parse : ∀ world state document options,
    (backend.parse world state document options).world = world ∧
      (backend.parse world state document options).state = state
  parseAll : ∀ world state root members options scope documents,
    ((backend.parseAll world state root members options).run scope documents).2.world = world ∧
      ((backend.parseAll world state root members options).run scope documents).2.state = state

private theorem Backend.Confined.steady {addressing : Addressing} {backend : Backend ω Unit}
    (confined : backend.Confined addressing) : backend.Steady where
  parse world state document options := ⟨confined.parse_world world state document options, rfl⟩
  parseAll world state root members options scope documents :=
    ⟨(confined.parseAll world state root members options).run_world scope documents, rfl⟩

namespace Session

variable {session revised : Session σ} {scope : List FilePath} {backend : Backend ω σ}

private theorem Revises.cleared_eq (revises : revised.Revises session)
    (state_eq : revised.state = session.state)
    (documents_eq : clearDiagnostics scope revised.documents =
      clearDiagnostics scope session.documents) :
    revised.cleared scope = session.cleared scope := by
  simp only [cleared, documents_eq, state_eq, revises.id_eq, revises.identity_eq,
    revises.nextDocument_eq]

private theorem parse_steady (steady : backend.Steady)
    (distinct : Documents.Distinct session.handles)
    (world : ω) (path : FilePath) (options : Options) :
    (session.parse backend world path options).2.1.cleared [path] = session.cleared [path] ∧
      (session.parse backend world path options).2.2 = world := by
  have revises := parse_revises distinct backend world path options
  cases found : session.documents.find? path with
  | none => simp only [parse, found, and_self]
  | some document =>
      obtain ⟨world_eq, state_eq⟩ :=
        steady.parse world session.state (document.diagnosed []) options
      simp only [parse, found, Document.conclude_diagnosed,
        Documents.update_diagnosed distinct found] at revises ⊢
      exact ⟨revises.cleared_eq state_eq
        (clearDiagnostics_update (by simp [ProjectRun.inScope]) _ _), world_eq⟩

/-- With a steady backend parsing a project changes nothing but the diagnostics of its
documents. -/
theorem parseAll_steady (steady : backend.Steady) (session : Session σ) (world : ω)
    (root : FilePath) (members : List FilePath) (options : Options) :
    (session.parseAll backend world root members options).2.1.cleared (root :: members) =
        session.cleared (root :: members) ∧
      (session.parseAll backend world root members options).2.2 = world := by
  have revises := session.parseAll_revises backend world root members options
  have documents_eq := session.clearDiagnostics_parseAll backend world root members options
  obtain ⟨world_eq, state_eq⟩ := steady.parseAll world session.state root members options
    (root :: members) (clearDiagnostics (root :: members) session.documents)
  have kept : (session.parseAll backend world root members options).2.1.state = session.state ∧
      (session.parseAll backend world root members options).2.2 = world := by
    simp only [parseAll]
    split
    all_goals exact ⟨state_eq, world_eq⟩
  exact ⟨revises.cleared_eq kept.1 documents_eq, kept.2⟩

end Session

namespace Roster

variable {roster : Roster ω σ} {client : String} {session revised : Session σ}

/-- Replacing a session by one that differs at most by diagnostics in a scope changes at most
these. -/
theorem cleared_revised (identities : (roster.sessions.map Session.identity).Nodup)
    (found : roster.session? client = some session) (scope : List FilePath)
    (identity_eq : revised.identity = session.identity)
    (same : revised.cleared scope = session.cleared scope) :
    (roster.setSession revised).cleared client scope = roster.cleared client scope := by
  obtain ⟨session_mem, rfl⟩ := session?_some found
  rw [cleared_setSession scope roster revised identity_eq, same,
    ← cleared_setSession scope roster session rfl, setSession_self identities session_mem]

end Roster

namespace Service

variable {service : Service ω σ} {roster opened : Roster ω σ} {sender path : String} {job : Job}

/-- What is left of a job when its documents are open changes at most their diagnostics. -/
theorem cleared_proceed (steady : service.backend.Steady)
    (orderly : opened.Orderly service.addressing) (opens : job.openings ≠ []) :
    (service.proceed opened sender path job).2.cleared sender (service.scope job) =
      opened.cleared sender (service.scope job) := by
  cases job with
  | parse request =>
      rw [proceed_parse, scope_parse, Roster.parse]
      cases found : opened.session? sender with
      | none => rfl
      | some session =>
          have distinct := (orderly.sessions session (Roster.session?_some found).1).distinct
          have revises := Session.parse_revises distinct service.backend opened.around.world
            (service.addressing.canonical request.path) request.options
          obtain ⟨cleared_eq, world_eq⟩ := Session.parse_steady steady distinct
            opened.around.world (service.addressing.canonical request.path) request.options
          dsimp only
          rw [world_eq]
          exact Roster.cleared_revised orderly.identities found _ revises.identity_eq cleared_eq
  | close document => exact absurd rfl opens
  | parseAll request =>
      rw [proceed_parseAll, scope_parseAll, Roster.parseAll]
      cases found : opened.session? sender with
      | none => rfl
      | some session =>
          have revises := session.parseAll_revises service.backend opened.around.world
            (service.addressing.canonical request.path)
            (request.members.map (service.addressing.canonical ·.1)) request.options
          obtain ⟨cleared_eq, world_eq⟩ := Session.parseAll_steady steady session
            opened.around.world (service.addressing.canonical request.path)
            (request.members.map (service.addressing.canonical ·.1)) request.options
          dsimp only
          rw [world_eq]
          exact Roster.cleared_revised orderly.identities found _ revises.identity_eq cleared_eq
  | diagnostics => exact absurd rfl opens

/-- A job that has opened its documents does the same again. -/
theorem perform_again (steady : service.backend.Steady)
    (orderly : opened.Orderly service.addressing)
    (outcome : roster.openEach service sender job.openings = (.ok (), opened))
    (opens : job.openings ≠ []) :
    service.perform (service.proceed opened sender path job).2 sender path job =
      service.proceed opened sender path job := by
  have cleared_eq : (service.proceed opened sender path job).2.cleared sender (service.scope job) =
      opened.cleared sender (service.scope job) := cleared_proceed steady orderly opens
  have again := Roster.openEach_again orderly.identities outcome
  have reopened := (service.proceed opened sender path job).2.openEach_cleared
    (service.scope job) service sender job.openings
  rw [cleared_eq, opened.openEach_cleared, again] at reopened
  have admitted : ((service.proceed opened sender path job).2.openEach service sender
      job.openings).1 = .ok () := (congrArg Prod.fst reopened).symm
  calc service.perform (service.proceed opened sender path job).2 sender path job
      = service.perform ((service.proceed opened sender path job).2.cleared sender
          (service.scope job)) sender path job := (perform_cleared admitted path).symm
    _ = service.perform (opened.cleared sender (service.scope job)) sender path job := by
      rw [cleared_eq]
    _ = service.perform opened sender path job := perform_cleared (congrArg Prod.fst again) path
    _ = service.proceed opened sender path job := perform_opened again

/-- Where a method can be called that is none of diagnostics does not depend on the open
documents. -/
theorem Agrees.routed_congr {backend : Backend ω σ} {baseDirectory : FilePath}
    {before after : Roster ω σ} (agrees : (ofBackend backend baseDirectory).Agrees before)
    (after_agrees : (ofBackend backend baseDirectory).Agrees after) {method : Method}
    (apart : method.interface ≠ .diagnostics) (call : Call) :
    Routed before call method ↔ Routed after call method := by
  rw [agrees.routed_iff, after_agrees.routed_iff]
  simp only [apart, false_and, and_false, or_false]

private theorem openings_of_parsing {method : Method} (listed : method ∈ Method.all)
    {args : List Json.Value} (made : Job.ofArgs method args = .ok job)
    (parsing : method.member = "Parse" ∨ method.member = "ParseAll") :
    method.interface ≠ .diagnostics ∧ job.openings ≠ [] := by
  rcases Job.ofArgs_cases listed made with
    ⟨request, rfl, rfl⟩ | ⟨closed, rfl, rfl⟩ | ⟨request, rfl, rfl⟩ | ⟨rfl, rfl⟩
  · exact ⟨by decide, List.cons_ne_nil _ _⟩
  · exact absurd parsing (by decide)
  · exact ⟨by decide, List.cons_ne_nil _ _⟩
  · exact absurd parsing (by decide)

/-- A call to parse is answered like the same call before it, and changes nothing more. -/
theorem answer_again {backend : Backend ω σ} {baseDirectory : FilePath}
    (steady : backend.Steady) {before : Roster ω σ}
    (ready : before.Ready (ofBackend backend baseDirectory)) {call : Call}
    (parsing : call.member = "Parse" ∨ call.member = "ParseAll") :
    (ofBackend backend baseDirectory).answer
        ((ofBackend backend baseDirectory).answer before call).2 call =
      (ofBackend backend baseDirectory).answer before call := by
  cases found : job? before call with
  | none => rw [answer_idle found]
  | some job =>
      obtain ⟨method, routed, decoded, answered⟩ :=
        answer_job (ofBackend backend baseDirectory) found
      obtain ⟨opened, outcome⟩ := Roster.openEach_ready ready call.sender job.openings
      have moves := Roster.moves_openEach job.openings ready.orderly ready.agrees call.sender
      rw [outcome] at moves
      have left_agrees := ((moves_answer ready.orderly ready.agrees call).sound ready.orderly
        ready.agrees).2
      obtain ⟨listed, -, member_eq, -⟩ := routed_iff.mp routed
      rw [← member_eq] at parsing
      obtain ⟨apart, opens⟩ := openings_of_parsing listed decoded parsing
      have still_routed := (ready.agrees.routed_congr left_agrees apart call).mp routed
      rw [perform_opened outcome] at answered
      rw [answered] at still_routed ⊢
      rw [answer_of_job still_routed.1 still_routed.2 decoded,
        perform_again steady (moves.ready ready).orderly outcome opens]

private theorem start_builtin (fileText : ω → FilePath → Except FileError String)
    {backend : Backend ω Unit} (listed : backend ∈ Backend.builtin fileText)
    (baseDirectory : FilePath) :
    ((ofBackend backend baseDirectory).start .empty).1 = .ok () := by
  simp only [Backend.builtin, List.mem_cons, List.not_mem_nil, or_false] at listed
  rcases listed with rfl | rfl
  · simp only [start, ofBackend, Backend.addressing, Backend.offer, Addressing.serviceObject,
      Addressing.placeholderObject, Css.backend]
    decide +kernel
  · simp only [start, ofBackend, Backend.addressing, Backend.offer, Addressing.serviceObject,
      Addressing.placeholderObject, Json.backend]
    decide +kernel

/-- In every course of a service for one of the backends that come with it, on a bus for object
paths, a call to parse that is made twice in a row is answered twice alike, whatever its arguments
and whatever becomes of it, and the second time it changes nothing. -/
theorem course_repeated (fileText : ω → FilePath → Except FileError String)
    {backend : Backend ω Unit} (listed : backend ∈ Backend.builtin fileText)
    (baseDirectory : FilePath) (world : ω) (occurrences : List (Occurrence ω))
    (ungated : ∀ gate, .gate gate ∉ occurrences) {call : Call}
    (parsing : call.member = "Parse" ∨ call.member = "ParseAll") :
    let service := ofBackend backend baseDirectory
    let before := service.course occurrences (.opened (service.start .empty).2 world)
    let first := service.answer before call
    service.answer first.2 call = first := by
  intro service before first
  have started : service.start .empty = (.ok (), (service.start .empty).2) :=
    Prod.ext (start_builtin fileText listed baseDirectory) rfl
  have ready := course_ready occurrences (start_ready started world) ungated
  exact answer_again (Backend.builtin_confined fileText (backend.addressing baseDirectory) backend
    listed).steady ready parsing

end Service

theorem Service.course_repeated_shelf :
    let service := ofBackend (Css.backend Shelf.fileText) ⟨"/site"⟩
    let before := service.course [.event (Rehearsal.parse ":1.8" "main.css")]
      (.opened (service.start .empty).2 ())
    let call := Rehearsal.parseAll ":1.7" "main.css" ["lost.css", "./main.css"] []
    let first := service.answer before call
    before.documentsOf ":1.7" = [] ∧
      (first.2.documentsOf ":1.7").map (·.diagnostics.map Diagnostic.message) =
        [["Empty ruleset"], [FileError.notFound.message]] ∧
      service.answer first.2 call = first := by
  exact ⟨by decide +kernel, by decide +kernel,
    course_repeated Shelf.fileText List.mem_cons_self ⟨"/site"⟩ () _ (by simp) (.inr rfl)⟩

end LintBus

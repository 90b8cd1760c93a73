import LintBus.Proofs.Client.Result
import LintBus.Proofs.Service.LastAttempt
import LintBus.Proofs.Service.Rejection

/-!
# What calls are answered

On a bus for object paths a call that makes a job is answered by the failure of its handler or by a
body that fits its method.  No document is refused, no session is gone in the middle of a call, and
whatever is looked up on the way is found.
-/

namespace LintBus

variable {ω σ : Type}

namespace Session

private theorem projectForm_open {session : Session σ} {parsed : List FilePath}
    (is_open : ∀ path ∈ parsed, session.Open path) (language : String)
    (spellings : List (FilePath × String)) :
    ∃ entries, session.projectForm language spellings parsed = .project entries := by
  have pairs : ∃ entries,
      parsed.mapM (session.projectPair language spellings) = .ok entries := by
    induction parsed with
    | nil => exact ⟨[], rfl⟩
    | cons path rest induction =>
        obtain ⟨document, found⟩ := open_iff.mp (is_open path List.mem_cons_self)
        obtain ⟨entries, rest_eq⟩ :=
          induction fun other listed => is_open other (List.mem_cons_of_mem _ listed)
        rw [List.mapM_cons, rest_eq, projectPair, found]
        exact ⟨_, rfl⟩
  obtain ⟨entries, pairs_eq⟩ := pairs
  exact ⟨entries, by rw [projectForm, pairs_eq]⟩

private theorem documentForm_open {session : Session σ} {canonical : FilePath}
    (is_open : session.Open canonical) : ∃ id, session.documentForm canonical = .document id := by
  obtain ⟨document, found⟩ := open_iff.mp is_open
  exact ⟨document.id, by rw [documentForm, found]⟩

end Session

namespace Service

variable {service : Service ω σ} {roster opened : Roster ω σ} {sender path : String}
  {session : Session σ}

/-- The failure of the handler that a job calls when its documents are open. -/
def failure? (service : Service ω σ) (opened : Roster ω σ) (sender : String) :
    Job → Option Failure
  | .parse request => do
      let session ← opened.session? sender
      let document ← session.documents.find? (service.addressing.canonical request.path)
      let handled := service.backend.parse opened.around.world session.state
        (document.diagnosed []) request.options
      handled.result.outcome.failure?
  | .parseAll request => do
      let session ← opened.session? sender
      let ran := session.ranAll service.backend opened.around.world
        (service.addressing.canonical request.path)
        (request.members.map (service.addressing.canonical ·.1)) request.options
      ran.2.result.failure?
  | .close _ | .diagnostics => none

/-- A reply to a job whose documents are open: the failure of its handler, or a body that fits the
output signature of its method. -/
def Replies (service : Service ω σ) (opened : Roster ω σ) (sender : String) (method : Method)
    (job : Job) (reply : Reply) : Prop :=
  match service.failure? opened sender job with
  | some failure => reply = .error (.ofFailure service.backend.language failure)
  | none => ∃ body, reply = .ok body ∧
      Signature.checkText method.outputSignature body = .ok ()

/-- A reply to a job whose documents are open: the failure of its handler, or a body with some
property. -/
def Concludes (service : Service ω σ) (opened : Roster ω σ) (sender : String) (job : Job)
    (property : List Json.Value → Prop) (reply : Reply) : Prop :=
  match service.failure? opened sender job with
  | some failure => reply = .error (.ofFailure service.backend.language failure)
  | none => ∃ body, reply = .ok body ∧ property body

private theorem Concludes.imp {job : Job} {property weaker : List Json.Value → Prop} {reply : Reply}
    (concludes : service.Concludes opened sender job property reply)
    (weakens : ∀ body, property body → weaker body) :
    service.Concludes opened sender job weaker reply := by
  rw [Concludes] at concludes ⊢
  split at concludes
  · exact concludes
  · obtain ⟨body, replied, given⟩ := concludes
    exact ⟨body, replied, weakens body given⟩

private theorem open_scope (session : Session σ) {job : Job} {named : FilePath}
    (in_scope : ProjectRun.inScope (service.scope job) named = true) :
    (session.openingEach service.addressing job.openings).Open named := by
  obtain ⟨member, listed, same⟩ := List.any_eq_true.mp in_scope
  obtain ⟨opening, opening_mem, rfl⟩ := List.mem_map.mp listed
  exact (Session.open_openingEach opening_mem session).congr same

/-- Parsing a document that is open ends with the failure of its handler or with the object of a
document. -/
theorem proceed_parse_concludes (orderly : opened.Orderly service.addressing)
    (found : opened.session? sender = some session) (path : String) (request : ParseRequest)
    (is_open : session.Open (service.addressing.canonical request.path)) :
    service.Concludes opened sender (.parse request)
      (fun body => ∃ id, body = [.string (service.addressing.documentObject session.id id)])
      (service.proceed opened sender path (.parse request)).1 := by
  obtain ⟨document, held⟩ := Session.open_iff.mp is_open
  obtain ⟨after, parsed, kept⟩ := Roster.parse_found orderly found
    (service.addressing.canonical request.path) request.options
  have result := Session.parse_result held service.backend opened.around.world request.options
  have failure_eq : service.failure? opened sender (.parse request) =
      (service.backend.parse opened.around.world session.state (document.diagnosed [])
        request.options).result.outcome.failure? := by
    simp [failure?, found, held]
  rw [Concludes, failure_eq]
  simp only [proceed, parsed]
  cases failed : (service.backend.parse opened.around.world session.state
      (document.diagnosed []) request.options).result.outcome.failure? with
  | some failure =>
      rw [failed] at result
      rw [result]
  | none =>
      rw [failed] at result
      rw [result]
      have moves := Roster.moves_parse orderly sender
        (service.addressing.canonical request.path) request.options
      rw [parsed] at moves
      have after_orderly := (moves.orderly orderly).sessions _ (Roster.session?_some kept).1
      have distinct := (orderly.sessions session (Roster.session?_some found).1).distinct
      have revises := Session.parse_revises distinct service.backend opened.around.world
        (service.addressing.canonical request.path) request.options
      obtain ⟨id, form_eq⟩ := Session.documentForm_open (revises.keepsOpen is_open)
      have replied := objectOf_form service kept after_orderly.addressed
        (service.addressing.canonical request.path)
      rw [form_eq, ReplyForm.render, revises.id_eq] at replied
      exact ⟨_, replied, id, rfl⟩

/-- Parsing a project ends with the failure of its handler or with entries for some paths of the
project, read off the documents that are open then. -/
theorem proceed_parseAll_found (service : Service ω σ)
    (found : opened.session? sender = some session) (path : String) (request : ParseAllRequest) :
    let done := service.proceed opened sender path (.parseAll request)
    ∃ remaining, done.2.session? sender = some remaining ∧ remaining.Revises session ∧
      match service.failure? opened sender (.parseAll request) with
      | some failure => done.1 = .error (.ofFailure service.backend.language failure)
      | none => ∃ parsed : List FilePath,
          (∀ named ∈ parsed,
            ProjectRun.inScope (service.scope (.parseAll request)) named = true) ∧
          done.1 = (parsed.mapM (service.projectEntry done.2 sender
              ((request.members.map (service.addressing.canonical ·.1)).zip
                (request.members.map (·.1))))).map fun entries => [.array entries] := by
  obtain ⟨after, parsed, kept⟩ := @Roster.parseAll_found _ _ service _ _ _ found
    (service.addressing.canonical request.path)
    (request.members.map (service.addressing.canonical ·.1)) request.options
  have result := session.parseAll_result service.backend opened.around.world
    (service.addressing.canonical request.path)
    (request.members.map (service.addressing.canonical ·.1)) request.options
  have revises := session.parseAll_revises service.backend opened.around.world
    (service.addressing.canonical request.path)
    (request.members.map (service.addressing.canonical ·.1)) request.options
  have failure_eq : service.failure? opened sender (.parseAll request) =
      (session.ranAll service.backend opened.around.world
        (service.addressing.canonical request.path)
        (request.members.map (service.addressing.canonical ·.1))
        request.options).2.result.failure? := by
    simp [failure?, found]
  have after_eq := service.proceed_parseAll opened sender path request
  rw [parsed] at after_eq
  refine ⟨_, after_eq ▸ kept, revises, ?_⟩
  simp only [failure_eq, proceed, parsed, scope_parseAll]
  cases failed : (session.ranAll service.backend opened.around.world
      (service.addressing.canonical request.path)
      (request.members.map (service.addressing.canonical ·.1))
      request.options).2.result.failure? with
  | some failure =>
      rw [failed] at result
      rw [result]
  | none =>
      rw [failed] at result
      obtain ⟨reported, result_eq, in_scope⟩ := result
      rw [result_eq]
      exact ⟨reported, in_scope, rfl⟩

/-- Parsing a project whose documents are open ends with the failure of its handler or with the
objects of documents. -/
theorem proceed_parseAll_concludes (orderly : opened.Orderly service.addressing)
    (found : opened.session? sender = some session) (path : String) (request : ParseAllRequest)
    (is_open : ∀ named, ProjectRun.inScope (service.scope (.parseAll request)) named = true →
      session.Open named) :
    service.Concludes opened sender (.parseAll request)
      (fun body => ∃ entries : List (String × Nat),
        body = [.array (entries.map (service.addressing.entry session.id))])
      (service.proceed opened sender path (.parseAll request)).1 := by
  obtain ⟨remaining, kept, revises, ended⟩ := service.proceed_parseAll_found found path request
  have addressed := (revises.orderly
    (orderly.sessions session (Roster.session?_some found).1)).addressed
  rw [Concludes]
  split at ended
  · exact ended
  · obtain ⟨parsed, in_scope, replied⟩ := ended
    obtain ⟨entries, form_eq⟩ := Session.projectForm_open
      (fun named listed => revises.keepsOpen (is_open named (in_scope named listed)))
      service.backend.language
      ((request.members.map (service.addressing.canonical ·.1)).zip
        (request.members.map (·.1)))
    rw [projectEntries_form service kept addressed, form_eq, ReplyForm.render,
      revises.id_eq] at replied
    exact ⟨_, replied, entries, rfl⟩

private theorem diagnostics_found {backend : Backend ω σ} {base : FilePath}
    (orderly : roster.Orderly (ofBackend backend base).addressing)
    (agrees : (ofBackend backend base).Agrees roster) {call : Call}
    (routed : Routed roster call .diagnostics) :
    ∃ diagnostics, (ofBackend backend base).diagnostics roster call.path =
      .ok [Diagnostic.listToValue diagnostics] := by
  by_cases placeholder : call.path = (ofBackend backend base).addressing.placeholderObject
  · exact ⟨[], by simp [diagnostics, placeholder, Diagnostic.listToValue]⟩
  · obtain ⟨-, -, -, ⟨-, unlike⟩ | ⟨-, unlike, -⟩ | ⟨standing | standing, -⟩⟩ :=
      agrees.routed_iff.mp routed
    · exact absurd unlike (by decide)
    · exact absurd unlike (by decide)
    · exact absurd standing placeholder
    · obtain ⟨document, held, path_eq⟩ := standing
      refine ⟨document.diagnostics, ?_⟩
      rw [diagnostics, if_neg placeholder, path_eq,
        Roster.exportedAt?_of_mem orderly.objects_nodup held]

/-- What is left of a call whose documents are open ends with the failure of a handler or with a
body, which fits if the objects of documents are object paths. -/
theorem proceed_concludes {backend : Backend ω σ} {base : FilePath}
    (orderly : roster.Orderly (ofBackend backend base).addressing)
    (agrees : (ofBackend backend base).Agrees roster) {call : Call} {method : Method} {job : Job}
    (routed : Routed roster call method) (made : Job.ofArgs method call.args = .ok job)
    (opened_ok : roster.openEach (ofBackend backend base) call.sender job.openings =
      (.ok (), opened)) :
    (ofBackend backend base).Concludes opened call.sender job
      (fun body =>
        (∀ number id, ObjectPath.isValid
          ((ofBackend backend base).addressing.documentObject number id) = true) →
        Signature.checkText method.outputSignature body = .ok ())
      ((ofBackend backend base).proceed opened call.sender call.path job).1 := by
  have moves := Roster.moves_openEach job.openings orderly agrees call.sender
  rw [opened_ok] at moves
  have opened_orderly := moves.orderly orderly
  rcases Job.ofArgs_cases (routed_iff.mp routed).1 made with
    ⟨request, rfl, rfl⟩ | ⟨document, rfl, rfl⟩ | ⟨request, rfl, rfl⟩ | ⟨rfl, rfl⟩
  · have in_scope : ProjectRun.inScope ((ofBackend backend base).scope (.parse request))
        ((ofBackend backend base).addressing.canonical request.path) = true := by
      simp [ProjectRun.inScope]
    refine (proceed_parse_concludes opened_orderly
      (Roster.openEach_ok (List.cons_ne_nil _ _) opened_ok) call.path request
      (open_scope _ in_scope)).imp ?_
    rintro _ ⟨id, rfl⟩ valid
    exact checkText_parse (valid _ id)
  · exact ⟨[], rfl, fun _ => by rfl⟩
  · refine (proceed_parseAll_concludes opened_orderly
      (Roster.openEach_ok (List.cons_ne_nil _ _) opened_ok) call.path request
      fun named in_scope => open_scope _ in_scope).imp ?_
    rintro _ ⟨entries, rfl⟩ valid
    exact checkText_parseAll (valid _) entries
  · obtain rfl : roster = opened := congrArg Prod.snd opened_ok
    obtain ⟨diagnostics, replied⟩ := diagnostics_found orderly agrees routed
    exact ⟨_, replied, fun _ => checkText_diagnostics diagnostics⟩

/-- What a call asks for at an object that shows its method is answered by the failure of a handler
or by a body that fits. -/
theorem perform_replies {backend : Backend ω σ} {base : FilePath}
    (ready : roster.Ready (ofBackend backend base))
    (valid : ∀ number id, ObjectPath.isValid
      ((ofBackend backend base).addressing.documentObject number id) = true)
    {call : Call} {method : Method} {job : Job} (routed : Routed roster call method)
    (made : Job.ofArgs method call.args = .ok job) :
    ∃ opened, roster.openEach (ofBackend backend base) call.sender job.openings =
        (.ok (), opened) ∧
      (ofBackend backend base).Replies opened call.sender method job
        ((ofBackend backend base).perform roster call.sender call.path job).1 := by
  obtain ⟨opened, opened_ok⟩ := Roster.openEach_ready ready call.sender job.openings
  have concluded := proceed_concludes ready.orderly ready.agrees routed made opened_ok
  refine ⟨opened, opened_ok, ?_⟩
  rw [perform_opened opened_ok]
  exact concluded.imp fun body fits => fits valid

/-- A call that succeeds has opened the documents of its job and gone on with it. -/
theorem answer_ok {call : Call} {method : Method} (routed : Routed roster call method)
    {body : List Json.Value} (answered : (service.answer roster call).1 = .ok body) :
    ∃ job opened, Job.ofArgs method call.args = .ok job ∧
      roster.openEach service call.sender job.openings = (.ok (), opened) ∧
      service.proceed opened call.sender call.path job =
        (.ok body, (service.answer roster call).2) := by
  cases made : Job.ofArgs method call.args with
  | error error =>
      rw [answer_refused routed made] at answered
      cases answered
  | ok job =>
      rw [answer_of_job routed.1 routed.2 made] at answered ⊢
      cases outcome : roster.openEach service call.sender job.openings with
      | mk result opened =>
          cases result with
          | error error =>
              rw [perform_refused outcome] at answered
              cases answered
          | ok done =>
              rw [perform_opened outcome] at answered ⊢
              refine ⟨job, opened, rfl, outcome, ?_⟩
              cases replied : (service.proceed opened call.sender call.path job).1 with
              | error fault =>
                  rw [replied] at answered
                  cases answered
              | ok values =>
                  rw [replied] at answered
                  refine Prod.ext (replied.trans ?_) rfl
                  simp only [Except.bind, Call.answerWith] at answered
                  split at answered
                  · exact answered
                  · cases answered

private theorem Replies.answerWith {method : Method} {job : Job} {reply : Reply}
    (replies : service.Replies opened sender method job reply) (call : Call) :
    reply.bind (call.answerWith service.backend.language method) = reply := by
  rw [Replies] at replies
  split at replies
  · rw [replies]
    rfl
  · obtain ⟨body, rfl, fits⟩ := replies
    simp only [Except.bind, Call.answerWith, fits]

/-- In every course of a service that has started on a bus for object paths, a call is rejected, or
it is answered by a description, or it makes a job.  Then all documents of the job can be opened,
and the reply is what the handler of the method replies: the failure that the backend ends with, if
it does, and otherwise a body that fits the output signature of the method. -/
theorem course_answered {backend : Backend ω σ} {baseDirectory : FilePath} {bus : Bus}
    (started : (ofBackend backend baseDirectory).start .empty = (.ok (), bus)) (world : ω)
    (occurrences : List (Occurrence ω)) (ungated : ∀ gate, .gate gate ∉ occurrences) :
    let service := ofBackend backend baseDirectory
    let after : Roster ω σ := service.course occurrences (.opened bus world)
    ∀ call,
      (∃ error, Rejects after call error ∧
        (service.answer after call).1 = .error (.ofCallError error)) ∨
      (call.interface = introspectable ∧
        ∃ text, (service.answer after call).1 = .ok [.string text]) ∨
      ∃ method job opened, Routed after call method ∧ Job.ofArgs method call.args = .ok job ∧
        after.openEach service call.sender job.openings = (.ok (), opened) ∧
        (service.answer after call).1 = (service.perform after call.sender call.path job).1 ∧
        service.Replies opened call.sender method job (service.answer after call).1 := by
  intro service after call
  have ready : after.Ready service :=
    course_ready occurrences (start_ready started world) ungated
  have valid := Addressing.documentObject_isValid (start_isValid started)
  rcases rejects_or_runs after call with
    ⟨error, rejects⟩ | ⟨named, member_eq, standing⟩ | ⟨method, job, routed, made⟩
  · exact .inl ⟨error, rejects, congrArg Prod.fst (rejects.answer service)⟩
  · exact .inr (.inl ⟨named, _, congrArg Prod.fst (answer_described named member_eq standing)⟩)
  · right
    right
    obtain ⟨opened, opened_ok, replies⟩ := perform_replies ready valid routed made
    have answered : (service.answer after call).1 =
        (service.perform after call.sender call.path job).1 := by
      rw [answer_of_job routed.1 routed.2 made]
      exact replies.answerWith call
    exact ⟨method, job, opened, routed, made, opened_ok, answered, answered ▸ replies⟩

end Service

/-- A client has a project parsed, and the backend reports a path that is none of it. -/
def Rehearsal.astray : Call :=
  parseAll ":1.7" "a.css" ["b.css"]
    [("report", .array [.string "/work/elsewhere.css", .string "/work/b.css"])]

theorem Service.course_answered_astray :
    let after := Rehearsal.service.course [.event (Rehearsal.parse ":1.8" "a.css")]
      Rehearsal.roster
    (Rehearsal.service.start .empty).1 = .ok () ∧
      ∃ body, (Rehearsal.service.answer after Rehearsal.astray).1 = .ok body ∧
        Signature.checkText Method.parseAll.outputSignature body = .ok () := by
  intro after
  have started : Rehearsal.service.start .empty =
      (.ok (), (Rehearsal.service.start .empty).2) := by rfl
  have ungated : ∀ gate, .gate gate ∉
      [(.event (Rehearsal.parse ":1.8" "a.css") : Occurrence Stage)] := by simp
  have returns : (Rehearsal.service.answer after Rehearsal.astray).1.toBool = true := by
    decide +kernel
  refine ⟨congrArg Prod.fst started, ?_⟩
  rcases course_answered started (Scripted.stage ⟨[], []⟩) _ ungated Rehearsal.astray with
    ⟨error, -, refused⟩ | ⟨named, -⟩ | ⟨method, job, opened, routed, -, -, -, replies⟩
  · rw [show (Rehearsal.service.answer after Rehearsal.astray).1 = _ from refused] at returns
    simp [Except.toBool] at returns
  · exact absurd named (by decide +kernel)
  · have resolved : resolve after Rehearsal.astray = .ok .parseAll :=
      resolve_eq_ok.mpr ⟨by decide, by decide +kernel, rfl, by decide +kernel⟩
    obtain rfl := Except.ok.inj (routed.2.symm.trans resolved)
    rw [Replies] at replies
    split at replies
    · rw [show (Rehearsal.service.answer after Rehearsal.astray).1 = _ from replies] at returns
      simp [Except.toBool] at returns
    · exact replies

end LintBus

import LintBus.Proofs.Service.Course
import LintBus.Proofs.Service.ReplyForm

/-!
# Isolation of clients

With a confined backend and a bus that refuses no document, a client cannot tell whether it is
alone: when all events of other clients are left out of a run, the client has the same session and
receives the same replies, but for the number of its session in object paths.
-/

namespace LintBus

namespace Service

variable {ω σ : Type} {service : Service ω σ}

section Beginning

variable {bus : Bus}

/-- A service that has started on a bus for object paths has one of its own. -/
theorem start_isValid (started : service.start .empty = (.ok (), bus)) :
    ObjectPath.isValid service.addressing.serviceObject = true := by
  simp only [start] at started
  split at started
  · simp at started
  · next shown outcome =>
      have offered : Interface.service ∈ service.backend.offer.service := by
        simp [Backend.offer, Offer.ofCapabilities]
      have admitted := Bus.exportEach_admitted outcome .service offered
      by_contra invalid
      simp [Bus.empty, Gate.objectPaths, invalid] at admitted

private theorem start_gate (started : service.start .empty = (.ok (), bus)) :
    bus.gate = .objectPaths := by
  simp only [start] at started
  split at started
  · simp at started
  · next shown outcome =>
      exact (Bus.exportEach_ok started).gate_eq.trans (Bus.exportEach_ok outcome).gate_eq

theorem start_ready (started : service.start .empty = (.ok (), bus)) (world : ω) :
    (Roster.opened bus world).Ready service := by
  have begins : service.Begins (.opened bus world) := ⟨.objectPaths, bus, world, started, rfl⟩
  refine ⟨begins.sound.1, begins.sound.2, fun number id interface => ?_⟩
  change bus.gate _ _ = none
  rw [start_gate started, Gate.objectPaths,
    if_pos (Addressing.documentObject_isValid (start_isValid started) number id)]

end Beginning

section Mirrors

variable {client : String} {alone together : Roster ω σ}

/-- Two replies are the same but for the number of the session. -/
def Alike (service : Service ω σ) (left right : Reply) : Prop :=
  ∃ (form : ReplyForm) (number number' : Nat),
    left = form.render service.addressing number ∧ right = form.render service.addressing number'

private theorem Alike.refl (service : Service ω σ) (reply : Reply) : service.Alike reply reply :=
  ⟨.fixed reply, 0, 0, rfl, rfl⟩

private theorem Alike.answerWith
    (valid : ObjectPath.isValid service.addressing.serviceObject = true)
    {form : ReplyForm} {method : Method} (fits : form.Fits method) (call : Call)
    {left right : Reply} {number number' : Nat}
    (left_eq : left = form.render service.addressing number)
    (right_eq : right = form.render service.addressing number') :
    service.Alike (left.bind (call.answerWith service.backend.language method))
      (right.bind (call.answerWith service.backend.language method)) := by
  obtain ⟨answered, render_eq⟩ := fits.answerWith
    (fun number id => Addressing.documentObject_isValid valid number id) call
    service.backend.language
  refine ⟨answered, number, number', ?_, ?_⟩
  · rw [left_eq, render_eq]
  · rw [right_eq, render_eq]

/-- What both rosters reply for a client has the same form, and they give it the same session but
for the number. -/
def Resembles (service : Service ω σ) (client : String) (method : Method)
    (together alone : Reply × Roster ω σ) : Prop :=
  (∃ (form : ReplyForm) (number number' : Nat), form.Fits method ∧
    together.1 = form.render service.addressing number ∧
    alone.1 = form.render service.addressing number') ∧
  ∃ number, alone.2.session? client =
    (together.2.session? client).map (Session.renumber service.addressing number)

private theorem parse_mirrors (confined : service.backend.Confined service.addressing)
    (mirrors : Roster.Mirrors service client alone together) (request : ParseRequest) :
    service.Resembles client .parse (service.parse together client request)
      (service.parse alone client request) := by
  obtain ⟨session, number, alone', together', alone_opened, together_opened, twins⟩ :=
    mirrors.openDocument confined request.path request.contents request.cursor
  obtain ⟨result, after, alone'', together'', alone_parsed, together_parsed, parsed⟩ :=
    twins.parse confined (service.addressing.canonical request.path) request.options
  simp only [parse, alone_opened, together_opened, alone_parsed, together_parsed]
  cases result with
  | error failure =>
      exact ⟨⟨.fixed _, number, number, trivial, rfl, rfl⟩, parsed.session_eq⟩
  | ok done =>
      let canonical := service.addressing.canonical request.path
      refine ⟨⟨after.documentForm canonical, after.id, number, after.documentForm_fits canonical,
        ?_, ?_⟩, parsed.session_eq⟩
      · exact objectOf_form service parsed.together_found parsed.orderly.addressed canonical
      · have answered := objectOf_form service parsed.alone_found
          (after.documents.readdress_addressed service.addressing number) canonical
        rw [Session.documentForm_renumber] at answered
        exact answered

private theorem parseAll_mirrors (confined : service.backend.Confined service.addressing)
    (mirrors : Roster.Mirrors service client alone together) (request : ParseAllRequest) :
    service.Resembles client .parseAll (service.parseAll together client request)
      (service.parseAll alone client request) := by
  obtain ⟨session, number, alone', together', alone_opened, together_opened, twins⟩ :=
    mirrors.openDocument confined request.path "" request.cursor
  obtain ⟨alone_joined, together_joined, alone_members, together_members, joined⟩ :=
    twins.openMembers confined request.members
  obtain ⟨result, after, alone'', together'', alone_parsed, together_parsed, parsed⟩ :=
    joined.parseAll confined (service.addressing.canonical request.path)
      (request.members.map (service.addressing.canonical ·.1)) request.options
  simp only [parseAll, alone_opened, together_opened, alone_members, together_members,
    alone_parsed, together_parsed]
  cases result with
  | error failure =>
      exact ⟨⟨.fixed _, number, number, trivial, rfl, rfl⟩, parsed.session_eq⟩
  | ok paths =>
      let spellings := (request.members.map (service.addressing.canonical ·.1)).zip
        (request.members.map (·.1))
      let language := service.backend.language
      refine ⟨⟨after.projectForm language spellings paths, after.id, number,
        after.projectForm_fits language spellings paths, ?_, ?_⟩, parsed.session_eq⟩
      · exact projectEntries_form service parsed.together_found parsed.orderly.addressed spellings
          paths
      · have answered := projectEntries_form service parsed.alone_found
          (after.documents.readdress_addressed service.addressing number) spellings paths
        rw [Session.projectForm_renumber] at answered
        exact answered

private theorem exportedAt?_serviceObject {roster : Roster ω σ}
    (orderly : roster.Orderly service.addressing) :
    roster.exportedAt? service.addressing.serviceObject = none := by
  rw [Roster.exportedAt?, List.findSome?_eq_none_iff]
  intro session session_mem
  rw [Documents.exportedAt?, List.find?_eq_none]
  intro document held
  rw [beq_iff_eq]
  exact orderly.ne_serviceObject (Roster.holds_document session_mem held)

private theorem perform_mirrors (confined : service.backend.Confined service.addressing)
    (mirrors : Roster.Mirrors service client alone together) {method : Method}
    (listed : method ∈ Method.all) {args : List Json.Value} {job : Job}
    (decoded : Job.ofArgs method args = .ok job) :
    service.Resembles client method
      (service.perform together client service.addressing.serviceObject job)
      (service.perform alone client service.addressing.serviceObject job) := by
  rcases Job.ofArgs_cases listed decoded with
    ⟨request, rfl, rfl⟩ | ⟨path, rfl, rfl⟩ | ⟨request, rfl, rfl⟩ | ⟨rfl, rfl⟩
  · exact parse_mirrors confined mirrors request
  · exact ⟨⟨.fixed (.ok []), 0, 0, trivial, rfl, rfl⟩, mirrors.closeDocument confined path⟩
  · exact parseAll_mirrors confined mirrors request
  · refine ⟨⟨.fixed (service.diagnostics together service.addressing.serviceObject), 0, 0, trivial,
      rfl, ?_⟩, mirrors.session⟩
    simp only [perform, diagnostics, ReplyForm.render,
      exportedAt?_serviceObject mirrors.alone_ready.orderly,
      exportedAt?_serviceObject mirrors.together_ready.orderly]

private theorem interfaces_mirrors (mirrors : Roster.Mirrors service client alone together) :
    alone.around.bus.interfaces service.addressing.serviceObject =
      together.around.bus.interfaces service.addressing.serviceObject := by
  obtain ⟨alone_orderly, alone_agrees, -⟩ := mirrors.alone_ready
  obtain ⟨together_orderly, together_agrees, -⟩ := mirrors.together_ready
  refine Exports.interfaces_eq (Exports.interfaces_ordered _ _) fun interface => ?_
  rw [alone_agrees.mem_serviceObject alone_orderly,
    ← together_agrees.mem_serviceObject together_orderly]
  exact (Exports.mem_interfaces ..).symm

/-- Replies to a client at the object of the service are alike on mirrored rosters, which stay
mirrored. -/
theorem answer_mirrors (confined : service.backend.Confined service.addressing)
    (valid : ObjectPath.isValid service.addressing.serviceObject = true) {call : Call}
    (mirrors : Roster.Mirrors service call.sender alone together)
    (addressed : call.path = service.addressing.serviceObject) :
    service.Alike (service.answer together call).1 (service.answer alone call).1 ∧
      Roster.Mirrors service call.sender (service.answer alone call).2
        (service.answer together call).2 := by
  have interfaces_eq := interfaces_mirrors mirrors
  rw [← addressed] at interfaces_eq
  by_cases apart : call.interface = introspectable
  · have describe_eq : describe alone call = describe together call := by
      simp only [describe, interfaces_eq]
    simp only [answer, if_pos apart, describe_eq]
    exact ⟨.refl service _, mirrors⟩
  · have resolve_eq : resolve alone call = resolve together call := by
      simp only [resolve, interfaces_eq]
    cases resolved : resolve together call with
    | error error =>
        simp only [answer, if_neg apart, resolve_eq, resolved]
        exact ⟨.refl service _, mirrors⟩
    | ok method =>
        cases decoded : Job.ofArgs method call.args with
        | error error =>
            simp only [answer, if_neg apart, resolve_eq, resolved, decoded]
            exact ⟨.refl service _, mirrors⟩
        | ok job =>
            have together_moves := moves_answer mirrors.together_ready.orderly
              mirrors.together_ready.agrees call
            have alone_moves := moves_answer mirrors.alone_ready.orderly
              mirrors.alone_ready.agrees call
            obtain ⟨⟨form, number, number', fits, together_eq, alone_eq⟩, session⟩ :=
              perform_mirrors confined mirrors (resolve_eq_ok.mp resolved).1 decoded
            rw [answer_of_job apart resolved decoded, addressed] at together_moves ⊢
            rw [answer_of_job apart (resolve_eq.trans resolved) decoded, addressed]
              at alone_moves ⊢
            exact ⟨Alike.answerWith valid fits call together_eq alone_eq,
              mirrors.toPaired.moves confined alone_moves together_moves, session⟩

private theorem departed_mirrors (confined : service.backend.Confined service.addressing)
    (mirrors : Roster.Mirrors service client alone together) {change : OwnerChange}
    (departed : change.departed? = some client) :
    Roster.Mirrors service client (service.handle alone (.ownerChanged change)).2
      (service.handle together (.ownerChanged change)).2 := by
  rw [handle_departed departed, handle_departed departed]
  refine ⟨mirrors.toPaired.moves confined
    (Roster.moves_dismiss mirrors.alone_ready.orderly client)
    (Roster.moves_dismiss mirrors.together_ready.orderly client), 0, ?_⟩
  rw [Roster.session?_dismiss, Roster.session?_dismiss, if_pos rfl, if_pos rfl, Option.map_none]

/-- An event of another client, or of none, keeps rosters mirrored on only one of which it is
handled. -/
theorem handle_other_mirrors (confined : service.backend.Confined service.addressing)
    (mirrors : Roster.Mirrors service client alone together) {event : Event}
    (different : event.client? ≠ some client) :
    Roster.Mirrors service client alone (service.handle together event).2 := by
  cases sender : event.client? with
  | none =>
      rw [handle_idle sender]
      exact mirrors
  | some identity =>
      rw [sender, ne_eq, Option.some.injEq] at different
      exact mirrors.moves_other confined
        (moves_handle mirrors.together_ready.orderly mirrors.together_ready.agrees sender)
        (Ne.symm different)

end Mirrors

/-- The replies to the calls of one client among some events that are handled in order. -/
def repliesTo (service : Service ω σ) (client : String) : List Event → Roster ω σ → List Reply
  | [], _ => []
  | event :: rest, roster =>
      let (reply, roster) := service.handle roster event
      let others := service.repliesTo client rest roster
      if event.client? = some client then reply.toList ++ others else others

/-- The events of one client among some events. -/
def ownEvents (client : String) (events : List Event) : List Event :=
  events.filter fun event => event.client? = some client

/-- In a run of all events a client fares as in the run of its own events. -/
theorem run_mirrors (confined : service.backend.Confined service.addressing)
    (valid : ObjectPath.isValid service.addressing.serviceObject = true) {client : String}
    (events : List Event) {alone together : Roster ω σ}
    (mirrors : Roster.Mirrors service client alone together)
    (addressed : ∀ call, .call call ∈ events → call.path = service.addressing.serviceObject) :
    Roster.Mirrors service client (service.run (ownEvents client events) alone).2
        (service.run events together).2 ∧
      List.Forall₂ service.Alike (service.repliesTo client events together)
        (service.run (ownEvents client events) alone).1 := by
  induction events generalizing alone together with
  | nil => exact ⟨mirrors, .nil⟩
  | cons event rest induction =>
      have rest_addressed : ∀ call, .call call ∈ rest →
          call.path = service.addressing.serviceObject :=
        fun call found => addressed call (List.mem_cons_of_mem _ found)
      by_cases own : event.client? = some client
      · have own_eq : ownEvents client (event :: rest) = event :: ownEvents client rest := by
          simp [ownEvents, own]
        rw [own_eq]
        cases event with
        | call call =>
            obtain rfl : call.sender = client := by simpa [Event.client?] using own
            obtain ⟨alike, answered⟩ := answer_mirrors confined valid mirrors
              (addressed call List.mem_cons_self)
            obtain ⟨ended, replies⟩ := induction answered rest_addressed
            refine ⟨ended, ?_⟩
            simp only [repliesTo, if_pos own]
            exact .cons alike replies
        | ownerChanged change =>
            have departed : change.departed? = some client := by simpa [Event.client?] using own
            obtain ⟨ended, replies⟩ :=
              induction (departed_mirrors confined mirrors departed) rest_addressed
            refine ⟨ended, ?_⟩
            simp only [repliesTo, if_pos own]
            exact replies
      · have own_eq : ownEvents client (event :: rest) = ownEvents client rest := by
          simp [ownEvents, own]
        obtain ⟨ended, replies⟩ :=
          induction (handle_other_mirrors confined mirrors own) rest_addressed
        rw [own_eq]
        refine ⟨ended, ?_⟩
        simp only [repliesTo, if_neg own]
        exact replies

/-- Among the backends that come with the service all are confined.  When a service has started on a
bus for object paths and its backend is confined, leaving out all events of other clients from a run
of calls at the object of the service leaves a client with the same session but for its number, or
with none as before, and with the same replies but for that number.  No event of another client
changes the session of the client at all. -/
theorem run_isolated :
    (∀ (fileText : ω → FilePath → Except FileError String) (addressing : Addressing),
      ∀ backend ∈ Backend.builtin fileText, backend.Confined addressing) ∧
    ∀ (service : Service ω σ) (bus : Bus), service.start .empty = (.ok (), bus) →
      service.backend.Confined service.addressing →
      ∀ (world : ω) (client : String) (events : List Event),
        (∀ call, .call call ∈ events → call.path = service.addressing.serviceObject) →
        let begun : Roster ω σ := .opened bus world
        let together := service.run events begun
        let alone := service.run (ownEvents client events) begun
        (∃ number, alone.2.session? client =
          (together.2.session? client).map (Session.renumber service.addressing number)) ∧
        List.Forall₂ service.Alike (service.repliesTo client events begun) alone.1 ∧
        ∀ earlier event, event.client? ≠ some client →
          (service.run (earlier ++ [event]) begun).2.session? client =
            (service.run earlier begun).2.session? client := by
  refine ⟨Backend.builtin_confined, ?_⟩
  intro service bus started confined world client events addressed begun together alone
  have ready := start_ready started world
  have begun_mirrors : Roster.Mirrors service client begun begun := ⟨⟨ready, ready, rfl⟩, 0, rfl⟩
  obtain ⟨ended, replies⟩ :=
    run_mirrors confined (start_isValid started) events begun_mirrors addressed
  refine ⟨ended.session, replies, fun earlier event different => ?_⟩
  obtain ⟨orderly, agrees⟩ := course_sound ready.orderly ready.agrees (earlier.map .event)
  rw [run_eq_course, run_eq_course, List.map_append, course_append]
  exact handle_frame orderly agrees different

end Service

namespace Rehearsal

/-- A service for stylesheets in a file tree. -/
def stylesheets : Service FileTree Unit :=
  .ofBackend (Css.backend fun files path => files.read path) directory

/-- Two clients open the same file, and one of them leaves and comes back. -/
def neighbours : List Event :=
  [parse ":1.8" "a.css", parse ":1.7" "a.css", leave ":1.7", parse ":1.8" "b.css",
    parse ":1.7" "a.css"]

end Rehearsal

theorem Service.run_isolated_neighbours :
    let begun : Roster FileTree Unit := .opened (Rehearsal.stylesheets.start .empty).2 ⟨[], []⟩
    let together := Rehearsal.stylesheets.run Rehearsal.neighbours begun
    let alone := Rehearsal.stylesheets.run (ownEvents ":1.7" Rehearsal.neighbours) begun
    (Rehearsal.stylesheets.start .empty).1 = .ok () ∧
      Rehearsal.stylesheets.backend.Confined Rehearsal.stylesheets.addressing ∧
      (∀ call, .call call ∈ Rehearsal.neighbours →
        call.path = Rehearsal.stylesheets.addressing.serviceObject) ∧
      (together.2.session? ":1.7").map Session.id = some 2 ∧
      (alone.2.session? ":1.7").map Session.id = some 1 ∧
      ∃ number, alone.2.session? ":1.7" = (together.2.session? ":1.7").map
        (Session.renumber Rehearsal.stylesheets.addressing number) := by
  have addressed : ∀ call, .call call ∈ Rehearsal.neighbours →
      call.path = Rehearsal.stylesheets.addressing.serviceObject := by
    intro call found
    simp only [Rehearsal.neighbours, Rehearsal.parse, Rehearsal.leave, List.mem_cons,
      Event.call.injEq, reduceCtorEq, List.not_mem_nil, or_false, false_or] at found
    rcases found with rfl | rfl | rfl | rfl <;> rfl
  have confined := Css.backend_confined (fun (files : FileTree) path => files.read path)
    Rehearsal.stylesheets.addressing
  have started : Rehearsal.stylesheets.start .empty =
      (.ok (), (Rehearsal.stylesheets.start .empty).2) := by rfl
  have isolated := run_isolated.2 Rehearsal.stylesheets _ started confined ⟨[], []⟩ ":1.7"
    Rehearsal.neighbours addressed
  exact ⟨by rfl, confined, addressed, by decide +kernel, by decide +kernel, isolated.1⟩

namespace Rehearsal

/-- A backend that keeps nothing in mind and finds a problem in the first document of the first
session, which it tells by the object path. -/
def prejudiced : Backend FileTree Unit :=
  { Css.backend (fun files path => files.read path) with
    parse := fun files state document _ =>
      ⟨files, state, document.diagnostics,
        if document.object = "/org/gnome/CodeAssist/v1/css/0/documents/0" then
          .problems [⟨⟨1, 1⟩, "first"⟩]
        else .done ()⟩ }

end Rehearsal

/-- A client is not isolated where the backend looks at the numbers of sessions, nor where one of
its other names is given up. -/
theorem Service.run_exposed :
    let service : Service FileTree Unit := .ofBackend Rehearsal.prejudiced Rehearsal.directory
    let begun : Roster FileTree Unit := .opened (service.start .empty).2 ⟨[], []⟩
    let opening := Rehearsal.parse ":1.7" "a.css"
    let events := [Rehearsal.parse ":1.8" "a.css", opening]
    let together := service.run events begun
    let alone := service.run (ownEvents ":1.7" events) begun
    let retirement : Event := .ownerChanged ⟨"org.example.Editor", ":1.7", ""⟩
    ((service.start .empty).1 = .ok () ∧
      (together.2.documentsOf ":1.7").map Document.diagnostics = [[]] ∧
      (alone.2.documentsOf ":1.7").map Document.diagnostics = [[.errorAt ⟨1, 1⟩ "first"]]) ∧
    let stayed := Rehearsal.service.run [opening] Rehearsal.roster
    let retired := Rehearsal.service.run [opening, retirement] Rehearsal.roster
    (stayed.2.contains ":1.7" = true ∧ retired.2.contains ":1.7" = false) := by
  refine ⟨⟨by rfl, ?_, ?_⟩, ?_, ?_⟩ <;> decide +kernel

end LintBus

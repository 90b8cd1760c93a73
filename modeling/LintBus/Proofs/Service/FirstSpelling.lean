import LintBus.Proofs.Client.Reached
import LintBus.Proofs.Service.Answered

/-!
# Paths in replies about projects

The reply about a project names documents by their paths.  A path among the members is spelled as
the first member that names it.  The root, when it is not among the members, is spelled as it was
when its document was opened: by this call, or by an earlier one in a spelling of its own.
-/

namespace LintBus

variable {ω σ : Type}

namespace Session

variable {addressing : Addressing} {session : Session σ}

/-- How the document at a path was spelled when it was opened. -/
def spelling? (session : Session σ) (path : FilePath) : Option String :=
  (session.documents.find? path).map Document.spelling

private theorem spelling?_eq (session : Session σ) (path : FilePath) :
    session.spelling? path =
      (session.handles.find? (·.path.same path)).map Handle.spelling := by
  rw [handles, Documents.handles, List.find?_map, Option.map_map]
  rfl

private theorem Revises.spelling?_eq {revised : Session σ} (revises : revised.Revises session)
    (path : FilePath) : revised.spelling? path = session.spelling? path := by
  rw [Session.spelling?_eq, Session.spelling?_eq, revises.handles_eq]

private theorem spelling?_congr {left right : FilePath} (same : left.same right = true)
    (session : Session σ) : session.spelling? left = session.spelling? right :=
  congrArg (Option.map Document.spelling) (session.documents.find?_congr same)

private theorem spelling?_opening (session : Session σ) (path contents : String) (cursor : Location)
    (named : FilePath) :
    (session.opening addressing path contents cursor).spelling? named =
      (session.spelling? named).or
        (if (addressing.canonical path).same named then some path else none) := by
  rw [spelling?_eq, handles_opening]
  split
  · next present =>
      rw [← spelling?_eq]
      split
      · next same =>
          have spelled : (session.spelling? named).isSome = true := by
            rw [← spelling?_congr same, spelling?, Option.isSome_map]
            exact present
          rw [Option.or_of_isSome spelled]
      · rw [Option.or_none]
  · rw [handles_enlist, List.find?_append, Option.map_or, ← spelling?_eq, List.find?_singleton,
      apply_ite (Option.map Handle.spelling)]
    rfl

private theorem spelling?_openingEach (session : Session σ) (openings : List Opening)
    (named : FilePath) :
    (session.openingEach addressing openings).spelling? named =
      (session.spelling? named).or
        ((openings.find? fun opening => (addressing.canonical opening.path).same named).map
          Opening.path) := by
  induction openings generalizing session with
  | nil => simp
  | cons opening rest induction =>
      rw [openingEach_cons, induction, spelling?_opening, List.find?_cons, Option.or_assoc]
      split
      · next same => simp [same]
      · next different => simp [different]

end Session

/-- How the document of a client at a path was spelled when it was opened. -/
def Roster.spelling? (roster : Roster ω σ) (identity : String) (path : FilePath) :
    Option String :=
  (roster.session? identity).bind (·.spelling? path)

private theorem Roster.spelling?_sessionFor (service : Service ω σ) (roster : Roster ω σ)
    (identity : String) (path : FilePath) :
    (roster.sessionFor service identity).1.spelling? path = roster.spelling? identity path := by
  rw [Session.spelling?, documents_sessionFor, documentsOf, spelling?]
  cases roster.session? identity <;> rfl

namespace Service

variable {service : Service ω σ} {roster : Roster ω σ} {sender : String}

/-- How the reply about a project spells a path: as the first member that names it.  When none does,
the path is that of the root, and it is spelled as its document was when it was opened, be it only
now. -/
def wording (service : Service ω σ) (roster : Roster ω σ) (sender : String)
    (request : ParseAllRequest) (path : FilePath) : String :=
  match request.members.find? fun member =>
      (service.addressing.canonical member.1).same path with
  | some member => member.1
  | none => (roster.spelling? sender path).getD request.path

private theorem wording_congr {left right : FilePath} (same : left.same right = true)
    (request : ParseAllRequest) :
    service.wording roster sender request left = service.wording roster sender request right := by
  rw [FilePath.same_iff] at same
  simp only [wording, Roster.spelling?, Session.spelling?, Documents.find?, FilePath.same, same]

private theorem same_root {request : ParseAllRequest} {path : FilePath}
    (in_scope : ProjectRun.inScope (service.scope (.parseAll request)) path = true)
    (unlisted : request.members.find? (fun member =>
      (service.addressing.canonical member.1).same path) = none) :
    (service.addressing.canonical request.path).same path = true := by
  obtain ⟨named, listed, same⟩ := List.any_eq_true.mp in_scope
  rw [scope_parseAll] at listed
  rw [FilePath.same_comm] at same
  rcases List.mem_cons.mp listed with rfl | listed
  · exact same
  · obtain ⟨member, member_mem, rfl⟩ := List.mem_map.mp listed
    exact absurd same (List.find?_eq_none.mp unlisted member member_mem)

section Opened

variable {request : ParseAllRequest} {remaining : Session σ} {path : FilePath}
  (revises : remaining.Revises ((roster.sessionFor service sender).1.openingEach
    service.addressing (Job.parseAll request).openings))

include revises

private theorem spelling_root
    (root : (service.addressing.canonical request.path).same path = true) {document : Document}
    (held : remaining.documents.find? path = some document) :
    document.spelling = (roster.spelling? sender path).getD request.path := by
  have spelled : remaining.spelling? path = some document.spelling := by
    rw [Session.spelling?, held, Option.map_some]
  rw [revises.spelling?_eq, Session.spelling?_openingEach, Roster.spelling?_sessionFor] at spelled
  simp only [Job.openings, List.find?_cons, root, Option.map_some] at spelled
  cases former : roster.spelling? sender path with
  | none => simpa [former] using spelled.symm
  | some text => simpa [former] using spelled.symm

/-- An entry of the reply about a project pairs the wording of a path with the object of the
document there. -/
theorem projectEntry_worded {opened : Roster ω σ} {entry : Json.Value}
    (kept : opened.session? sender = some remaining)
    (in_scope : ProjectRun.inScope (service.scope (.parseAll request)) path = true)
    (replied : service.projectEntry opened sender
      ((request.members.map (service.addressing.canonical ·.1)).zip
        (request.members.map (·.1))) path = .ok entry) :
    ∃ document ∈ remaining.documents, document.path.same path = true ∧
      entry =
        .array [.string (service.wording roster sender request path),
          .string document.object] := by
  have spellings : ((request.members.map (service.addressing.canonical ·.1)).zip
      (request.members.map (·.1))).find? (·.1.same path) =
        (request.members.find? fun member =>
          (service.addressing.canonical member.1).same path).map fun member =>
            (service.addressing.canonical member.1, member.1) := by
    rw [List.zip_map', List.find?_map]
    rfl
  simp only [projectEntry, kept, Option.bind_some, spellings] at replied
  cases held : remaining.documents.find? path with
  | none => simp [held] at replied
  | some document =>
      obtain ⟨document_mem, same⟩ := Documents.find?_some held
      refine ⟨document, document_mem, same, ?_⟩
      simp only [held, Except.ok.injEq] at replied
      rw [← replied, wording]
      cases listed : request.members.find? fun member =>
          (service.addressing.canonical member.1).same path with
      | some member => rfl
      | none =>
          rw [← spelling_root revises (same_root in_scope listed) held]
          rfl

/-- The wording of a path stands for it, and it is the call's own, or else that of a root which was
open before and is none of the members. -/
theorem wording_sound (orderly : remaining.Orderly service.addressing)
    {document : Document} (held : document ∈ remaining.documents)
    (in_scope : ProjectRun.inScope (service.scope (.parseAll request)) document.path = true) :
    let text := service.wording roster sender request document.path
    service.addressing.canonical text = document.path ∧
      (text ∈ request.path :: request.members.map (·.1) ∨
        service.addressing.canonical request.path = document.path ∧
        (∀ member ∈ request.members,
          service.addressing.canonical member.1 ≠ document.path) ∧
        roster.spelling? sender document.path = some text) := by
  intro text
  have named : ∀ path, (service.addressing.canonical path).same document.path = true →
      service.addressing.canonical path = document.path := fun path same =>
    ((orderly.same_canonical held path).mp (by rwa [FilePath.same_comm])).symm
  cases listed : request.members.find? fun member =>
      (service.addressing.canonical member.1).same document.path with
  | some member =>
      have text_eq : text = member.1 := by simp only [text, wording, listed]
      rw [text_eq]
      have member_mem := List.mem_of_find?_eq_some listed
      have same := List.find?_some listed
      exact ⟨named _ same,
        .inl (List.mem_cons_of_mem _ (List.mem_map_of_mem member_mem))⟩
  | none =>
      have root := same_root in_scope listed
      have found := Documents.find?_eq_some orderly.distinct held document.path.same_refl
      have text_eq : text = (roster.spelling? sender document.path).getD request.path := by
        simp only [text, wording, listed]
      have spelled : service.addressing.canonical document.spelling = document.path :=
        orderly.spelled document.handle (Documents.handle_mem held)
      rw [spelling_root revises root found, ← text_eq] at spelled
      refine ⟨spelled, ?_⟩
      cases former : roster.spelling? sender document.path with
      | none =>
          rw [former, Option.getD_none] at text_eq
          exact .inl (text_eq ▸ List.mem_cons_self)
      | some spelling =>
          rw [former, Option.getD_some] at text_eq
          refine .inr ⟨named _ root, fun member member_mem path_eq => ?_, by rw [text_eq]⟩
          have unlike := List.find?_eq_none.mp listed member member_mem
          simp [path_eq] at unlike

end Opened

private theorem exists_of_mem_mapM {α β ε : Type} {read : α → Except ε β} {items : List α}
    {values : List β} (read_all : items.mapM read = .ok values) {value : β}
    (listed : value ∈ values) : ∃ item ∈ items, read item = .ok value := by
  induction items generalizing values with
  | nil =>
      obtain rfl : [] = values := Except.ok.inj read_all
      exact absurd listed List.not_mem_nil
  | cons item rest induction =>
      rw [List.mapM_cons] at read_all
      cases first : read item with
      | error fault =>
          rw [first] at read_all
          cases read_all
      | ok head =>
          cases others : rest.mapM read with
          | error fault =>
              rw [first, others] at read_all
              cases read_all
          | ok tail =>
              rw [first, others] at read_all
              obtain rfl : head :: tail = values := Except.ok.inj read_all
              rcases List.mem_cons.mp listed with rfl | listed
              · exact ⟨item, List.mem_cons_self, first⟩
              · obtain ⟨other, other_mem, other_read⟩ := induction others listed
                exact ⟨other, List.mem_cons_of_mem item other_mem, other_read⟩

/-- A call about a project that succeeds has opened the documents of a request, and replies with
entries for paths in its scope. -/
theorem answer_entries {call : Call} (routed : Routed roster call .parseAll)
    {body : List Json.Value} (answered : (service.answer roster call).1 = .ok body) :
    ∃ request remaining entries,
      Job.ofArgs .parseAll call.args = .ok (.parseAll request) ∧
      (service.answer roster call).2.session? call.sender = some remaining ∧
      remaining.Revises ((roster.sessionFor service call.sender).1.openingEach
        service.addressing (Job.parseAll request).openings) ∧
      body = [.array entries] ∧
      ∀ entry ∈ entries, ∃ path,
        ProjectRun.inScope (service.scope (.parseAll request)) path = true ∧
        service.projectEntry (service.answer roster call).2 call.sender
          ((request.members.map (service.addressing.canonical ·.1)).zip
            (request.members.map (·.1))) path = .ok entry := by
  obtain ⟨job, opened, made, opened_ok, proceeded⟩ := answer_ok routed answered
  obtain ⟨request, rfl⟩ : ∃ request, job = .parseAll request := by
    rcases Job.ofArgs_cases (routed_iff.mp routed).1 made with
      ⟨request, unlike, -⟩ | ⟨document, unlike, -⟩ | ⟨request, -, job_eq⟩ | ⟨unlike, -⟩
    · exact absurd unlike (by decide)
    · exact absurd unlike (by decide)
    · exact ⟨request, job_eq⟩
    · exact absurd unlike (by decide)
  have found := Roster.openEach_ok (List.cons_ne_nil _ _) opened_ok
  obtain ⟨remaining, kept, revises, ended⟩ :=
    service.proceed_parseAll_found found call.path request
  rw [proceeded] at kept ended
  split at ended
  · cases ended
  · obtain ⟨parsed, in_scope, replied⟩ := ended
    cases entries_eq : parsed.mapM (service.projectEntry (service.answer roster call).2
        call.sender ((request.members.map (service.addressing.canonical ·.1)).zip
          (request.members.map (·.1)))) with
    | error fault =>
        rw [entries_eq] at replied
        cases replied
    | ok entries =>
        rw [entries_eq] at replied
        refine ⟨request, remaining, entries, made, kept, revises, Except.ok.inj replied,
          fun entry listed => ?_⟩
        obtain ⟨path, path_mem, read⟩ := exists_of_mem_mapM entries_eq listed
        exact ⟨path, in_scope path path_mem, read⟩

/-- In every course from a successful start, a reply about a project names each document by a text
that stands for its path, next to its object.  The text is one that the call itself passes, unless
the document is that of the root, is none of the members, and was open before in another spelling:
then it is that one. -/
theorem course_wording (begins : service.Begins roster) (occurrences : List (Occurrence ω))
    (call : Call) :
    let before := service.course occurrences roster
    let after := (service.answer before call).2
    Routed before call .parseAll → ∀ body, (service.answer before call).1 = .ok body →
      ∃ request entries, Job.decode Method.parseAll.action call.args = .ok (.parseAll request) ∧
        body = [.array entries] ∧
        ∀ entry ∈ entries, ∃ document ∈ after.documentsOf call.sender,
          let text := service.wording before call.sender request document.path
          entry = .array [.string text, .string document.object] ∧
          service.addressing.canonical text = document.path ∧
          (text ∈ request.path :: request.members.map (·.1) ∨
            service.addressing.canonical request.path = document.path ∧
            (∀ member ∈ request.members,
              service.addressing.canonical member.1 ≠ document.path) ∧
            before.spelling? call.sender document.path = some text) := by
  intro before after routed body answered
  obtain ⟨begun_orderly, begun_agrees⟩ := begins.sound
  obtain ⟨orderly, agrees⟩ := course_sound begun_orderly begun_agrees occurrences
  obtain ⟨request, remaining, entries, made, kept, revises, rfl, replied⟩ :=
    answer_entries routed answered
  have after_orderly := ((moves_answer orderly agrees call).orderly orderly).sessions remaining
    (Roster.session?_some kept).1
  refine ⟨request, entries, (Job.ofArgs_eq_ok.mp made).1, rfl, fun entry listed => ?_⟩
  obtain ⟨path, in_scope, read⟩ := replied entry listed
  obtain ⟨document, held, same, entry_eq⟩ := projectEntry_worded revises kept in_scope read
  rw [← wording_congr same] at entry_eq
  rw [← ProjectRun.inScope_congr same] at in_scope
  exact ⟨document, Roster.mem_documentsOf.mpr ⟨remaining, kept, held⟩, entry_eq,
    wording_sound revises after_orderly held in_scope⟩

end Service

namespace Rehearsal

/-- A client opens a file with a detour. -/
def detour : List (Occurrence Stage) := [.event (parse ":1.7" "./a.css")]

end Rehearsal

theorem Service.course_wording_detour :
    let before := Rehearsal.service.course Rehearsal.detour Rehearsal.roster
    let call := Rehearsal.parseAll ":1.7" "b.css" ["a.css", "../work/a.css"] []
    Rehearsal.service.Begins Rehearsal.roster ∧ Routed before call .parseAll ∧
      ∃ entries, (Rehearsal.service.answer before call).1 = .ok [.array entries] ∧
        ∀ entry ∈ entries, ∃ text ∈ ["b.css", "a.css", "../work/a.css"],
          ∃ document ∈ (Rehearsal.service.answer before call).2.documentsOf ":1.7",
            entry = .array [.string text, .string document.object] ∧
            Rehearsal.service.addressing.canonical text = document.path := by
  intro before call
  have routed : Routed before call .parseAll := Rehearsal.parseAll_routed ..
  have decodes : Job.decode Method.parseAll.action call.args =
      .ok (.parseAll ⟨"b.css", [("a.css", ""), ("../work/a.css", "")], .origin, []⟩) := by rfl
  have new_root : before.spelling? ":1.7" (Rehearsal.service.addressing.canonical "b.css") =
      none := by decide +kernel
  cases answered : (Rehearsal.service.answer before call).1 with
  | error fault =>
      have returns : (Rehearsal.service.answer before call).1.toBool = true := by
        decide +kernel
      rw [answered] at returns
      cases returns
  | ok body =>
      obtain ⟨request, entries, decoded, rfl, worded⟩ :=
        course_wording Rehearsal.begins Rehearsal.detour call routed body answered
      obtain rfl := Job.parseAll.inj (Except.ok.inj (decodes.symm.trans decoded))
      refine ⟨Rehearsal.begins, routed, entries, rfl, fun entry listed => ?_⟩
      obtain ⟨document, held, entry_eq, text_eq, own | ⟨root, -, spelled⟩⟩ := worded entry listed
      · exact ⟨_, own, document, held, entry_eq, text_eq⟩
      · rw [← root, show call.sender = ":1.7" from rfl, new_root] at spelled
        cases spelled

/-- The texts in the entries of a reply about a project. -/
def Rehearsal.texts (reply : Reply) : Option (List (List String)) :=
  reply.toOption.map fun body =>
    (body.flatMap Script.items).map fun entry => (Script.items entry).map Script.text

/-- The root of a project which has been open before in another spelling is not spelled as the call
does. -/
theorem Service.parseAll_former_spelling :
    let before := Rehearsal.service.course Rehearsal.detour Rehearsal.roster
    let call := Rehearsal.parseAll ":1.7" "a.css" [] []
    Routed before call .parseAll ∧
      Job.decode Method.parseAll.action call.args = .ok (.parseAll ⟨"a.css", [], .origin, []⟩) ∧
      Rehearsal.texts (Rehearsal.service.answer before call).1 =
        some [["./a.css", "/org/gnome/CodeAssist/v1/css/0/documents/0"]] := by
  intro before call
  exact ⟨Rehearsal.parseAll_routed .., by rfl, by decide +kernel⟩

end LintBus

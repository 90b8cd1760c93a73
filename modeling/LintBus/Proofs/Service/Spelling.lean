import LintBus.Proofs.Service.Course
import LintBus.Proofs.Service.Echo
import LintBus.Proofs.Service.Respelling

/-!
# Independence of spellings

Two courses in which the same is called for in different spellings go the same way.  At every step
clients are answered alike, and the sessions, their documents and the exports are the same, but for
the spellings that documents remember and those that replies about projects echo.
-/

namespace LintBus

open Json (Value Concur Texts Arrays Row)

variable {ω σ : Type}

/-- What a call says about a document that it opens stands for what another one says. -/
structure Opening.Respells (addressing : Addressing) (left right : Opening) : Prop where
  path : addressing.Respells left.path right.path
  contents : addressing.Respells left.contents right.contents
  cursor_eq : left.cursor = right.cursor

private theorem Job.Respells.openings {addressing : Addressing} {job job' : Job}
    (respells : Job.Respells addressing job job') :
    List.Forall₂ (Opening.Respells addressing) job.openings job'.openings := by
  cases respells with
  | parse cursor options paths places => exact .cons ⟨paths, places, rfl⟩ .nil
  | close same => exact .nil
  | parseAll cursor options paths pairs =>
      refine .cons ⟨paths, .refl _ _, rfl⟩ ?_
      rw [List.forall₂_map_left_iff, List.forall₂_map_right_iff]
      exact pairs.imp fun _ _ pair => ⟨pair.1, pair.2, rfl⟩
  | diagnostics => exact .nil

namespace Roster

variable {service : Service ω σ} {left right : Roster ω σ}

private theorem openDocument_respelled (alike : left.unspelled = right.unspelled)
    {opening opening' : Opening} (respells : opening.Respells service.addressing opening')
    (identity : String) :
    let opened := left.openDocument service identity opening.path opening.contents opening.cursor
    let opened' := right.openDocument service identity opening'.path opening'.contents
      opening'.cursor
    opened.1 = opened'.1 ∧ opened.2.unspelled = opened'.2.unspelled := by
  have from_left := left.openDocument_unspelled service identity respells.path.canonical_eq
    respells.contents.contentsPath_eq opening.cursor
  have from_right := right.openDocument_unspelled service identity
    (rfl : service.addressing.canonical opening'.path = _)
    (rfl : service.addressing.contentsPath opening'.contents = _) opening'.cursor
  rw [alike, respells.cursor_eq] at from_left
  rw [respells.cursor_eq]
  exact ⟨from_left.1.symm.trans from_right.1, from_left.2.symm.trans from_right.2⟩

private theorem openEach_respelled (alike : left.unspelled = right.unspelled)
    {openings openings' : List Opening}
    (respelled : List.Forall₂ (Opening.Respells service.addressing) openings openings')
    (identity : String) :
    (left.openEach service identity openings).1 =
        (right.openEach service identity openings').1 ∧
      (left.openEach service identity openings).2.unspelled =
        (right.openEach service identity openings').2.unspelled := by
  induction respelled generalizing left right with
  | nil => exact ⟨rfl, alike⟩
  | @cons opening opening' rest rest' respells _ induction =>
      have first := openDocument_respelled alike respells identity
      rw [openEach, openEach]
      generalize left.openDocument service identity opening.path opening.contents
        opening.cursor = opened at first ⊢
      generalize right.openDocument service identity opening'.path opening'.contents
        opening'.cursor = opened' at first ⊢
      obtain ⟨result, after⟩ := opened
      obtain ⟨result', after'⟩ := opened'
      obtain ⟨rfl, after_alike⟩ := first
      cases result with
      | error error => exact ⟨rfl, after_alike⟩
      | ok canonical => exact induction after_alike

private theorem exportedAt?_unspelled (roster : Roster ω σ) (object : String) :
    roster.unspelled.exportedAt? object =
      (roster.exportedAt? object).map Document.unspelled := by
  simp only [exportedAt?, unspelled, List.findSome?_map, List.map_findSome?]
  congr 1
  funext session
  exact session.documents.exportedAt?_unspelled object

end Roster

namespace Service

variable {service : Service ω σ} {left right : Roster ω σ}

private theorem objectOf_unspelled (roster : Roster ω σ) (sender : String) (canonical : FilePath) :
    objectOf roster.unspelled sender canonical = objectOf roster sender canonical := by
  simp only [objectOf, Roster.session?_unspelled]
  cases roster.session? sender with
  | none => rfl
  | some session =>
      simp only [Option.map_some, Option.bind_some, Session.find?_unspelled]
      cases session.documents.find? canonical with
      | none => rfl
      | some document => rfl

private theorem projectEntry_unspelled (service : Service ω σ) (roster : Roster ω σ)
    (sender : String)
    (spellings spellings' : List (FilePath × String)) (canonical : FilePath) :
    Concur (fun entry entry' => entry.unechoedEntry = entry'.unechoedEntry)
      (service.projectEntry roster sender spellings canonical)
      (service.projectEntry roster.unspelled sender spellings' canonical) := by
  simp only [projectEntry, Roster.session?_unspelled]
  cases roster.session? sender with
  | none => exact .error _
  | some session =>
      simp only [Option.map_some, Option.bind_some, Session.find?_unspelled]
      cases session.documents.find? canonical with
      | none => exact .error _
      | some document => exact .ok rfl

/-- Replies about a project are the same but for the paths that they echo. -/
theorem projectReply_unspelled (service : Service ω σ) (roster : Roster ω σ) (sender : String)
    (spellings spellings' : List (FilePath × String)) (parsed : List FilePath) :
    Reply.unechoed true
        ((parsed.mapM (service.projectEntry roster sender spellings)).map fun entries =>
          [.array entries]) =
      Reply.unechoed true
        ((parsed.mapM (service.projectEntry roster.unspelled sender spellings')).map
          fun entries => [.array entries]) := by
  have each_alike : ∀ canonical canonical', canonical = canonical' →
      Concur (fun entry entry' => entry.unechoedEntry = entry'.unechoedEntry)
        (service.projectEntry roster sender spellings canonical)
        (service.projectEntry roster.unspelled sender spellings' canonical') := by
    rintro canonical _ rfl
    exact service.projectEntry_unspelled roster sender spellings spellings' canonical
  have alike := Concur.mapM each_alike (List.forall₂_same.mpr fun _ (_ : _ ∈ parsed) => rfl)
  generalize parsed.mapM (service.projectEntry roster sender spellings) = entries at alike ⊢
  generalize parsed.mapM (service.projectEntry roster.unspelled sender spellings') = entries'
    at alike ⊢
  cases alike with
  | error fault => rfl
  | @ok entries entries' same =>
      have entries_eq : entries.map Value.unechoedEntry = entries'.map Value.unechoedEntry := by
        rw [← List.forall₂_eq_eq_eq, List.forall₂_map_left_iff, List.forall₂_map_right_iff]
        exact same
      simp [Reply.unechoed, Except.map, Value.unechoed, entries_eq]

private theorem diagnostics_unspelled (service : Service ω σ) (roster : Roster ω σ)
    (path : String) :
    service.diagnostics roster.unspelled path = service.diagnostics roster path := by
  simp only [diagnostics, Roster.exportedAt?_unspelled]
  cases roster.exportedAt? path with
  | none => rfl
  | some document => rfl

/-- What is left of a job when its documents are open goes the same way without spellings. -/
theorem proceed_unspelled (blind : service.backend.Blind) (roster : Roster ω σ)
    (sender path : String) {job job' : Job}
    (respells : Job.Respells service.addressing job job') :
    let given := service.proceed roster sender path job
    let other := service.proceed roster.unspelled sender path job'
    given.1.unechoed job.echoes = other.1.unechoed job'.echoes ∧ given.2.unspelled = other.2 := by
  cases respells with
  | parse cursor options paths places =>
      simp only [proceed, ← paths.canonical_eq, roster.parse_unspelled blind]
      generalize roster.parse service sender _ options = parsed
      obtain ⟨_ | _ | _, after⟩ := parsed
      · exact ⟨rfl, rfl⟩
      · exact ⟨rfl, rfl⟩
      · refine ⟨?_, rfl⟩
        dsimp only
        rw [objectOf_unspelled]
        rfl
  | close same =>
      have closed := roster.closeDocument_unspelled blind sender
        (FilePath.canonical_eq_of_same same)
      exact ⟨rfl, closed.symm⟩
  | @parseAll root root' members members' cursor options paths pairs =>
      have members_eq : members.map (service.addressing.canonical ·.1) =
          members'.map (service.addressing.canonical ·.1) := by
        rw [← List.forall₂_eq_eq_eq, List.forall₂_map_left_iff, List.forall₂_map_right_iff]
        exact pairs.imp fun _ _ pair => pair.1.canonical_eq
      simp only [proceed, ← paths.canonical_eq, ← members_eq, roster.parseAll_unspelled blind]
      generalize roster.parseAll service sender _ _ options = parsed
      obtain ⟨_ | _ | parsed, after⟩ := parsed
      · exact ⟨rfl, rfl⟩
      · exact ⟨rfl, rfl⟩
      · exact ⟨service.projectReply_unspelled after sender _ _ parsed, rfl⟩
  | diagnostics =>
      exact ⟨congrArg (Reply.unechoed false) (service.diagnostics_unspelled roster path).symm, rfl⟩

/-- Jobs in different spellings are done alike. -/
theorem perform_respelled (blind : service.backend.Blind)
    (alike : left.unspelled = right.unspelled) (sender path : String) {job job' : Job}
    (respells : Job.Respells service.addressing job job') :
    let done := service.perform left sender path job
    let done' := service.perform right sender path job'
    done.1.unechoed job.echoes = done'.1.unechoed job'.echoes ∧
      done.2.unspelled = done'.2.unspelled := by
  have opened := Roster.openEach_respelled alike respells.openings sender
  simp only [perform_eq]
  generalize left.openEach service sender job.openings = given at opened ⊢
  generalize right.openEach service sender job'.openings = other at opened ⊢
  obtain ⟨result, after⟩ := given
  obtain ⟨result', after'⟩ := other
  obtain ⟨rfl, after_alike⟩ := opened
  cases result with
  | error error => exact ⟨by cases respells <;> rfl, after_alike⟩
  | ok done =>
      have from_left := proceed_unspelled blind after sender path respells
      have from_right := proceed_unspelled blind after' sender path
        (.refl service.addressing job')
      dsimp only at from_left from_right
      rw [← after_alike] at from_right
      exact ⟨from_left.1.trans from_right.1.symm, from_left.2.trans from_right.2.symm⟩

/-- Calls in different spellings are answered alike. -/
theorem answer_respelled (blind : service.backend.Blind)
    (alike : left.unspelled = right.unspelled) {call call' : Call}
    (respells : call.Respells service.addressing call') :
    let answered := service.answer left call
    let answered' := service.answer right call'
    answered.1.unechoed call.echoes = answered'.1.unechoed call'.echoes ∧
      answered.2.unspelled = answered'.2.unspelled := by
  obtain ⟨args', rfl⟩ := respells.args_only
  have bus_eq : left.around.bus = right.around.bus := by
    change left.unspelled.around.bus = right.unspelled.around.bus
    rw [alike]
  have describe_eq : describe right { call with args := args' } = describe left call := by
    simp only [describe, bus_eq]
  have resolve_eq : resolve right { call with args := args' } = resolve left call := by
    simp only [resolve, bus_eq]
  by_cases described : call.interface = introspectable
  · simp only [answer, if_pos described, describe_eq]
    exact ⟨rfl, alike⟩
  cases resolved : resolve left call with
  | error error =>
      simp only [answer, if_neg described, resolve_eq, resolved]
      exact ⟨rfl, alike⟩
  | ok method =>
      obtain ⟨listed, named, member_eq, -⟩ := resolve_eq_ok.mp resolved
      rcases (Job.ofArgs_alike (respells.args listed named member_eq)).error_or_ok with
        ⟨error, refused, refused'⟩ | ⟨job, job', made, made', job_respells⟩
      · simp only [answer, if_neg described, resolve_eq, resolved, refused, refused']
        exact ⟨rfl, alike⟩
      · have done := perform_respelled blind alike call.sender call.path job_respells
        dsimp only at done
        rw [Job.echoes_ofArgs listed member_eq made,
          Job.echoes_ofArgs listed member_eq made'] at done
        have answered' : service.answer right { call with args := args' } = _ :=
          answer_of_job described (resolve_eq.trans resolved) made'
        rw [answer_of_job described resolved made, answered']
        refine ⟨?_, done.2⟩
        have checked := Call.unechoed_answerWith listed member_eq service.backend.language
        rw [checked, done.1, ← checked]
        rfl

/-- The reply to a call, if that is what occurs. -/
def reply? (service : Service ω σ) (roster : Roster ω σ) : Occurrence ω → Option Reply
  | .event event => (service.handle roster event).1
  | .gate _ | .world _ => none

end Service

/-- A call about a project occurs, so that the reply echoes paths. -/
def Occurrence.echoes : Occurrence ω → Bool
  | .event (.call call) => call.echoes
  | .event (.ownerChanged _) | .gate _ | .world _ => false

/-- An occurrence stands for another: it is the same, or both are calls in different spellings. -/
inductive Occurrence.Respells (addressing : Addressing) : Occurrence ω → Occurrence ω → Prop
  | call {call call' : Call} (respells : call.Respells addressing call') :
      Respells addressing (.event (.call call)) (.event (.call call'))
  | ownerChanged (change : OwnerChange) :
      Respells addressing (.event (.ownerChanged change)) (.event (.ownerChanged change))
  | gate (gate : Gate) : Respells addressing (.gate gate) (.gate gate)
  | world (world : ω) : Respells addressing (.world world) (.world world)

namespace Service

/-- The steps of a course without spellings: for each occurrence the reply, if there is one,
without the paths that it echoes, and the roster afterwards without those that its documents
remember. -/
def trace (service : Service ω σ) :
    List (Occurrence ω) → Roster ω σ → List (Option Reply × Roster ω σ)
  | [], _ => []
  | occurrence :: rest, roster =>
      ((service.reply? roster occurrence).map (Reply.unechoed occurrence.echoes),
          (service.react roster occurrence).unspelled) ::
        trace service rest (service.react roster occurrence)

variable {service : Service ω σ} {left right : Roster ω σ}

private theorem react_respelled (blind : service.backend.Blind)
    (alike : left.unspelled = right.unspelled) {occurrence occurrence' : Occurrence ω}
    (respells : occurrence.Respells service.addressing occurrence') :
    (service.reply? left occurrence).map (Reply.unechoed occurrence.echoes) =
        (service.reply? right occurrence').map (Reply.unechoed occurrence'.echoes) ∧
      (service.react left occurrence).unspelled = (service.react right occurrence').unspelled := by
  cases respells with
  | call respells =>
      obtain ⟨reply_eq, after_alike⟩ := answer_respelled blind alike respells
      exact ⟨congrArg some reply_eq, after_alike⟩
  | ownerChanged change =>
      have from_left := congrArg Prod.snd (left.ownerChanged_unspelled blind change)
      have from_right := congrArg Prod.snd (right.ownerChanged_unspelled blind change)
      rw [alike] at from_left
      exact ⟨rfl, from_left.symm.trans from_right⟩
  | gate gate =>
      have bus_alike := congrArg
        (fun roster => roster.setBus { roster.around.bus with gate := gate }) alike
      exact ⟨rfl, bus_alike⟩
  | world world => exact ⟨rfl, congrArg (·.setWorld world) alike⟩

/-- In courses that begin alike and in which the same is called for in different spellings, the
same happens at every step. -/
theorem trace_alike (blind : service.backend.Blind)
    (alike : left.unspelled = right.unspelled) {occurrences occurrences' : List (Occurrence ω)}
    (respelled :
      List.Forall₂ (Occurrence.Respells service.addressing) occurrences occurrences') :
    service.trace occurrences left = service.trace occurrences' right := by
  induction respelled generalizing left right with
  | nil => rfl
  | cons respells _ induction =>
      obtain ⟨reply_eq, after_alike⟩ := react_respelled blind alike respells
      rw [trace, trace, reply_eq, after_alike, induction after_alike]

/-- How clients spell paths makes no difference but for what echoes it.  The backends that come with
the service are blind to spellings.  Two courses of a service with a blind backend, in which the
same occurs but for calls in different spellings, have the same replies and leave the same sessions,
documents and exports at every step. -/
theorem trace_respelled :
    (∀ fileText : ω → FilePath → Except FileError String,
      ∀ backend ∈ Backend.builtin fileText, backend.Blind) ∧
    ∀ service : Service ω σ, service.backend.Blind →
      ∀ occurrences occurrences' : List (Occurrence ω),
        List.Forall₂ (Occurrence.Respells service.addressing) occurrences occurrences' →
          ∀ roster, service.trace occurrences roster = service.trace occurrences' roster :=
  ⟨Backend.builtin_blind, fun _ blind _ _ respelled _ => trace_alike blind rfl respelled⟩

end Service

namespace Rehearsal

/-- A client has a project parsed and closes its root, with these spellings of the two files. -/
def spelled (first second : String) : List (Occurrence Stage) :=
  [.event (parse ":1.7" first), .event (.call (parseAll ":1.7" first [second] [])),
    .event (.call (dispose ":1.7" first)), .event (leave ":1.7")]

private theorem spelled_respells {first first' second second' : String}
    (firsts : service.addressing.Respells first first')
    (seconds : service.addressing.Respells second second') :
    List.Forall₂ (Occurrence.Respells service.addressing) (spelled first second)
      (spelled first' second') := by
  have parse_listed : Method.parse ∈ Method.all := by decide
  have parseAll_listed : Method.parseAll ∈ Method.all := by decide
  have dispose_listed : Method.dispose ∈ Method.all := by decide
  have members : Arrays (Row [Texts service.addressing.Respells, Texts service.addressing.Respells])
      (.array [.string second, .string ""]) (.array [.string second', .string ""]) :=
    .arrays (.next (.texts seconds) (.next (.same _) (.rest _)))
  refine .cons (.call ?parse) (.cons (.call ?parseAll) (.cons (.call ?dispose)
    (.cons (.ownerChanged _) .nil)))
  case parse =>
    exact .method parse_listed _ _ (.next (.texts firsts) (.next (.same _) (.rest _)))
  case parseAll =>
    exact .method parseAll_listed _ _
      (.next (.texts firsts) (.next (.arrays (.cons members .nil)) (.rest _)))
  case dispose =>
    exact .method dispose_listed _ _ (.next (.texts firsts.same) (.done _))

end Rehearsal

theorem Service.trace_respelled_detours :
    let plain := Rehearsal.spelled "a.css" "b.css"
    let respelled := Rehearsal.spelled "./detour/../a.css" "/work//b.css"
    Rehearsal.service.trace plain Rehearsal.roster =
        Rehearsal.service.trace respelled Rehearsal.roster ∧
      (Rehearsal.service.trace plain Rehearsal.roster).map (fun step =>
        (step.1.map Except.toBool, step.2.documents.map (·.path.text))) =
          [(some true, ["/work/a.css"]), (some true, ["/work/a.css", "/work/b.css"]),
            (some true, ["/work/b.css"]), (none, [])] := by
  have blind : Rehearsal.service.backend.Blind := Scripted.backend_blind "css" _
  have respelled := Rehearsal.spelled_respells
    (⟨by decide +kernel, by decide +kernel⟩ :
      Rehearsal.service.addressing.Respells "a.css" "./detour/../a.css")
    (⟨by decide +kernel, by decide +kernel⟩ :
      Rehearsal.service.addressing.Respells "b.css" "/work//b.css")
  exact ⟨trace_respelled.2 Rehearsal.service blind _ _ respelled Rehearsal.roster,
    by decide +kernel⟩

namespace Rehearsal

/-- A backend that keeps nothing in mind and takes documents only if they are spelled in full. -/
def fastidious : Backend Stage Unit :=
  { Scripted.plainBackend "css" [.diagnostics] with
    parse := fun stage state document _ =>
      ⟨stage, state, document.diagnostics,
        if document.spelling = document.path.text then .done ()
        else .failed (.raised "script" "Spelling" document.spelling)⟩ }

/-- A client asks to parse the file `a.css` with its contents at some place. -/
def parseFrom (sender contents : String) : Event :=
  .call
    { sender := sender
      path := "/org/gnome/CodeAssist/v1/css"
      interface := "org.gnome.CodeAssist.v1.Service"
      member := "Parse"
      args := [.string "a.css", .string contents,
        .array [.number (.integer 0), .number (.integer 0)], .object []] }

end Rehearsal

/-- Spellings make a difference where the backend looks at them.  They also do where a place of
contents that is named is taken for one that is not: an empty path has the canonical form of the
base directory, but as a place of contents it stands for the path of the document. -/
theorem Service.run_misspelled :
    let service : Service Stage Unit := .ofBackend Rehearsal.fastidious Rehearsal.directory
    let begun : Roster Stage Unit := .opened (service.start .empty).2 (Scripted.stage ⟨[], []⟩)
    let inFull := service.run [Rehearsal.parse ":1.7" "/work/a.css"] begun
    let inShort := service.run [Rehearsal.parse ":1.7" "a.css"] begun
    let named := Rehearsal.service.run [Rehearsal.parseFrom ":1.7" "."] Rehearsal.roster
    let unnamed := Rehearsal.service.run [Rehearsal.parseFrom ":1.7" ""] Rehearsal.roster
    (service.addressing.Respells "/work/a.css" "a.css" ∧
      inFull.1.map Except.toBool = [true] ∧ inShort.1.map Except.toBool = [false]) ∧
    (Rehearsal.service.addressing.canonical "" = Rehearsal.service.addressing.canonical "." ∧
      named.2.documents.map (·.contents.text) = ["/work"] ∧
      unnamed.2.documents.map (·.contents.text) = ["/work/a.css"]) := by
  refine ⟨⟨⟨?_, ?_⟩, ?_, ?_⟩, ?_, ?_, ?_⟩ <;> decide +kernel

end LintBus

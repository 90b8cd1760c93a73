import LintBus.Proofs.Client.Confinement
import LintBus.Proofs.Client.Reopening
import LintBus.Proofs.Service.Surface

/-!
# The cursor in the root of a project

A call for a project brings a cursor for the root, and members come without one.  The backend sees
the root with the cursor of the call, and so it is left, but only as long as the root is not listed
among the members as well: as a member it has no cursor.
-/

namespace LintBus

variable {ω σ : Type}

namespace ProjectRun

/-- A look of a handler at a path, and what it has found there. -/
structure Look where
  path : FilePath
  found : Option Document

/-- The looks of a handler while it works on the documents at the paths in `scope`. -/
def looks {α : Type} (scope : List FilePath) : ProjectRun α → Documents → List Look
  | .finish _, _ => []
  | .contains path next, documents => looks scope (next (inScope scope path)) documents
  | .look path next, documents =>
      let found := if inScope scope path then documents.find? path else none
      ⟨path, found⟩ :: looks scope (next found) documents
  | .revise path diagnostics next, documents =>
      looks scope next
        (if inScope scope path then documents.update path (·.diagnosed diagnostics)
        else documents)

/-- Whatever a handler has done before, it finds the documents as they were but for their
diagnostics. -/
theorem looks_found {α : Type} {scope : List FilePath} {work : ProjectRun α}
    {documents : Documents} {look : Look} (looked : look ∈ work.looks scope documents) :
    look.found.map (·.diagnosed []) =
      if inScope scope look.path then (documents.find? look.path).map (·.diagnosed [])
      else none := by
  induction work generalizing documents with
  | finish result => exact absurd looked List.not_mem_nil
  | contains known next induction => exact induction _ looked
  | look seen next induction =>
      rcases List.mem_cons.mp looked with rfl | later
      · dsimp only
        split
        · rfl
        · rfl
      · exact induction _ later
  | revise revised diagnostics next induction =>
      rw [induction looked]
      congr 1
      split
      · rw [Documents.find?_update documents revised look.path (·.diagnosed diagnostics)
          fun _ => rfl, Option.map_map]
        congr 1
        funext document
        simp only [Function.comp]
        split
        · rfl
        · rfl
      · rfl

end ProjectRun

/-- The cursor in the root of a project: that of the call, but none if the root is listed among the
members. -/
def ParseAllRequest.rootCursor (addressing : Addressing) (request : ParseAllRequest) : Location :=
  if request.members.any fun member =>
      (addressing.canonical request.path).same (addressing.canonical member.1) then .origin
  else request.cursor

private theorem Opening.last?_root (addressing : Addressing) (request : ParseAllRequest) :
    ∃ opening, last? addressing (Job.parseAll request).openings
        (addressing.canonical request.path) = some opening ∧
      opening.cursor = request.rootCursor addressing := by
  have relisted : (request.members.any fun member =>
      (addressing.canonical request.path).same (addressing.canonical member.1)) =
        (last? addressing (request.members.map fun member => ⟨member.1, member.2, .origin⟩)
          (addressing.canonical request.path)).isSome := by
    simp [isSome_last?, ProjectRun.inScope, Function.comp_def]
  rw [Job.openings, last?_cons, if_pos (FilePath.same_refl _), ParseAllRequest.rootCursor,
    relisted]
  cases said : last? addressing
      (request.members.map fun member => ⟨member.1, member.2, .origin⟩)
      (addressing.canonical request.path) with
  | none => exact ⟨_, rfl, rfl⟩
  | some opening =>
      have listed := List.mem_reverse.mp (List.mem_of_find?_eq_some said)
      obtain ⟨member, -, rfl⟩ := List.mem_map.mp listed
      exact ⟨_, rfl, rfl⟩

private theorem Session.root_openingEach (session : Session σ) (addressing : Addressing)
    (request : ParseAllRequest) :
    ∃ document, (session.openingEach addressing (Job.parseAll request).openings).documents.find?
        (addressing.canonical request.path) = some document ∧
      document.cursor = request.rootCursor addressing := by
  obtain ⟨document, found⟩ := open_iff.mp (open_openingEach
    (List.mem_cons_self : (⟨request.path, "", request.cursor⟩ : Opening) ∈
      (Job.parseAll request).openings) session)
  obtain ⟨document_mem, same⟩ := Documents.find?_some found
  obtain ⟨opening, said, cursor_eq⟩ := Opening.last?_root addressing request
  rw [← Opening.last?_congr same] at said
  exact ⟨document, found, (cursor_of_mem document_mem said).trans cursor_eq⟩

namespace Service

variable {service : Service ω σ} {roster : Roster ω σ} {call : Call} {request : ParseAllRequest}

/-- The looks of the backend while it parses the project of a call. -/
def looks (service : Service ω σ) (roster : Roster ω σ) (call : Call) : List ProjectRun.Look :=
  match job? roster call with
  | some (.parseAll request) =>
      let opened := (roster.openEach service call.sender (Job.parseAll request).openings).2
      let root := service.addressing.canonical request.path
      let members := request.members.map (service.addressing.canonical ·.1)
      (opened.session? call.sender).elim [] fun session =>
        (service.backend.parseAll opened.around.world session.state root members
          request.options).looks (root :: members)
            (Session.clearDiagnostics (root :: members) session.documents)
  | _ => []

/-- The session in which a project is parsed, and the one that is left. -/
theorem answer_parseAll (made : job? roster call = some (.parseAll request))
    (admitted : (roster.openEach service call.sender (Job.parseAll request).openings).1 = .ok ()) :
    let opened := (roster.openEach service call.sender (Job.parseAll request).openings).2
    let session := (roster.sessionFor service call.sender).1.openingEach service.addressing
      (Job.parseAll request).openings
    opened.session? call.sender = some session ∧
      (service.answer roster call).2.session? call.sender =
        some (session.parseAll service.backend opened.around.world
          (service.addressing.canonical request.path)
          (request.members.map (service.addressing.canonical ·.1)) request.options).2.1 := by
  intro opened session
  have outcome : roster.openEach service call.sender (Job.parseAll request).openings =
      (.ok (), opened) := Prod.ext admitted rfl
  have found := Roster.openEach_ok (List.cons_ne_nil _ _) outcome
  obtain ⟨method, -, -, answered⟩ := answer_job service made
  obtain ⟨after, parsed, kept⟩ := Roster.parseAll_found found
    (service.addressing.canonical request.path)
    (request.members.map (service.addressing.canonical ·.1)) request.options
  refine ⟨found, ?_⟩
  rw [answered, perform_opened outcome, proceed_parseAll, parsed]
  exact kept

/-- A backend that parses a project finds the root wherever it looks for it, and with the cursor of
the call unless the call lists the root among the members.  When the call has been answered the root
still has that cursor. -/
theorem answer_cursor (service : Service ω σ) (made : job? roster call = some (.parseAll request))
    (admitted : (roster.openEach service call.sender (Job.parseAll request).openings).1 = .ok ()) :
    let after := (service.answer roster call).2
    let root := service.addressing.canonical request.path
    (∀ look ∈ service.looks roster call, look.path.same root = true →
      ∃ document, look.found = some document ∧ document.path.same root = true ∧
        document.cursor = request.rootCursor service.addressing) ∧
    ∃ document, Documents.find? (after.documentsOf call.sender) root = some document ∧
      document.cursor = request.rootCursor service.addressing := by
  intro after root
  obtain ⟨found, kept⟩ := answer_parseAll made admitted
  obtain ⟨document, found_root, cursor_eq⟩ :=
    (roster.sessionFor service call.sender).1.root_openingEach service.addressing request
  have same := (Documents.find?_some found_root).2
  have root_in_scope : ProjectRun.inScope (root :: request.members.map
      (service.addressing.canonical ·.1)) root = true := by
    simp [ProjectRun.inScope]
  constructor
  · intro look looked path_same
    rw [looks, made] at looked
    simp only [found, Option.elim_some] at looked
    have seen_eq := ProjectRun.looks_found looked
    rw [ProjectRun.inScope_congr path_same, if_pos root_in_scope, Documents.find?_congr path_same,
      Session.find?_cleared root_in_scope found_root, Option.map_some] at seen_eq
    obtain ⟨seen, look_found, seen_eq⟩ := Option.map_eq_some_iff.mp seen_eq
    have path_eq := congrArg Document.path seen_eq
    have seen_cursor := congrArg Document.cursor seen_eq
    change seen.path = document.path at path_eq
    change seen.cursor = document.cursor at seen_cursor
    exact ⟨seen, look_found, path_eq ▸ same, seen_cursor.trans cursor_eq⟩
  · have left_eq := Session.find?_parseAll
      ((roster.sessionFor service call.sender).1.openingEach service.addressing
        (Job.parseAll request).openings)
      service.backend
      (roster.openEach service call.sender (Job.parseAll request).openings).2.around.world
      root (request.members.map (service.addressing.canonical ·.1)) request.options root
    rw [found_root, Option.map_some] at left_eq
    obtain ⟨left, found_left, left_eq⟩ := Option.map_eq_some_iff.mp left_eq
    have left_cursor : left.cursor = document.cursor := by
      simpa using congrArg Document.cursor left_eq
    refine ⟨left, ?_, left_cursor.trans cursor_eq⟩
    rw [Roster.documentsOf, kept, Option.elim_some]
    exact found_left

end Service

/-- A client with its cursor in `a.css` has the project of that file parsed. -/
def Rehearsal.pointing (members : List (String × String)) : Call :=
  { parseAll ":1.7" "a.css" [] [] with
    args :=
      [.string "a.css",
        .array (members.map fun member => .array [.string member.1, .string member.2]),
        .array [.number (.integer 3), .number (.integer 7)], .object (scribble "seen" [])] }

theorem Service.answer_cursor_kept :
    let call := Rehearsal.pointing [("b.css", "")]
    job? Rehearsal.roster call = some (.parseAll
        ⟨"a.css", [("b.css", "")], ⟨3, 7⟩, Rehearsal.scribble "seen" []⟩) ∧
      ∃ document, Documents.find?
          ((Rehearsal.service.answer Rehearsal.roster call).2.documentsOf ":1.7")
          ⟨"/work/a.css"⟩ = some document ∧
        document.cursor = ⟨3, 7⟩ := by
  intro call
  have made : job? Rehearsal.roster call = some (.parseAll
      ⟨"a.css", [("b.css", "")], ⟨3, 7⟩, Rehearsal.scribble "seen" []⟩) := by rfl
  obtain ⟨document, found, cursor_eq⟩ :=
    (answer_cursor Rehearsal.service made (by decide +kernel)).2
  have root_eq : Rehearsal.service.addressing.canonical "a.css" = ⟨"/work/a.css"⟩ := by
    decide +kernel
  refine ⟨made, document, root_eq ▸ found, cursor_eq.trans (by decide +kernel)⟩

/-- A root that is listed among the members loses its cursor before the backend sees it. -/
theorem Service.listed_root_loses_cursor :
    let call := Rehearsal.pointing [("./a.css", "")]
    job? Rehearsal.roster call = some (.parseAll
        ⟨"a.css", [("./a.css", "")], ⟨3, 7⟩, Rehearsal.scribble "seen" []⟩) ∧
      (Rehearsal.service.looks Rehearsal.roster call).map
        (fun look => (look.path, look.found.map Document.cursor)) =
          [(⟨"/work/a.css"⟩, some ⟨0, 0⟩)] ∧
      ((Rehearsal.service.answer Rehearsal.roster call).2.documentsOf ":1.7").map
        (fun document => (document.path, document.cursor)) = [(⟨"/work/a.css"⟩, ⟨0, 0⟩)] :=
  ⟨by rfl, by decide +kernel, by decide +kernel⟩

end LintBus

import LintBus.Proofs.Client.Reached
import LintBus.Proofs.Service.Course

/-!
# Opening one document

Opening a document is all or nothing.  When any of its exports is refused, everything is as it was
but for the number of a session that was made for it; when all are admitted, the document is open
and exported completely and nothing else has changed.
-/

namespace LintBus

variable {ω σ : Type} {service : Service ω σ} {roster : Roster ω σ}

namespace Service

private theorem perform_reached (reached : roster.Reached service) (sender path : String)
    (job : Job) :
    (service.perform roster sender path job).2.Reached service := by
  have opened := reached.openEach sender job.openings
  rw [perform_eq]
  split
  · next outcome =>
      rw [outcome] at opened
      exact opened
  · next after outcome =>
      rw [outcome] at opened
      cases job with
      | parse request =>
          rw [proceed_parse]
          exact opened.parse sender _ request.options
      | parseAll request =>
          rw [proceed_parseAll]
          exact opened.parseAll sender _ _ request.options
      | close document => exact opened.closeDocument sender document
      | diagnostics => exact opened

private theorem handle_reached (reached : roster.Reached service) (event : Event) :
    (service.handle roster event).2.Reached service := by
  cases event with
  | call call =>
      change (service.answer roster call).2.Reached service
      cases found : job? roster call with
      | none =>
          rw [answer_idle found]
          exact reached
      | some job =>
          obtain ⟨method, -, -, answered⟩ := answer_job service found
          rw [answered]
          exact perform_reached reached call.sender call.path job
  | ownerChanged change =>
      cases departed : change.departed? with
      | none =>
          have idle : Event.client? (.ownerChanged change) = none := departed
          rw [handle_idle idle]
          exact reached
      | some identity =>
          rw [handle_departed departed]
          exact reached.dismiss identity

private theorem course_reached (reached : roster.Reached service)
    (occurrences : List (Occurrence ω)) :
    (service.course occurrences roster).Reached service := by
  induction occurrences generalizing roster with
  | nil => exact reached
  | cons occurrence rest induction =>
      refine induction ?_
      cases occurrence with
      | event event => exact handle_reached reached event
      | gate gate => exact reached.setBus fun _ _ _ => .rfl
      | world world => exact reached.setWorld world

private theorem Begins.reached (begins : service.Begins roster) : roster.Reached service := by
  obtain ⟨-, agrees⟩ := begins.sound
  obtain ⟨gate, bus, world, -, rfl⟩ := begins
  refine .opened (fun number id interface => ?_) world
  have shows := Roster.shows_of_agrees agrees number id interface
  rw [show bus = (Roster.opened (σ := σ) bus world).around.bus from rfl, shows]
  simp [Bus.empty, Roster.Holds, Roster.opened]

end Service

namespace Roster

/-- Every roster in the course of a service is reached.  On one that is, behind whichever gate,
opening a document fails and leaves all as it was, but for the number of a session that the client
did not have; or else the client has the document at its canonical path with the cursor and the
place of the contents that the call names, it shows all interfaces of documents, and no other
document or object has changed.  A document that was open keeps everything else, and one that was
not is new, shown where nothing was. -/
theorem openDocument_all_or_nothing :
    (∀ begun : Roster ω σ, service.Begins begun → ∀ occurrences : List (Occurrence ω),
      (service.course occurrences begun).Reached service) ∧
    ∀ roster : Roster ω σ, roster.Reached service →
      ∀ (identity path contents : String) (cursor : Location),
      let canonical := service.addressing.canonical path
      let place := service.addressing.contentsPath contents
      let after := (roster.openDocument service identity path contents cursor).2
      match (roster.openDocument service identity path contents cursor).1 with
      | .error _ =>
          after = if roster.contains identity then roster
            else { roster with nextId := roster.nextId + 1 }
      | .ok opened =>
          opened = canonical ∧ ∃ document, document.path = canonical ∧
            document.contents = (if place.text.isEmpty then canonical else place) ∧
            document.cursor = cursor ∧ roster.Opens service identity document after ∧
            (∀ former ∈ roster.documentsOf identity, former.path = canonical →
              document = former.refresh place cursor ∧ after.around = roster.around) ∧
            ((∀ former ∈ roster.documentsOf identity, former.path ≠ canonical) →
              document.spelling = path ∧ document.diagnostics = [] ∧
                roster.around.bus.interfaces document.object = []) := by
  refine ⟨fun begun begins => Service.course_reached begins.reached, ?_⟩
  intro roster reached identity path contents cursor canonical place after
  obtain ⟨orderly, shows⟩ := reached.sound
  cases outcome : (roster.openDocument service identity path contents cursor).1 with
  | error error =>
      have refused : roster.openDocument service identity path contents cursor =
          (.error error, after) := Prod.ext outcome rfl
      have kept := openDocument_error orderly shows refused
      rw [kept]
      cases found : roster.session? identity with
      | some session => simp [contains, found, sessionFor_some found]
      | none => simp [contains, found, sessionFor_none found, enroll]
  | ok opened =>
      have opened_eq : roster.openDocument service identity path contents cursor =
          (.ok opened, after) := Prod.ext outcome rfl
      have opens := openDocument_opens orderly shows opened_eq
      have adds := openDocument_adds orderly shows opened_eq
      have documents_eq := documents_sessionFor service roster identity
      have given_orderly : (roster.sessionFor service identity).1.Orderly service.addressing :=
        ((moves_sessionFor service roster identity).orderly orderly).sessions _
          (session?_some (session?_sessionFor service roster identity)).1
      generalize (roster.sessionFor service identity).1 = session at *
      have path_eq : (session.target service.addressing path contents cursor).path = canonical :=
        Session.target_path given_orderly path contents cursor
      refine ⟨(openDocument_ok opened_eq).1, _, path_eq, ?_, rfl, opens, ?_, ?_⟩
      · rw [← path_eq]
        rfl
      · rw [← documents_eq]
        intro former held former_path
        refine ⟨Session.target_of_mem given_orderly held former_path contents cursor, ?_⟩
        rcases adds with ⟨-, -, around_eq⟩ | ⟨absent, -⟩
        · exact around_eq
        · have unlike := Documents.find?_none.mp absent former held
          rw [(given_orderly.same_canonical held path).mpr former_path] at unlike
          simp at unlike
      · rw [← documents_eq]
        intro elsewhere
        rcases adds with ⟨former, found, -⟩ | ⟨absent, clear, -⟩
        · obtain ⟨held, same⟩ := Documents.find?_some found
          exact absurd ((given_orderly.same_canonical held path).mp same) (elsewhere former held)
        · rw [Session.target_of_absent absent]
          refine ⟨rfl, rfl, List.eq_nil_iff_forall_not_mem.mpr fun interface shown => ?_⟩
          exact clear interface ((Exports.mem_interfaces ..).mp shown)

end Roster

namespace Rehearsal

/-- A gate that lets the first interface of a document through and refuses the second. -/
def halfway : Gate := fun path interface =>
  if interface = .diagnostics then some (.refused path interface.name "refused") else none

/-- The rehearsed roster behind this gate. -/
def barred : Roster Stage Unit :=
  Rehearsal.roster.setBus { Rehearsal.roster.around.bus with gate := halfway }

end Rehearsal

/-- A document that is refused when half of it is exported leaves no half behind. -/
theorem Roster.openDocument_all_or_nothing_halfway :
    let opened := Rehearsal.barred.openDocument Rehearsal.service ":1.7" "a.css" "" .origin
    Rehearsal.barred.Reached Rehearsal.service ∧
      opened.1 = .error (.refused "/org/gnome/CodeAssist/v1/css/0/documents/0"
        Interface.diagnostics.name "refused") ∧
      opened.2 = { Rehearsal.barred with nextId := 1 } := by
  intro opened
  have reached : Rehearsal.barred.Reached Rehearsal.service :=
    Rehearsal.begins.reached.setBus fun _ _ _ => .rfl
  have refused : opened.1 = .error (.refused "/org/gnome/CodeAssist/v1/css/0/documents/0"
      Interface.diagnostics.name "refused") := by rfl
  have outcome := openDocument_all_or_nothing.2 _ reached ":1.7" "a.css" "" .origin
  dsimp only at outcome
  rw [show (Rehearsal.barred.openDocument Rehearsal.service ":1.7" "a.css" "" .origin).1 = _
    from refused] at outcome
  exact ⟨reached, refused, outcome⟩

end LintBus

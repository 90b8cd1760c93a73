import LintBus.Proofs.Client.Occupancy
import LintBus.Proofs.Service.Course

/-!
# When nobody is left

In every course each session has a document open, whatever is refused and whichever handlers fail.
An event that takes the last session away is counted once and no other event is, so the count is
the number of times at which the service has become vacant.
-/

namespace LintBus
namespace Service

variable {ω σ : Type} {service : Service ω σ} {roster : Roster ω σ}

private theorem retains_proceed (orderly : roster.Orderly service.addressing) (sender path : String)
    {job : Job} (opens : job.openings ≠ []) :
    (service.proceed roster sender path job).2.Retains roster := by
  cases job with
  | parse request =>
      rw [proceed_parse]
      exact Roster.retains_parse orderly sender _ request.options
  | close document => exact absurd rfl opens
  | parseAll request =>
      rw [proceed_parseAll]
      exact Roster.retains_parseAll service roster sender _ _ request.options
  | diagnostics => exact absurd rfl opens

private theorem retains_perform (orderly : roster.Orderly service.addressing)
    (agrees : service.Agrees roster) (sender path : String) {job : Job}
    (opens : job.openings ≠ []) : (service.perform roster sender path job).2.Retains roster := by
  have opening := Roster.retains_openEach job.openings orderly agrees sender
  have moves := Roster.moves_openEach job.openings orderly agrees sender
  rw [perform_eq]
  split
  · next outcome =>
      rw [outcome] at opening
      exact opening
  · next outcome =>
      rw [outcome] at opening moves
      exact (retains_proceed (moves.orderly orderly) sender path opens).trans opening

private theorem tallies_perform (orderly : roster.Orderly service.addressing)
    (agrees : service.Agrees roster) (sender path : String) (job : Job) :
    (service.perform roster sender path job).2.Tallies roster := by
  cases job with
  | parse request =>
      have opens : (Job.parse request).openings ≠ [] := by simp [Job.openings]
      exact (retains_perform orderly agrees sender path opens).tallies
  | close document => exact Roster.tallies_closeDocument service roster sender document
  | parseAll request =>
      have opens : (Job.parseAll request).openings ≠ [] := by simp [Job.openings]
      exact (retains_perform orderly agrees sender path opens).tallies
  | diagnostics => exact (Roster.Retains.refl roster).tallies

/-- An event is counted if it takes the last session away. -/
theorem tallies_handle (orderly : roster.Orderly service.addressing)
    (agrees : service.Agrees roster) (event : Event) :
    (service.handle roster event).2.Tallies roster := by
  cases event with
  | call call =>
      change (service.answer roster call).2.Tallies roster
      cases found : job? roster call with
      | none =>
          rw [answer_idle found]
          exact (Roster.Retains.refl roster).tallies
      | some job =>
          obtain ⟨method, -, -, answered⟩ := answer_job service found
          rw [answered]
          exact tallies_perform orderly agrees call.sender call.path job
  | ownerChanged change =>
      cases departed : change.departed? with
      | none =>
          have idle : (Event.ownerChanged change).client? = none := departed
          rw [handle_idle idle]
          exact (Roster.Retains.refl roster).tallies
      | some identity =>
          rw [handle_departed departed]
          exact Roster.tallies_dismiss service roster identity

private theorem tallies_react (orderly : roster.Orderly service.addressing)
    (agrees : service.Agrees roster) (occurrence : Occurrence ω) :
    (service.react roster occurrence).Tallies roster := by
  cases occurrence with
  | event event => exact tallies_handle orderly agrees event
  | gate gate => exact ((Roster.Retains.refl roster).around _).tallies
  | world world => exact ((Roster.Retains.refl roster).around _).tallies

theorem occupied_course (orderly : roster.Orderly service.addressing)
    (agrees : service.Agrees roster) (occupied : roster.Occupied)
    (occurrences : List (Occurrence ω)) : (service.course occurrences roster).Occupied := by
  induction occurrences generalizing roster with
  | nil => exact occupied
  | cons occurrence rest induction =>
      have first := tallies_react orderly agrees occurrence
      obtain ⟨orderly, agrees⟩ := react_sound orderly agrees occurrence
      exact induction orderly agrees (first.occupied occupied)

private theorem emptied_course (orderly : roster.Orderly service.addressing)
    (agrees : service.Agrees roster) (occurrences : List (Occurrence ω)) :
    (service.course occurrences roster).emptied =
      roster.emptied + (List.range occurrences.length).countP fun count =>
        (service.course (occurrences.take count) roster).vacates
          (service.course (occurrences.take (count + 1)) roster) := by
  induction occurrences generalizing roster with
  | nil => simp
  | cons occurrence rest induction =>
      have first := tallies_react orderly agrees occurrence
      obtain ⟨orderly, agrees⟩ := react_sound orderly agrees occurrence
      rw [course_cons, induction orderly agrees, first.emptied_eq, List.length_cons,
        List.range_succ_eq_map, List.countP_cons, List.countP_map, Nat.add_assoc]
      exact congrArg (roster.emptied + ·) (Nat.add_comm _ _)

/-- In every course from a successful start each session has a document open.  After it an event
is counted exactly if there are sessions before it and none after it, and the count is the number
of occurrences that have taken the last session away. -/
theorem course_vacancies (begins : service.Begins roster) (occurrences : List (Occurrence ω)) :
    let reached := fun count => service.course (occurrences.take count) roster
    let after := service.course occurrences roster
    (∀ session ∈ after.sessions, session.documents ≠ []) ∧
    (∀ event, let next := (service.handle after event).2
      next.emptied = after.emptied + if after.sessions ≠ [] ∧ next.sessions = [] then 1 else 0) ∧
    after.emptied = (List.range occurrences.length).countP fun count =>
      !(reached count).sessions.isEmpty && (reached (count + 1)).sessions.isEmpty := by
  intro reached after
  obtain ⟨begin_orderly, begin_agrees⟩ := begins.sound
  obtain ⟨orderly, agrees⟩ := course_sound begin_orderly begin_agrees occurrences
  have counted := emptied_course begin_orderly begin_agrees occurrences
  obtain ⟨gate, bus, world, -, rfl⟩ := begins
  refine ⟨occupied_course begin_orderly begin_agrees (by simp [Roster.Occupied, Roster.opened])
    occurrences, fun event => ?_, ?_⟩
  · intro next
    rw [(tallies_handle orderly agrees event).emptied_eq]
    exact congrArg (after.emptied + ·) (if_congr Roster.vacates_iff rfl rfl)
  · rw [counted]
    exact Nat.zero_add _

end Service

/-- A client closes its only document, another one is refused its first document, and the first
client comes back and leaves. -/
def Rehearsal.turnover : List (Occurrence Stage) :=
  [.event (Rehearsal.parse ":1.7" "a.css"),
    .event (.call (Rehearsal.dispose ":1.7" "./a.css")),
    .gate fun _ _ => some (.io "refused"), .event (Rehearsal.parse ":1.8" "a.css"),
    .gate .objectPaths, .event (Rehearsal.parse ":1.7" "a.css"),
    .event (Rehearsal.leave ":1.7")]

theorem Service.course_vacancies_turnover :
    let after := Rehearsal.service.course Rehearsal.turnover Rehearsal.roster
    let next := (Rehearsal.service.handle after (Rehearsal.leave ":1.8")).2
    Rehearsal.service.Begins Rehearsal.roster ∧ after.nextId = 3 ∧ after.emptied = 2 ∧
      next.emptied = after.emptied := by
  obtain ⟨-, counted, total⟩ := course_vacancies Rehearsal.begins Rehearsal.turnover
  refine ⟨Rehearsal.begins, by decide +kernel, ?_, ?_⟩
  · rw [total]
    decide +kernel
  · have vacant : (Rehearsal.service.course Rehearsal.turnover Rehearsal.roster).sessions = [] :=
      List.eq_nil_of_length_eq_zero (by decide +kernel)
    rw [counted, if_neg fun both => both.1 vacant, Nat.add_zero]

end LintBus

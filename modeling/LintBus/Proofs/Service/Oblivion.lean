import LintBus.Proofs.Client.Cleared
import LintBus.Proofs.Service.Refusal

/-!
# Forgetting diagnostics

What the documents that a call parses were diagnosed with before has no part in the answer to the
call nor in what it leaves behind, however the backend fares.  Only when the bus refuses a document
does the backend not come to clear them.
-/

namespace LintBus

namespace Service

variable {ω σ : Type} {service : Service ω σ} {roster : Roster ω σ}

/-- The canonical paths of the documents that a call parses. -/
def named (service : Service ω σ) (roster : Roster ω σ) (call : Call) : List FilePath :=
  (job? roster call).elim [] service.scope

private theorem proceed_cleared (service : Service ω σ) (roster : Roster ω σ) (sender path : String)
    {job : Job} (opens : job.openings ≠ []) :
    service.proceed (roster.cleared sender (service.scope job)) sender path job =
      service.proceed roster sender path job := by
  cases job with
  | parse request => simp only [proceed, scope_parse, Roster.parse_cleared]
  | close document => exact absurd rfl opens
  | parseAll request => simp only [proceed, scope_parseAll, Roster.parseAll_cleared]
  | diagnostics => exact absurd rfl opens

/-- Doing a job does not depend on the diagnostics of the documents that it opens, unless one of
them is refused. -/
theorem perform_cleared {sender : String} {job : Job}
    (opened : (roster.openEach service sender job.openings).1 = .ok ()) (path : String) :
    service.perform (roster.cleared sender (service.scope job)) sender path job =
      service.perform roster sender path job := by
  by_cases opens : job.openings = []
  · rw [scope, opens, List.map_nil, Roster.cleared_nil]
  · have opened_cleared := roster.openEach_cleared (service.scope job) service sender job.openings
    rw [opened] at opened_cleared
    rw [perform_opened (Prod.ext opened rfl), perform_opened opened_cleared,
      proceed_cleared service _ sender path opens]

/-- On two rosters that differ at most by the diagnostics of the documents that a call parses, the
call has the same reply and leaves the same roster, unless the bus refuses it one of them. -/
theorem answer_oblivious (service : Service ω σ) {left right : Roster ω σ} {call : Call}
    (same : left.cleared call.sender (service.named left call) =
      right.cleared call.sender (service.named left call)) :
    service.answer left call = service.answer right call ∨
      ∃ job error, service.Refuses left call job error ∧ service.Refuses right call job error ∧
        (service.answer left call).1 = .error (.ofBusError error) ∧
        (service.answer right call).1 = .error (.ofBusError error) := by
  have around_eq : left.around = right.around := by
    rw [← left.cleared_around (service.named left call) call.sender, same, Roster.cleared_around]
  have resolve_eq : resolve left call = resolve right call := by simp only [resolve, around_eq]
  have job_eq : job? left call = job? right call := by simp only [job?, resolve_eq]
  cases found : job? left call with
  | none =>
      simp only [named, found, Option.elim_none, Roster.cleared_nil] at same
      exact .inl (by rw [same])
  | some job =>
      simp only [named, found, Option.elim_some] at same
      have left_opened := left.openEach_cleared (service.scope job) service call.sender
        job.openings
      have right_opened := right.openEach_cleared (service.scope job) service call.sender
        job.openings
      -- Both fare with opening the documents like the cleared roster that they have in common.
      rw [same, right_opened] at left_opened
      have outcome_eq := congrArg Prod.fst left_opened
      cases outcome : (left.openEach service call.sender job.openings).1 with
      | error error =>
          have left_refuses : service.Refuses left call job error := ⟨found, outcome⟩
          have right_refuses : service.Refuses right call job error :=
            ⟨job_eq ▸ found, outcome_eq.trans outcome⟩
          exact .inr ⟨job, error, left_refuses, right_refuses,
            congrArg Prod.fst left_refuses.answer, congrArg Prod.fst right_refuses.answer⟩
      | ok done =>
          have performed := perform_cleared outcome call.path
          rw [same, perform_cleared (outcome_eq.trans outcome)] at performed
          obtain ⟨method, ⟨apart, resolved⟩, decoded⟩ := job?_eq_some.mp found
          left
          rw [answer_of_job apart resolved decoded,
            answer_of_job apart (resolve_eq.symm.trans resolved) decoded, performed]

end Service

namespace Rehearsal

/-- A project with a diagnosed root. -/
def diagnosed : Roster Stage Unit :=
  service.course [.event (.call (parseAll ":1.7" "a.css" ["b.css"] (scribble "old" [])))] roster

/-- A client asks to parse the project again, and the backend panics in the middle of it. -/
def relapse : Call :=
  parseAll ":1.7" "a.css" ["b.css"] (scribble "new" [("panic", .string "late")])

/-- The project as if it had not been diagnosed. -/
def forgotten : Roster Stage Unit :=
  diagnosed.cleared relapse.sender (service.named diagnosed relapse)

end Rehearsal

theorem Service.answer_oblivious_relapse :
    Rehearsal.diagnosed.documents.map (·.diagnostics.length) = [1, 0] ∧
      Rehearsal.service.answer Rehearsal.diagnosed Rehearsal.relapse =
        Rehearsal.service.answer Rehearsal.forgotten Rehearsal.relapse := by
  refine ⟨by decide +kernel, ?_⟩
  have same : Rehearsal.diagnosed.cleared Rehearsal.relapse.sender
      (Rehearsal.service.named Rehearsal.diagnosed Rehearsal.relapse) =
        Rehearsal.forgotten.cleared Rehearsal.relapse.sender
          (Rehearsal.service.named Rehearsal.diagnosed Rehearsal.relapse) :=
    (Rehearsal.diagnosed.cleared_cleared _ _).symm
  have panics : (Rehearsal.service.answer Rehearsal.diagnosed Rehearsal.relapse).1.map
      (fun _ => ()) = .error (.ofFailure "css" (.ofPanic (some "late"))) := by decide +kernel
  rcases answer_oblivious Rehearsal.service same with equal | ⟨job, error, -, -, reply_eq, -⟩
  · exact equal
  · rw [reply_eq] at panics
    have names : standardErrors ++ ".Failed" =
        (Fault.ofFailure "css" (.ofPanic (some "late"))).name :=
      congrArg Fault.name (Except.error.inj panics)
    exact absurd names (by decide +kernel)

end LintBus

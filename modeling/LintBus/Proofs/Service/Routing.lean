import LintBus.Service.Answer

/-!
# Routing

A call is routed to the method that it names if the interface of the method is exported at its path.
It then makes a job if it carries the arguments of the method, and answering it comes down to doing
the job; without a job nothing changes.
-/

namespace LintBus

namespace Interface

theorem ofName?_name (interface : Interface) : ofName? interface.name = some interface := by
  cases interface <;> decide +kernel

theorem ofName?_eq_some {name : String} {interface : Interface} :
    ofName? name = some interface ↔ interface.name = name := by
  constructor
  · intro found
    unfold ofName? at found
    simpa using List.find?_some found
  · rintro rfl
    exact interface.ofName?_name

theorem name_ne_introspectable (interface : Interface) : interface.name ≠ introspectable := by
  cases interface <;> decide +kernel

end Interface

namespace Method

theorem find?_member : ∀ method ∈ all, find? method.interface method.member = some method := by
  decide +kernel

private theorem find?_eq_some {interface : Interface} {member : String} {method : Method} :
    find? interface member = some method ↔
      method ∈ all ∧ method.interface = interface ∧ method.member = member := by
  constructor
  · intro found
    have member_eq := List.find?_some found
    have listed := List.mem_filter.mp (List.mem_of_find?_eq_some found)
    exact ⟨listed.1, by simpa using listed.2, by simpa using member_eq⟩
  · rintro ⟨listed, rfl, rfl⟩
    exact find?_member method listed

end Method

namespace Job

private theorem exists_of_map_eq_ok {ε α β : Type} {change : α → β} {outcome : Except ε α}
    {value : β} (mapped : outcome.map change = .ok value) : ∃ given, change given = value := by
  cases outcome with
  | error fault => simp [Except.map] at mapped
  | ok given => exact ⟨given, by simpa [Except.map] using mapped⟩

/-- Arguments make a job when they decode and name no document without a path. -/
theorem ofArgs_eq_ok {method : Method} {args : List Json.Value} {job : Job} :
    ofArgs method args = .ok job ↔
      decode method.action args = .ok job ∧ ∀ opened ∈ job.opens, opened.1 ≠ "" := by
  simp only [Job.ofArgs]
  split
  · next error undecoded => simp [undecoded]
  · next job' decoded =>
      rw [decoded, Except.ok.injEq]
      split
      · next pathless =>
          obtain ⟨opened, opens, empty⟩ := List.any_eq_true.mp pathless
          refine ⟨by simp, ?_⟩
          rintro ⟨rfl, paths⟩
          exact absurd (by simpa using empty) (paths opened opens)
      · next paths =>
          rw [Except.ok.injEq, iff_self_and]
          rintro rfl opened opens empty
          exact paths (List.any_eq_true.mpr ⟨opened, opens, by simpa using empty⟩)

/-- Each method makes jobs of its own. -/
theorem ofArgs_cases {method : Method} (listed : method ∈ Method.all) {args : List Json.Value}
    {job : Job} (made : ofArgs method args = .ok job) :
    (∃ request, method = .parse ∧ job = .parse request) ∨
      (∃ path, method = .dispose ∧ job = .close path) ∨
      (∃ request, method = .parseAll ∧ job = .parseAll request) ∨
      method = .diagnostics ∧ job = .diagnostics := by
  have decoded := (ofArgs_eq_ok.mp made).1
  simp only [Method.all, List.mem_cons, List.not_mem_nil, or_false] at listed
  rcases listed with rfl | rfl | rfl | rfl
  · obtain ⟨request, rfl⟩ := exists_of_map_eq_ok decoded
    exact .inl ⟨request, rfl, rfl⟩
  · obtain ⟨path, rfl⟩ := exists_of_map_eq_ok decoded
    exact .inr (.inl ⟨path, rfl, rfl⟩)
  · obtain ⟨request, rfl⟩ := exists_of_map_eq_ok decoded
    exact .inr (.inr (.inl ⟨request, rfl, rfl⟩))
  · exact .inr (.inr (.inr ⟨rfl, (Except.ok.inj decoded).symm⟩))

end Job

namespace Service

variable {ω σ : Type} {service : Service ω σ} {roster : Roster ω σ} {call : Call}

/-- A call is routed to the method that it names if the interface is exported at its path. -/
theorem resolve_eq_ok {method : Method} :
    resolve roster call = .ok method ↔
      method ∈ Method.all ∧ method.interface.name = call.interface ∧
        method.member = call.member ∧
        method.interface ∈ roster.around.bus.interfaces call.path := by
  constructor
  · intro resolved
    simp only [resolve] at resolved
    split at resolved
    · simp at resolved
    · split at resolved
      · simp at resolved
      · next interface found =>
          obtain ⟨named, shown⟩ := Option.filter_eq_some_iff.mp found
          split at resolved
          · simp at resolved
          · next entry member_found =>
              obtain rfl := Except.ok.inj resolved
              obtain ⟨listed, rfl, member_eq⟩ := Method.find?_eq_some.mp member_found
              exact ⟨listed, Interface.ofName?_eq_some.mp named, member_eq, by simpa using shown⟩
  · rintro ⟨listed, named, member_eq, shown⟩
    have exported : (roster.around.bus.interfaces call.path).isEmpty = false := by
      rw [List.isEmpty_eq_false_iff]
      exact List.ne_nil_of_mem shown
    have found : (Interface.ofName? call.interface).filter
        (roster.around.bus.interfaces call.path).contains = some method.interface :=
      Option.filter_eq_some_iff.mpr ⟨Interface.ofName?_eq_some.mpr named, by simpa using shown⟩
    have entry := Method.find?_eq_some.mpr ⟨listed, rfl, member_eq⟩
    simp [resolve, exported, found, entry]

/-- A call that is not routed is answered by saying what it names that is unknown. -/
theorem resolve_error {error : CallError} (resolved : resolve roster call = .error error) :
    error = .unknownObject call.path ∨ error = .unknownInterface call.path call.interface ∨
      error = .unknownMethod call.interface call.member := by
  simp only [resolve] at resolved
  split at resolved
  · exact .inl (Except.error.inj resolved).symm
  · split at resolved
    · exact .inr (.inl (Except.error.inj resolved).symm)
    · split at resolved
      · exact .inr (.inr (Except.error.inj resolved).symm)
      · simp at resolved

/-- Answering a call comes down to calling a method. -/
def Routed (roster : Roster ω σ) (call : Call) (method : Method) : Prop :=
  call.interface ≠ introspectable ∧ resolve roster call = .ok method

theorem routed_iff {method : Method} :
    Routed roster call method ↔
      method ∈ Method.all ∧ method.interface.name = call.interface ∧
        method.member = call.member ∧
        method.interface ∈ roster.around.bus.interfaces call.path := by
  rw [Routed, resolve_eq_ok, and_iff_right_iff_imp]
  rintro ⟨-, named, -, -⟩
  exact named ▸ method.interface.name_ne_introspectable

/-- The job of a call that is routed to a method and carries its arguments. -/
def job? (roster : Roster ω σ) (call : Call) : Option Job :=
  match resolve roster call with
  | .error _ => none
  | .ok method => (Job.ofArgs method call.args).toOption

theorem job?_eq_some {job : Job} :
    job? roster call = some job ↔
      ∃ method, Routed roster call method ∧ Job.ofArgs method call.args = .ok job := by
  constructor
  · intro found
    cases resolved : resolve roster call with
    | error error => simp [job?, resolved] at found
    | ok method =>
        have apart := routed_iff.mpr (resolve_eq_ok.mp resolved)
        cases decoded : Job.ofArgs method call.args with
        | error error => simp [job?, resolved, decoded, Except.toOption] at found
        | ok job' =>
            simp only [job?, resolved, decoded, Except.toOption, Option.some.injEq] at found
            exact ⟨method, apart, found ▸ decoded⟩
  · rintro ⟨method, ⟨-, resolved⟩, decoded⟩
    simp only [job?, resolved, decoded, Except.toOption]

/-- A call that makes a job is answered by the checked reply of the job. -/
theorem answer_of_job {method : Method} {job : Job}
    (apart : call.interface ≠ introspectable) (resolved : resolve roster call = .ok method)
    (decoded : Job.ofArgs method call.args = .ok job) :
    service.answer roster call =
      ((service.perform roster call.sender call.path job).1.bind
        (call.answerWith service.backend.language method),
        (service.perform roster call.sender call.path job).2) := by
  simp only [answer, if_neg apart, resolved, decoded]
  split
  all_goals
    next outcome =>
      rw [outcome]
      rfl

/-- A call without a job changes nothing. -/
theorem answer_idle (idle : job? roster call = none) :
    (service.answer roster call).2 = roster := by
  rw [answer]
  split
  · rfl
  · split
    · rfl
    · next method resolved =>
        split
        · rfl
        · next job decoded => simp [job?, resolved, decoded, Except.toOption] at idle

/-- A call with a job is answered by the checked reply of the job. -/
theorem answer_job (service : Service ω σ) {job : Job} (found : job? roster call = some job) :
    ∃ method, Routed roster call method ∧ Job.ofArgs method call.args = .ok job ∧
      service.answer roster call =
        ((service.perform roster call.sender call.path job).1.bind
          (call.answerWith service.backend.language method),
          (service.perform roster call.sender call.path job).2) := by
  obtain ⟨method, routed, decoded⟩ := job?_eq_some.mp found
  exact ⟨method, routed, decoded, answer_of_job routed.1 routed.2 decoded⟩

end Service
end LintBus

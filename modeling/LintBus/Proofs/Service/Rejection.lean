import LintBus.Proofs.Service.Surface

/-!
# Calls that are rejected

A call is rejected before anything is done for it when it addresses nothing, when its arguments do
not decode, or when it names a document without a path, be it the last member of a project.  A call
that is rejected leaves everything as it was, and so does one that only reads.
-/

namespace LintBus

namespace Job

theorem ofArgs_undecodable {method : Method} {args : List Json.Value} {error : Json.DecodeError}
    (undecoded : Job.decode method.action args = .error error) :
    Job.ofArgs method args = .error (.invalidArgs method.member (.undecodable error)) := by
  simp only [Job.ofArgs, undecoded]

private theorem ofArgs_empty {method : Method} {args : List Json.Value} {job : Job}
    (decoded : Job.decode method.action args = .ok job) {opened : String × String}
    (opens : opened ∈ job.opens) (empty : opened.1 = "") :
    Job.ofArgs method args = .error .emptyPath := by
  have pathless : job.opens.any (·.1.isEmpty) = true :=
    List.any_eq_true.mpr ⟨opened, opens, by simp [empty]⟩
  simp only [Job.ofArgs, decoded, pathless, if_true]

end Job

namespace Service

variable {ω σ : Type} {service : Service ω σ} {roster : Roster ω σ} {call : Call}

/-- A call is rejected, and why. -/
inductive Rejects (roster : Roster ω σ) (call : Call) : CallError → Prop
  | unknownObject (described : call.interface = introspectable → call.member = "Introspect")
      (bare : roster.around.bus.interfaces call.path = []) :
      Rejects roster call (.unknownObject call.path)
  | unknownInterface (apart : call.interface ≠ introspectable)
      (standing : roster.around.bus.interfaces call.path ≠ [])
      (unlike : ∀ shown ∈ roster.around.bus.interfaces call.path, shown.name ≠ call.interface) :
      Rejects roster call (.unknownInterface call.path call.interface)
  | unknownMethod {shown : Interface} (shown_mem : shown ∈ roster.around.bus.interfaces call.path)
      (named : shown.name = call.interface)
      (unlike : ∀ method ∈ Method.ofInterface shown, method.member ≠ call.member) :
      Rejects roster call (.unknownMethod call.interface call.member)
  | undescribed (named : call.interface = introspectable) (other : call.member ≠ "Introspect") :
      Rejects roster call (.unknownMethod call.interface call.member)
  | undecodable {method : Method} {error : Json.DecodeError} (routed : Routed roster call method)
      (refused : Job.decode method.action call.args = .error error) :
      Rejects roster call (.invalidArgs method.member (.undecodable error))
  | emptyDocument {method : Method} {request : ParseRequest} (routed : Routed roster call method)
      (decoded : Job.decode method.action call.args = .ok (.parse request))
      (empty : request.path = "") : Rejects roster call .emptyPath
  | emptyRoot {method : Method} {request : ParseAllRequest} (routed : Routed roster call method)
      (decoded : Job.decode method.action call.args = .ok (.parseAll request))
      (empty : request.path = "") : Rejects roster call .emptyPath
  | emptyMember {method : Method} {request : ParseAllRequest} {member : String × String}
      (routed : Routed roster call method)
      (decoded : Job.decode method.action call.args = .ok (.parseAll request))
      (listed : member ∈ request.members) (empty : member.1 = "") :
      Rejects roster call .emptyPath

private theorem answer_unresolved {error : CallError} (apart : call.interface ≠ introspectable)
    (resolved : resolve roster call = .error error) :
    service.answer roster call = (.error (.ofCallError error), roster) := by
  simp only [answer, if_neg apart, resolved]

theorem answer_refused {method : Method} {error : CallError} (routed : Routed roster call method)
    (refused : Job.ofArgs method call.args = .error error) :
    service.answer roster call = (.error (.ofCallError error), roster) := by
  simp only [answer, if_neg routed.1, routed.2, refused]

theorem Rejects.answer {error : CallError} (rejects : Rejects roster call error)
    (service : Service ω σ) :
    service.answer roster call = (.error (.ofCallError error), roster) := by
  cases rejects with
  | unknownObject described bare =>
      by_cases named : call.interface = introspectable
      · exact answer_undescribed named (described named) bare
      · refine answer_unresolved named ?_
        simp [resolve, bare]
  | unknownInterface apart standing unlike =>
      refine answer_unresolved apart ?_
      have missing : (Interface.ofName? call.interface).filter
          (roster.around.bus.interfaces call.path).contains = none := by
        refine Option.filter_eq_none_iff.mpr fun interface found => ?_
        have named := Interface.ofName?_eq_some.mp found
        simpa using fun shown => unlike interface shown named
      simp [resolve, standing, missing]
  | @unknownMethod shown shown_mem named unlike =>
      refine answer_unresolved (named ▸ shown.name_ne_introspectable) ?_
      have found : (Interface.ofName? call.interface).filter
          (roster.around.bus.interfaces call.path).contains = some shown :=
        Option.filter_eq_some_iff.mpr
          ⟨Interface.ofName?_eq_some.mpr named, by simpa using shown_mem⟩
      have missing : Method.find? shown call.member = none := by
        simpa [Method.find?, List.find?_eq_none] using unlike
      have standing := List.ne_nil_of_mem shown_mem
      simp [resolve, standing, found, missing]
  | undescribed named other => simp only [Service.answer, if_pos named, describe, if_pos other]
  | undecodable routed refused => exact answer_refused routed (Job.ofArgs_undecodable refused)
  | @emptyDocument method request routed decoded empty =>
      exact answer_refused routed (Job.ofArgs_empty decoded List.mem_cons_self empty)
  | @emptyRoot method request routed decoded empty =>
      exact answer_refused routed (Job.ofArgs_empty decoded List.mem_cons_self empty)
  | @emptyMember method request member routed decoded listed empty =>
      exact answer_refused routed (Job.ofArgs_empty decoded (List.mem_cons_of_mem _ listed) empty)

private theorem rejects_of_resolve {error : CallError} (apart : call.interface ≠ introspectable)
    (resolved : resolve roster call = .error error) : Rejects roster call error := by
  simp only [resolve] at resolved
  split at resolved
  · next bare =>
      obtain rfl := Except.error.inj resolved
      exact .unknownObject (fun named => absurd named apart) (List.isEmpty_iff.mp bare)
  · next standing =>
      split at resolved
      · next missing =>
          obtain rfl := Except.error.inj resolved
          refine .unknownInterface apart (by simpa using standing) fun shown shown_mem named => ?_
          have unshown := Option.filter_eq_none_iff.mp missing shown
            (Interface.ofName?_eq_some.mpr named)
          simp [shown_mem] at unshown
      · next shown found =>
          obtain ⟨named, shown_mem⟩ := Option.filter_eq_some_iff.mp found
          split at resolved
          · next missing =>
              obtain rfl := Except.error.inj resolved
              refine .unknownMethod (by simpa using shown_mem)
                (Interface.ofName?_eq_some.mp named) ?_
              simpa [Method.find?, List.find?_eq_none] using missing
          · simp at resolved

private theorem rejects_of_ofArgs {method : Method} {error : CallError}
    (routed : Routed roster call method)
    (refused : Job.ofArgs method call.args = .error error) : Rejects roster call error := by
  simp only [Job.ofArgs] at refused
  split at refused
  · next error' undecoded =>
      obtain rfl := Except.error.inj refused
      exact .undecodable routed undecoded
  · next job decoded =>
      split at refused
      · next pathless =>
          obtain rfl := Except.error.inj refused
          obtain ⟨opened, opens, empty⟩ := List.any_eq_true.mp pathless
          have empty : opened.1 = "" := by simpa using empty
          cases job with
          | parse request =>
              obtain rfl := List.mem_singleton.mp opens
              exact .emptyDocument routed decoded empty
          | parseAll request =>
              rcases List.mem_cons.mp opens with rfl | listed
              · exact .emptyRoot routed decoded empty
              · exact .emptyMember routed decoded listed empty
          | close path => simp [Job.opens] at opens
          | diagnostics => simp [Job.opens] at opens
      · simp at refused

/-- A call is rejected, or it asks for a description of an object that is there, or it makes a job
whose documents all have paths. -/
theorem rejects_or_runs (roster : Roster ω σ) (call : Call) :
    (∃ error, Rejects roster call error) ∨
      (call.interface = introspectable ∧ call.member = "Introspect" ∧
        roster.around.bus.interfaces call.path ≠ []) ∨
      ∃ method job, Routed roster call method ∧ Job.ofArgs method call.args = .ok job := by
  by_cases named : call.interface = introspectable
  · by_cases other : call.member = "Introspect"
    · by_cases bare : roster.around.bus.interfaces call.path = []
      · exact .inl ⟨_, .unknownObject (fun _ => other) bare⟩
      · exact .inr (.inl ⟨named, other, bare⟩)
    · exact .inl ⟨_, .undescribed named other⟩
  · cases resolved : resolve roster call with
    | error error => exact .inl ⟨error, rejects_of_resolve named resolved⟩
    | ok method =>
        cases decoded : Job.ofArgs method call.args with
        | error error => exact .inl ⟨error, rejects_of_ofArgs ⟨named, resolved⟩ decoded⟩
        | ok job => exact .inr (.inr ⟨method, job, ⟨named, resolved⟩, decoded⟩)

/-- Whatever has happened before, a call that is rejected is answered by the reason and leaves
sessions, documents, numbers, exports, releases and the world as they were; so does a call that
reads diagnostics or asks for a description.  A call that is neither rejected nor described makes a
job whose documents all have paths. -/
theorem answer_rejected (service : Service ω σ) (roster : Roster ω σ) (call : Call) :
    (∀ error, Rejects roster call error →
      service.answer roster call = (.error (.ofCallError error), roster)) ∧
    (call.interface = introspectable ∨ Routed roster call .diagnostics →
      (service.answer roster call).2 = roster) ∧
    ((∃ error, Rejects roster call error) ∨
      (call.interface = introspectable ∧ call.member = "Introspect" ∧
        service.answer roster call =
          (.ok [.string (Introspection.xml (roster.around.bus.interfaces call.path))], roster)) ∨
      ∃ method job, Routed roster call method ∧ Job.decode method.action call.args = .ok job ∧
        ∀ opened ∈ job.opens, opened.1 ≠ "") := by
  refine ⟨fun error rejects => rejects.answer service, ?_, ?_⟩
  · rintro (named | routed)
    · simp only [answer, if_pos named]
    · have decoded : Job.ofArgs .diagnostics call.args = .ok .diagnostics := rfl
      rw [answer_of_job routed.1 routed.2 decoded]
      rfl
  · rcases rejects_or_runs roster call with
      rejects | ⟨named, member_eq, standing⟩ | ⟨method, job, routed, decoded⟩
    · exact .inl rejects
    · exact .inr (.inl ⟨named, member_eq, answer_described named member_eq standing⟩)
    · exact .inr (.inr ⟨method, job, routed, Job.ofArgs_eq_ok.mp decoded⟩)

end Service

/-- The last member of a project has no path. -/
theorem Service.answer_rejected_lastMember :
    let before := Rehearsal.service.course [.event (Rehearsal.parse ":1.7" "a.css")]
      Rehearsal.roster
    let call := Rehearsal.parseAll ":1.8" "a.css" ["b.css", "c.css", ""] []
    Rejects before call .emptyPath ∧
      Rehearsal.service.answer before call = (.error (.ofCallError .emptyPath), before) ∧
      before.documents.map Document.spelling = ["a.css"] := by
  intro before call
  have routed : Routed before call .parseAll :=
    routed_iff.mpr ⟨by decide, by decide +kernel, rfl, by decide +kernel⟩
  have decoded : Job.decode .parseAll call.args =
      .ok (.parseAll ⟨"a.css", [("b.css", ""), ("c.css", ""), ("", "")], .origin, []⟩) := by rfl
  have last : ("", "") ∈ [("b.css", ""), ("c.css", ""), ("", "")] := by decide
  have rejects : Rejects before call .emptyPath := .emptyMember routed decoded last rfl
  exact ⟨rejects, (answer_rejected Rehearsal.service before call).1 _ rejects, by decide +kernel⟩

end LintBus

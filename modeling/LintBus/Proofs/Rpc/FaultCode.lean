import LintBus.Proofs.Rpc.Demand
import LintBus.Proofs.Service.Answered

/-!
# Codes of faults

The code of an error response is read off the name of the fault, and the name follows from why the
call failed.  A call that is malformed or addresses nothing has a code of its own, and everything
else that goes wrong has the server code; but a handler may fail under a name that is reserved for
the former, and then its failure has the code that goes with the name.
-/

namespace LintBus

/-- Why a call is answered by a fault. -/
inductive Cause where
  /-- The call is malformed or addresses nothing. -/
  | call (error : CallError)
  /-- The handler has failed or panicked. -/
  | handler (failure : Failure)
  /-- The body of the reply does not fit; the context describes the call. -/
  | body (context : String) (error : BodyError)
  /-- The bus has refused a document. -/
  | bus (error : BusError)
  | sessionGone
  | serviceGone

/-- The fault that a cause is answered by. -/
def Cause.fault (language : String) : Cause → Fault
  | .call error => .ofCallError error
  | .handler failure => .ofFailure language failure
  | .body context error => .ofBodyError language context error
  | .bus error => .ofBusError error
  | .sessionGone => .sessionGone
  | .serviceGone => .serviceGone

/-- The names of the faults for calls that are malformed or address nothing. -/
def reservedNames : List String :=
  ["InvalidArgs", "UnknownObject", "UnknownInterface", "UnknownMethod"].map
    (standardErrors ++ "." ++ ·)

private theorem CallError.name_mem (error : CallError) :
    standardErrors ++ "." ++ error.shortName ∈ reservedNames := by
  refine List.mem_map_of_mem ?_
  cases error <;> simp [shortName]

private theorem languageErrors_notMem (language rest : String) :
    languageErrors language ++ rest ∉ reservedNames := by
  intro reserved
  have begins : ∀ name ∈ reservedNames, name.toList.take 5 = "org.f".toList := by decide
  have other : (languageErrors language ++ rest).toList.take 5 = "org.g".toList := by
    simp [languageErrors, busName]
  rw [begins _ reserved] at other
  exact absurd other (by decide)

private theorem dot_mem_of_reserved {name : String} (reserved : name ∈ reservedNames) :
    '.' ∈ name.toList := by
  have dotted : ∀ name ∈ reservedNames, '.' ∈ name.toList := by decide
  exact dotted name reserved

private theorem ofFailure_name_mem (language : String) (failure : Failure) :
    (Fault.ofFailure language failure).name ∈ reservedNames ↔ failure.name ∈ reservedNames := by
  rw [Fault.ofFailure]
  dsimp only
  split
  · rfl
  · next bare =>
      rw [String.append_assoc]
      refine iff_of_false (languageErrors_notMem language _) fun reserved => bare ?_
      exact List.contains_iff_mem.mpr (dot_mem_of_reserved reserved)

/-- The name of a fault is reserved when the call is to blame, or when a handler fails under such a
name. -/
theorem Cause.name_mem (language : String) (cause : Cause) :
    (cause.fault language).name ∈ reservedNames ↔
      (∃ error, cause = .call error) ∨
        ∃ failure, cause = .handler failure ∧ failure.name ∈ reservedNames := by
  cases cause with
  | call error => simpa [fault, Fault.ofCallError] using error.name_mem
  | handler failure => simpa [fault] using ofFailure_name_mem language failure
  | body context error => simpa [fault, Fault.ofBodyError] using languageErrors_notMem language _
  | bus error =>
      have unreserved : standardErrors ++ ".Failed" ∉ reservedNames := by decide
      simpa [fault, Fault.ofBusError] using unreserved
  | sessionGone =>
      have unreserved : standardErrors ++ ".Failed" ∉ reservedNames := by decide
      simpa [fault, Fault.sessionGone] using unreserved
  | serviceGone =>
      have unreserved : standardErrors ++ ".NoReply" ∉ reservedNames := by decide
      simpa [fault, Fault.serviceGone] using unreserved

namespace Rpc.RpcError

/-- The code says that the call is malformed or addresses nothing. -/
def BlamesCall (error : RpcError) : Prop :=
  error.code = methodNotFoundCode ∨ error.code = invalidParamsCode

private theorem codeOf_reserved : ∀ name ∈ reservedNames,
    codeOf name = methodNotFoundCode ∨ codeOf name = invalidParamsCode := by
  decide

private theorem codeOf_unreserved {name : String} (unreserved : name ∉ reservedNames) :
    codeOf name = serverCode := by
  rw [codeOf, if_neg, if_neg]
  · rintro rfl
    exact unreserved (by decide)
  · rintro (rfl | rfl | rfl)
    · exact unreserved (by decide)
    · exact unreserved (by decide)
    · exact unreserved (by decide)

/-- The code of a fault blames the call exactly when the name is reserved, and is the server code
otherwise. -/
theorem code_ofFault (fault : Fault) :
    ((ofFault fault).BlamesCall ↔ fault.name ∈ reservedNames) ∧
      (¬ (ofFault fault).BlamesCall ↔ (ofFault fault).code = serverCode) := by
  by_cases reserved : fault.name ∈ reservedNames
  · have blames : (ofFault fault).BlamesCall := codeOf_reserved fault.name reserved
    refine ⟨iff_of_true blames reserved, iff_of_false (not_not_intro blames) fun other => ?_⟩
    rw [BlamesCall, other] at blames
    exact absurd blames (by decide)
  · have other : (ofFault fault).code = serverCode := codeOf_unreserved reserved
    have blameless : ¬ (ofFault fault).BlamesCall := by
      rw [BlamesCall, other]
      decide
    exact ⟨iff_of_false blameless reserved, iff_of_true blameless other⟩

end Rpc.RpcError

variable {ω σ : Type}

namespace Service

/-- A call fails, and why: it is rejected, the bus refuses one of its documents, its handler fails,
or the body of its reply does not fit. -/
inductive Fails (service : Service ω σ) (roster : Roster ω σ) (call : Call) : Cause → Prop
  | rejected {error : CallError} (rejects : Rejects roster call error) :
      Fails service roster call (.call error)
  | refused {method : Method} {job : Job} {error : BusError} {after : Roster ω σ}
      (routed : Routed roster call method) (made : Job.ofArgs method call.args = .ok job)
      (refused : roster.openEach service call.sender job.openings = (.error error, after)) :
      Fails service roster call (.bus error)
  | failed {method : Method} {job : Job} {failure : Failure} {opened : Roster ω σ}
      (routed : Routed roster call method) (made : Job.ofArgs method call.args = .ok job)
      (opened_ok : roster.openEach service call.sender job.openings = (.ok (), opened))
      (failed : service.failure? opened call.sender job = some failure) :
      Fails service roster call (.handler failure)
  | unfit {method : Method} {job : Job} {body : List Json.Value} {error : BodyError}
      (routed : Routed roster call method) (made : Job.ofArgs method call.args = .ok job)
      (performed : (service.perform roster call.sender call.path job).1 = .ok body)
      (unfit : Signature.checkText method.outputSignature body = .error error) :
      Fails service roster call
        (.body s!"{call.path}({call.interface}.{call.member}) -> {method.outputSignature}" error)

variable {backend : Backend ω σ} {base : FilePath} {roster : Roster ω σ} {call : Call}

/-- A call is answered by a fault exactly when it fails, and by the fault for the reason. -/
theorem answer_error_iff (orderly : roster.Orderly (ofBackend backend base).addressing)
    (agrees : (ofBackend backend base).Agrees roster) (call : Call) (fault : Fault) :
    ((ofBackend backend base).answer roster call).1 = .error fault ↔
      ∃ cause, (ofBackend backend base).Fails roster call cause ∧
        cause.fault backend.language = fault := by
  constructor
  · intro answered
    rcases rejects_or_runs roster call with
      ⟨error, rejects⟩ | ⟨named, member_eq, standing⟩ | ⟨method, job, routed, made⟩
    · rw [rejects.answer] at answered
      exact ⟨.call error, .rejected rejects, Except.error.inj answered⟩
    · rw [answer_described named member_eq standing] at answered
      cases answered
    · rw [answer_of_job routed.1 routed.2 made] at answered
      cases outcome : roster.openEach (ofBackend backend base) call.sender job.openings with
      | mk result opened =>
          cases result with
          | error error =>
              rw [perform_refused outcome] at answered
              exact ⟨.bus error, .refused routed made outcome, Except.error.inj answered⟩
          | ok done =>
              have concluded := proceed_concludes orderly agrees routed made outcome
              rw [← perform_opened outcome, Concludes] at concluded
              split at concluded
              · next failure failed =>
                  rw [concluded] at answered
                  exact ⟨.handler failure, .failed routed made outcome failed,
                    Except.error.inj answered⟩
              · obtain ⟨body, replied, -⟩ := concluded
                rw [replied] at answered
                simp only [Except.bind, Call.answerWith] at answered
                split at answered
                · cases answered
                · next error unfit =>
                    exact ⟨_, .unfit routed made replied unfit, Except.error.inj answered⟩
  · rintro ⟨cause, fails, rfl⟩
    cases fails with
    | rejected rejects => rw [rejects.answer]; rfl
    | refused routed made refused =>
        rw [answer_of_job routed.1 routed.2 made, perform_refused refused]
        rfl
    | failed routed made opened_ok failed =>
        have concluded := proceed_concludes orderly agrees routed made opened_ok
        rw [Concludes, failed] at concluded
        rw [answer_of_job routed.1 routed.2 made, perform_opened opened_ok, concluded]
        rfl
    | unfit routed made performed unfit =>
        rw [answer_of_job routed.1 routed.2 made, performed]
        simp only [Except.bind, Call.answerWith, unfit]
        rfl

end Service

namespace Connection

/-- A line of the client with a given name fails under an identifier, and why: it names no method of
an interface, its params cannot be decoded, or it makes a call that fails. -/
inductive Fails (service : Service ω σ) (roster : Roster ω σ) (name line : String) (id : Rpc.Id) :
    Cause → Prop
  | undotted {request : Rpc.Request} (asks : Asks line request id)
      (undotted : '.' ∉ request.method.toList) :
      Fails service roster name line id (.call (.unknownMethod "" request.method))
  | undecodable {request : Rpc.Request} {error : Json.DecodeError} (asks : Asks line request id)
      (other : request.method ≠ helloMethod) (dotted : '.' ∈ request.method.toList)
      (undecoded : CallParams.decode (request.params.getD .null) = .error error) :
      Fails service roster name line id (.call (.invalidArgs "params" (.undecodable error)))
  | call {call : Call} {cause : Cause} (calls : Calls name line id call)
      (fails : service.Fails roster call cause) : Fails service roster name line id cause

variable {backend : Backend ω σ} {base : FilePath} {roster : Roster ω σ} {name line : String}

private theorem demand_fault {request : Rpc.Request} {id : Rpc.Id} {fault : Fault}
    (asks : Asks line request id) (other : request.method ≠ helloMethod)
    (unheard : callOf name request = .error fault) :
    demand name line = .answer ⟨id, .error (.ofFault fault)⟩ := by
  simp [demand, asks.shown, asks.read, asks.identified, other, unheard]

/-- A line is answered by an error exactly when it is no message or fails, and then by the error for
the reason. -/
theorem handleLine_error_iff
    (orderly : roster.Orderly (Service.ofBackend backend base).addressing)
    (agrees : (Service.ofBackend backend base).Agrees roster) (name line : String) (id : Rpc.Id)
    (error : Rpc.RpcError) :
    (handleLine (.ofBackend backend base) name line roster).1 = some ⟨id, .error error⟩ ↔
      (isBlankText line.toList = false ∧ Rpc.Request.read? line = none ∧ id = .null ∧
        error = .unreadable) ∨
      ∃ cause, Fails (.ofBackend backend base) roster name line id cause ∧
        .ofFault (cause.fault backend.language) = error := by
  constructor
  · intro handled
    have spec := demand_spec name line
    rw [handleLine] at handled
    split at handled
    · cases handled
    · next response demanded =>
        obtain rfl := Option.some.inj handled
        rw [demanded] at spec
        cases spec with
        | unreadable shown unread => exact .inl ⟨shown, unread, rfl, rfl⟩
        | undotted asks undotted => exact .inr ⟨_, .undotted asks undotted, rfl⟩
        | undecodable asks other dotted undecoded =>
            exact .inr ⟨_, .undecodable asks other dotted undecoded, rfl⟩
    · next id' call demanded =>
        rw [demanded] at spec
        cases answered : ((Service.ofBackend backend base).answer roster call).1 with
        | ok body => simp [answered, answer] at handled
        | error fault =>
            obtain ⟨cause, fails, rfl⟩ :=
              (Service.answer_error_iff orderly agrees call fault).mp answered
            simp only [answered, answer, Option.some.injEq, Rpc.Response.mk.injEq,
              Except.error.injEq] at handled
            obtain ⟨rfl, rfl⟩ := handled
            exact .inr ⟨cause, .call spec fails, rfl⟩
  · rintro (⟨shown, unread, rfl, rfl⟩ | ⟨cause, fails, rfl⟩)
    · simp [handleLine, demand, shown, unread]
    · cases fails with
      | @undotted request asks undotted =>
          have other : request.method ≠ helloMethod := by
            rintro hello
            rw [hello] at undotted
            exact undotted (by decide)
          rw [handleLine, demand_fault asks other (callOf_undotted undotted)]
          rfl
      | undecodable asks other dotted undecoded =>
          rw [handleLine, demand_fault asks other (callOf_undecodable dotted undecoded)]
          rfl
      | call calls fails =>
          have answered := (Service.answer_error_iff orderly agrees _ _).mpr ⟨cause, fails, rfl⟩
          simp [handleLine, demand_of_calls calls, answered, answer]

/-- In every course from a successful start, a line is answered by an error exactly when it is no
message or fails, and then by the error for the reason.  The code blames the call exactly when the
call is malformed or addresses nothing, or when a handler fails under one of the names that are
reserved for such calls.  Everything else that goes wrong has the server code: other failures,
panics, bodies that do not fit, refused documents, and sessions or services that are gone. -/
theorem course_codes (begins : (Service.ofBackend backend base).Begins roster)
    (occurrences : List (Occurrence ω)) :
    let service := Service.ofBackend backend base
    let after := service.course occurrences roster
    let errorFor := fun cause : Cause => Rpc.RpcError.ofFault (cause.fault backend.language)
    (∀ name line id error,
      (handleLine service name line after).1 = some ⟨id, .error error⟩ ↔
        (isBlankText line.toList = false ∧ Rpc.Request.read? line = none ∧ id = .null ∧
          error = .unreadable) ∨
        ∃ cause, Fails service after name line id cause ∧ errorFor cause = error) ∧
    (∀ cause, (errorFor cause).BlamesCall ↔
      (∃ mistake, cause = .call mistake) ∨
        ∃ failure, cause = .handler failure ∧ failure.name ∈ reservedNames) ∧
    (∀ cause, ¬ (errorFor cause).BlamesCall →
      (errorFor cause).code = Rpc.RpcError.serverCode) ∧
    ∀ failure : Failure, '.' ∉ failure.name.toList → failure.name ∉ reservedNames := by
  intro service after errorFor
  obtain ⟨begun_orderly, begun_agrees⟩ := begins.sound
  obtain ⟨orderly, agrees⟩ := Service.course_sound begun_orderly begun_agrees occurrences
  refine ⟨handleLine_error_iff orderly agrees, fun cause => ?_, fun cause => ?_,
    fun failure bare reserved => bare (dot_mem_of_reserved reserved)⟩
  · rw [← cause.name_mem backend.language]
    exact (Rpc.RpcError.code_ofFault _).1
  · exact (Rpc.RpcError.code_ofFault _).2.mp

end Connection

/-- A client asks for an object that is not there. -/
def Rehearsal.stray : String := "[\"2.0\", \"a.b\", [\"/\"], 8]"

theorem Connection.course_codes_stray :
    Rehearsal.service.Begins Rehearsal.roster ∧
      ∃ id error, (handleLine Rehearsal.service ":1.7" Rehearsal.stray Rehearsal.roster).1 =
          some ⟨id, .error error⟩ ∧ error.BlamesCall := by
  obtain ⟨answered, blames, -⟩ := course_codes Rehearsal.begins []
  have called : (called? ":1.7" Rehearsal.stray).map (fun call => (call.interface, call.path)) =
      some ("a", "/") := by decide +kernel
  obtain ⟨call, stray_eq, named⟩ := Option.map_eq_some_iff.mp called
  obtain ⟨interface_eq, path_eq⟩ := Prod.mk.inj named
  obtain ⟨id, calls⟩ := called?_eq_some.mp stray_eq
  have bare : Rehearsal.roster.around.bus.interfaces call.path = [] := by
    rw [path_eq]
    decide +kernel
  have apart : call.interface ≠ introspectable := by
    rw [interface_eq]
    decide
  have rejects : Service.Rejects Rehearsal.roster call (.unknownObject call.path) :=
    .unknownObject (fun named => absurd named apart) bare
  have fails : Fails Rehearsal.service Rehearsal.roster ":1.7" Rehearsal.stray id
      (.call (.unknownObject call.path)) := .call calls (.rejected rejects)
  exact ⟨Rehearsal.begins, id, _, (answered _ _ _ _).mpr (.inr ⟨_, fails, rfl⟩),
    (blames _).mpr (.inl ⟨_, rfl⟩)⟩

/-- A script that fails under the name of a malformed call. -/
def Rehearsal.posing : Json.Entries :=
  [("fail", .array [.string "org.freedesktop.DBus.Error.InvalidArgs", .string "boom"])]

/-- A client has a project parsed, and the handler fails under the name of a malformed call. -/
def Rehearsal.disguise : Call := parseAll ":1.7" "a.css" [] posing

theorem Connection.code_of_disguise :
    let failure : Failure :=
      .raised "script" "org.freedesktop.DBus.Error.InvalidArgs" "boom"
    Rehearsal.service.Fails Rehearsal.roster Rehearsal.disguise (.handler failure) ∧
      ∃ error,
        answer (.number 1) (Rehearsal.service.answer Rehearsal.roster Rehearsal.disguise).1 =
          ⟨.number 1, .error error⟩ ∧
        error.code = Rpc.RpcError.invalidParamsCode := by
  intro failure
  have routed : Service.Routed Rehearsal.roster Rehearsal.disguise .parseAll :=
    Rehearsal.parseAll_routed [] ..
  have made : Job.ofArgs .parseAll Rehearsal.disguise.args =
      .ok (.parseAll ⟨"a.css", [], .origin, Rehearsal.posing⟩) := by rfl
  have started : Rehearsal.service.start .empty =
      (.ok (), (Rehearsal.service.start .empty).2) := by rfl
  have ready := Service.start_ready started (Scripted.stage ⟨[], []⟩)
  obtain ⟨opened, opened_ok⟩ := Roster.openEach_ready ready ":1.7"
    [⟨"a.css", "", .origin⟩]
  have failed : Rehearsal.service.failure? opened ":1.7"
      (.parseAll ⟨"a.css", [], .origin, Rehearsal.posing⟩) = some failure := by
    obtain rfl := congrArg Prod.snd opened_ok
    decide +kernel
  have fails : Rehearsal.service.Fails Rehearsal.roster Rehearsal.disguise (.handler failure) :=
    .failed routed made opened_ok failed
  have answered := (Service.answer_error_iff ready.orderly ready.agrees Rehearsal.disguise _).mpr
    ⟨_, fails, rfl⟩
  refine ⟨fails, _, congrArg (answer (.number 1)) answered, ?_⟩
  decide +kernel

end LintBus

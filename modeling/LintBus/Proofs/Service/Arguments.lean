import LintBus.Proofs.Service.Rejection
import LintBus.Proofs.Signature.Decoding

/-!
# Arguments and input signatures

The arguments of a method are decoded by a row of decoders and declared by a signature.  Both take
the same lists of values: the arguments of a method with inputs decode exactly when they pass the
check against its input signature, and other arguments are refused before anything is done.
-/

namespace LintBus

open Json (Decoder Value)
open Json.Decoder (SuitsRow)

/-- The types of the arguments of a call that parses one document. -/
def ParseRequest.types : List Ty := [.string, .string, Location.ty, .dict .string .variant]

private theorem ParseRequest.suitsRow_decode (args : List Value) : SuitsRow
    (decode args) types args := by
  change SuitsRow _ _ (args.drop 0)
  exact .next Decoder.suits_string fun path => .next Decoder.suits_string fun contents =>
    .next Location.suits_decode fun cursor => .next Decoder.suits_entries fun options =>
      .last (ParseRequest.mk path contents cursor options) args 4

/-- The types of the arguments of a call that parses a project. -/
def ParseAllRequest.types : List Ty :=
  [.string, .array (.struct [.string, .string]), Location.ty, .dict .string .variant]

private theorem ParseAllRequest.suitsRow_decode (args : List Value) :
    SuitsRow (decode args) types args := by
  have members := (Decoder.suits_string.pair Decoder.suits_string).list
  change SuitsRow _ _ (args.drop 0)
  exact .next Decoder.suits_string fun path => .next members fun members =>
    .next Location.suits_decode fun cursor => .next Decoder.suits_entries fun options =>
      .last (ParseAllRequest.mk path members cursor options) args 4

private theorem suitsRow_decodeClosed (args : List Value) :
    SuitsRow (decodeClosed args) [.string] args := by
  change SuitsRow _ _ (args.drop 0)
  exact .next Decoder.suits_string fun path => .last path args 1

namespace Job

private theorem exists_map_eq_ok {ε α β : Type} {change : α → β} {outcome : Except ε α} :
    (∃ made, outcome.map change = .ok made) ↔ ∃ given, outcome = .ok given := by
  cases outcome with
  | error error => simp [Except.map]
  | ok given => simp [Except.map]

/-- The arguments of a method with inputs decode exactly when they pass the check against its
input signature. -/
theorem decode_eq_ok_iff {method : Method} (listed : method ∈ Method.all)
    (declares : method.inputs ≠ []) (args : List Value) :
    (∃ job, decode method.action args = .ok job) ↔
      ∃ signature, Signature.parse method.inputSignature = .ok signature ∧
        signature.check args = .ok () := by
  simp only [Method.all, List.mem_cons, List.not_mem_nil, or_false] at listed
  rcases listed with rfl | rfl | rfl | rfl
  · have read : Signature.parse Method.parse.inputSignature =
        .ok ⟨"ss(xx)a\x7bsv\x7d", ParseRequest.types⟩ := by rfl
    simp only [read, Except.ok.injEq, exists_eq_left', Signature.check_eq_ok]
    exact exists_map_eq_ok.trans (ParseRequest.suitsRow_decode args)
  · have read : Signature.parse Method.dispose.inputSignature = .ok ⟨"s", [.string]⟩ := by rfl
    simp only [read, Except.ok.injEq, exists_eq_left', Signature.check_eq_ok]
    exact exists_map_eq_ok.trans (suitsRow_decodeClosed args)
  · have read : Signature.parse Method.parseAll.inputSignature =
        .ok ⟨"sa(ss)(xx)a\x7bsv\x7d", ParseAllRequest.types⟩ := by rfl
    simp only [read, Except.ok.injEq, exists_eq_left', Signature.check_eq_ok]
    exact exists_map_eq_ok.trans (ParseAllRequest.suitsRow_decode args)
  · exact absurd rfl declares

end Job

namespace Service

variable {ω σ : Type}

/-- For each method with inputs and all arguments, the arguments decode if and only if its input
signature can be read and they pass the check against it.  Every call of the method with other
arguments is answered by the fault for invalid arguments and changes nothing. -/
theorem arguments_decode {method : Method} (listed : method ∈ Method.all)
    (declares : method.inputs ≠ []) (args : List Value) :
    let passes := ∃ signature, Signature.parse method.inputSignature = .ok signature ∧
      signature.check args = .ok ()
    ((∃ job, Job.decode method.action args = .ok job) ↔ passes) ∧
    (¬ passes → ∀ (service : Service ω σ) (roster : Roster ω σ) (call : Call),
      Routed roster call method → call.args = args →
        ∃ error, Job.decode method.action args = .error error ∧
          service.answer roster call =
            (.error (.ofCallError (.invalidArgs method.member (.undecodable error))), roster)) := by
  intro passes
  have decodes := Job.decode_eq_ok_iff listed declares args
  refine ⟨decodes, fun refused service roster call routed args_eq => ?_⟩
  cases outcome : Job.decode method.action args with
  | ok job => exact absurd (decodes.mp ⟨job, outcome⟩) refused
  | error error =>
      exact ⟨error, rfl, answer_refused routed (Job.ofArgs_undecodable (args_eq ▸ outcome))⟩

end Service

/-- A client asks for a project with a cursor that is out of range by one. -/
def Rehearsal.overrun : Call :=
  { parseAll ":1.7" "a.css" [] [] with
    args := [.string "a.css", .array [.array [.string "b.css", .string ""]],
      .array [.number (.integer 0), .number (.integer 9223372036854775808)], .object []] }

theorem Service.arguments_decode_overrun :
    Method.parseAll ∈ Method.all ∧ Method.parseAll.inputs ≠ [] ∧
      Routed Rehearsal.roster Rehearsal.overrun .parseAll ∧
      ∃ error, Job.decode .parseAll Rehearsal.overrun.args = .error error ∧
        Rehearsal.service.answer Rehearsal.roster Rehearsal.overrun =
          (.error (.ofCallError (.invalidArgs "ParseAll" (.undecodable error))),
            Rehearsal.roster) := by
  have listed : Method.parseAll ∈ Method.all := by decide
  have declares : Method.parseAll.inputs ≠ [] := by decide
  have routed : Routed Rehearsal.roster Rehearsal.overrun .parseAll :=
    routed_iff.mpr ⟨listed, by decide +kernel, rfl, by decide +kernel⟩
  obtain ⟨decodes, refused⟩ := arguments_decode listed declares Rehearsal.overrun.args
  refine ⟨listed, declares, routed, refused ?_ Rehearsal.service _ _ routed rfl⟩
  rw [← decodes]
  rintro ⟨job, decoded⟩
  cases decoded

/-- The arguments are as many as a method declares, and of the types that it declares. -/
def Method.Takes (method : Method) (args : List Value) : Prop :=
  ∃ signature, Signature.parse method.inputSignature = .ok signature ∧
    signature.check args = .ok ()

private theorem Method.inputs_ne_nil : ∀ method ∈ all, method ≠ .diagnostics → method.inputs ≠
    [] := by
  decide

private theorem Method.takes_diagnostics (args : List Value) : diagnostics.Takes args ↔ args =
    [] := by
  have read : Signature.parse diagnostics.inputSignature = .ok ⟨"", []⟩ := by rfl
  simp only [Takes, read, Except.ok.injEq, exists_eq_left', Signature.check_eq_ok,
    List.forall₂_nil_left_iff]

namespace Service

variable {ω σ : Type} {roster : Roster ω σ} {call : Call} {method : Method}

/-- A call that succeeds carries the arguments that its method declares, unless the method declares
none: diagnostics are read with any arguments, and these make no difference to the answer. -/
theorem answer_typed (service : Service ω σ) (routed : Routed roster call method) :
    (method ≠ .diagnostics → ∀ body, (service.answer roster call).1 = .ok body →
      method.Takes call.args) ∧
    (method = .diagnostics → (method.Takes call.args ↔ call.args = []) ∧
      ∀ args, service.answer roster { call with args := args } = service.answer roster call) := by
  constructor
  · intro declares body answered
    have listed := (routed_iff.mp routed).1
    refine (Job.decode_eq_ok_iff listed (Method.inputs_ne_nil method listed declares) _).mp ?_
    cases decoded : Job.decode method.action call.args with
    | ok job => exact ⟨job, rfl⟩
    | error error =>
        rw [answer_refused routed (Job.ofArgs_undecodable decoded)] at answered
        cases answered
  · rintro rfl
    refine ⟨Method.takes_diagnostics call.args, fun args => ?_⟩
    have rerouted : Routed roster { call with args := args } .diagnostics := routed
    have decoded : ∀ args, Job.ofArgs .diagnostics args = .ok .diagnostics := fun _ => rfl
    rw [answer_of_job routed.1 routed.2 (decoded call.args),
      answer_of_job rerouted.1 rerouted.2 (decoded args)]
    rfl

end Service

theorem Service.answer_typed_parse :
    let call := Rehearsal.parseAll ":1.7" "a.css" ["b.css"] []
    Routed Rehearsal.roster call .parseAll ∧ Method.parseAll ≠ .diagnostics ∧
      ∃ body, (Rehearsal.service.answer Rehearsal.roster call).1 = .ok body ∧
        Method.parseAll.Takes call.args := by
  intro call
  have routed : Routed Rehearsal.roster call .parseAll := Rehearsal.parseAll_routed [] ..
  have declares : Method.parseAll ≠ .diagnostics := by decide
  cases answered : (Rehearsal.service.answer Rehearsal.roster call).1 with
  | ok body => exact ⟨routed, declares, body, rfl, (answer_typed _ routed).1 declares body answered⟩
  | error fault =>
      have returns : (Rehearsal.service.answer Rehearsal.roster call).1.toBool = true := by
        decide +kernel
      rw [answered] at returns
      cases returns

/-- A client reads diagnostics with an argument that nobody has declared. -/
def Rehearsal.superfluous : Call :=
  ⟨":1.7", service.addressing.placeholderObject, "org.gnome.CodeAssist.v1.Diagnostics",
    "Diagnostics", [.boolean true]⟩

theorem Service.diagnostics_superfluous :
    Routed Rehearsal.roster Rehearsal.superfluous .diagnostics ∧
      ¬ Method.diagnostics.Takes Rehearsal.superfluous.args ∧
      (Rehearsal.service.answer Rehearsal.roster Rehearsal.superfluous).1 = .ok [.array []] := by
  have routed : Routed Rehearsal.roster Rehearsal.superfluous .diagnostics :=
    routed_iff.mpr ⟨by decide, by decide +kernel, rfl, by decide +kernel⟩
  refine ⟨routed, fun takes => ?_, ?_⟩
  · cases (Method.takes_diagnostics _).mp takes
  · rw [answer_of_job routed.1 routed.2 rfl]
    rfl

end LintBus

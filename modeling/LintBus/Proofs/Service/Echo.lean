import LintBus.Proofs.Service.Routing

/-!
# Echoes

The reply about a project echoes paths as the call spells them.  What else a reply says, and
whether it fits the signature of its method, does not depend on them.
-/

namespace LintBus

open Json (Value)

namespace Json.Value

/-- An entry of a reply about a project, without the path that it echoes. -/
def unechoedEntry : Value → Value
  | .array [.string _, shown] => .array [.string "", shown]
  | value => value

/-- A value of a reply about a project, without the paths that it echoes. -/
def unechoed : Value → Value
  | .array entries => .array (entries.map unechoedEntry)
  | value => value

end Json.Value

/-- The reply without the paths that it echoes, if it is about a project. -/
def Reply.unechoed (echoes : Bool) (reply : Reply) : Reply :=
  if echoes then reply.map (·.map Value.unechoed) else reply

namespace Signature

private theorem checkTy_unechoedEntry (access : Access) (entry : Value) :
    checkTy access (.struct [.string, .objectPath]) entry.unechoedEntry =
      checkTy access (.struct [.string, .objectPath]) entry := by
  unfold Value.unechoedEntry
  split
  · rfl
  · rfl

private theorem checkTy_unechoed (access : Access) (value : Value) :
    checkTy access (.array (.struct [.string, .objectPath])) value.unechoed =
      checkTy access (.array (.struct [.string, .objectPath])) value := by
  have each_eq : ∀ (index : Nat) (entries : List Value),
      checkEach (fun index value => checkTy (access.push (.item index))
          (.struct [.string, .objectPath]) value) index (entries.map Value.unechoedEntry) =
        checkEach (fun index value => checkTy (access.push (.item index))
          (.struct [.string, .objectPath]) value) index entries := by
    intro index entries
    induction entries generalizing index with
    | nil => rfl
    | cons entry rest induction =>
        simp only [List.map_cons, checkEach, checkTy_unechoedEntry, induction]
  cases value with
  | array entries => simpa only [Value.unechoed, checkTy] using each_eq 0 entries
  | _ => rfl

private theorem checkText_unechoed (body : List Value) :
    checkText Method.parseAll.outputSignature (body.map Value.unechoed) =
      checkText Method.parseAll.outputSignature body := by
  have read : parse Method.parseAll.outputSignature =
      .ok ⟨"a(so)", [.array (.struct [.string, .objectPath])]⟩ := by rfl
  cases body with
  | nil => rfl
  | cons value rest =>
      simp only [checkText, read, check, List.map_cons, List.length_cons, List.length_map,
        checkBody, checkTy_unechoed]

end Signature

/-- A call is answered about a project, so that the reply echoes paths. -/
def Call.echoes (call : Call) : Bool := call.member == Method.parseAll.member

/-- A job is answered about a project, so that the reply echoes paths. -/
def Job.echoes : Job → Bool
  | .parseAll _ => true
  | .parse _ | .close _ | .diagnostics => false

theorem Job.echoes_ofArgs {method : Method} (listed : method ∈ Method.all) {call : Call}
    (member_eq : method.member = call.member) {args : List Value} {job : Job}
    (made : ofArgs method args = .ok job) : job.echoes = call.echoes := by
  rw [Call.echoes, ← member_eq]
  rcases ofArgs_cases listed made with
    ⟨request, rfl, rfl⟩ | ⟨path, rfl, rfl⟩ | ⟨request, rfl, rfl⟩ | ⟨rfl, rfl⟩
  · rfl
  · rfl
  · rfl
  · rfl

/-- Checking a reply does not depend on the paths that it echoes. -/
theorem Call.unechoed_answerWith {method : Method} (listed : method ∈ Method.all) {call : Call}
    (member_eq : method.member = call.member) (language : String) (reply : Reply) :
    Reply.unechoed call.echoes (reply.bind (call.answerWith language method)) =
      (reply.unechoed call.echoes).bind (call.answerWith language method) := by
  cases echoing : call.echoes with
  | false => rfl
  | true =>
      have parseAll_only : ∀ other ∈ Method.all,
          other.member = Method.parseAll.member → other = Method.parseAll := by decide
      obtain rfl := parseAll_only method listed (member_eq.trans (by simpa [echoes] using echoing))
      cases reply with
      | error fault => rfl
      | ok body =>
          have checked := Signature.checkText_unechoed body
          simp only [Reply.unechoed, if_true, Except.map, Except.bind, answerWith, checked]
          cases Signature.checkText Method.parseAll.outputSignature body with
          | error error => rfl
          | ok fits => rfl

end LintBus

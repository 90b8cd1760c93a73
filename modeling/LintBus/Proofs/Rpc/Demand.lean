import LintBus.Proofs.Text.Pieces
import LintBus.Rpc.Connection

/-!
# What a line asks for

A line is blank, no message, a notification, or a request with an identifier.  Only the last can
be a call: one of a method with a dot in its name, which is cut at the last dot, with params that
can be decoded.  Everything that is neither blank nor a notification wants a response.
-/

namespace LintBus
namespace Connection

private theorem splitMethod?_of_last {interface member : String} (last : '.' ∉ member.toList) :
    splitMethod? (interface ++ "." ++ member) = some (interface, member) := by
  have text : (interface ++ "." ++ member).toList = interface.toList ++ '.' :: member.toList := by
    simp
  have cut := piecesAt_append_cons '.' interface.toList member.toList
  rw [piecesAt_of_notMem last] at cut
  rw [splitMethod?, text, cut, List.reverse_append]
  cases turned : (piecesAt '.' interface.toList).reverse with
  | nil => exact absurd (List.reverse_eq_nil_iff.mp turned) (piecesAt_ne_nil '.' _)
  | cons first others =>
      have pieces : (first :: others).reverse = piecesAt '.' interface.toList := by
        rw [← turned, List.reverse_reverse]
      simp only [List.reverse_singleton, List.singleton_append, pieces, intercalate_piecesAt,
        String.ofList_toList]

private theorem splitMethod?_of_notMem {method : String} (absent : '.' ∉ method.toList) :
    splitMethod? method = none := by
  rw [splitMethod?, piecesAt_of_notMem absent]
  rfl

private theorem exists_last_dot {method : String} (dotted : '.' ∈ method.toList) :
    ∃ interface member, method = interface ++ "." ++ member ∧ '.' ∉ member.toList := by
  obtain ⟨after, before, turned, last⟩ :=
    List.eq_append_cons_of_mem (List.mem_reverse.mpr dotted)
  refine ⟨String.ofList before.reverse, String.ofList after.reverse, ?_, ?_⟩
  · apply String.toList_inj.mp
    have text := congrArg List.reverse turned
    rw [List.reverse_reverse] at text
    rw [text]
    simp
  · simpa using last

private theorem splitMethod?_eq_some {method interface member : String} :
    splitMethod? method = some (interface, member) ↔
      method = interface ++ "." ++ member ∧ '.' ∉ member.toList := by
  constructor
  · intro cut
    by_cases dotted : '.' ∈ method.toList
    · obtain ⟨left, right, rfl, last⟩ := exists_last_dot dotted
      rw [splitMethod?_of_last last, Option.some.injEq, Prod.mk.injEq] at cut
      obtain ⟨rfl, rfl⟩ := cut
      exact ⟨rfl, last⟩
    · rw [splitMethod?_of_notMem dotted] at cut
      exact absurd cut (Option.some_ne_none _).symm
  · rintro ⟨rfl, last⟩
    exact splitMethod?_of_last last

/-- A line wants a response: it is not blank and no message without an identifier. -/
def wants (line : String) : Bool :=
  !isBlankText line.toList &&
    match Rpc.Request.read? line with
    | none => true
    | some request => request.id.isSome

/-- A line carries a message with an identifier. -/
structure Asks (line : String) (request : Rpc.Request) (id : Rpc.Id) : Prop where
  shown : isBlankText line.toList = false
  read : Rpc.Request.read? line = some request
  identified : request.id = some id

/-- A line of the client with a given name makes a call, under an identifier. -/
inductive Calls (name line : String) (id : Rpc.Id) : Call → Prop
  | intro {request : Rpc.Request} {params : CallParams} {interface member : String}
      (asks : Asks line request id)
      (other : request.method ≠ helloMethod)
      (method_eq : request.method = interface ++ "." ++ member)
      (last : '.' ∉ member.toList)
      (decoded : CallParams.decode (request.params.getD .null) = .ok params) :
      Calls name line id ⟨name, params.path, interface, member, params.args⟩

/-- The call that a line of the client with a given name makes. -/
def called? (name line : String) : Option Call :=
  match demand name line with
  | .call _ call => some call
  | _ => none

/-- A response to a line that wants one and makes no call. -/
inductive Retorts (name line : String) : Rpc.Response → Prop
  | unreadable (shown : isBlankText line.toList = false)
      (unread : Rpc.Request.read? line = none) :
      Retorts name line ⟨.null, .error .unreadable⟩
  | hello {request : Rpc.Request} {id : Rpc.Id} (asks : Asks line request id)
      (hello : request.method = helloMethod) :
      Retorts name line ⟨id, .ok (.string name)⟩
  | undotted {request : Rpc.Request} {id : Rpc.Id} (asks : Asks line request id)
      (undotted : '.' ∉ request.method.toList) :
      Retorts name line ⟨id, .error (.ofFault (.ofCallError (.unknownMethod "" request.method)))⟩
  | undecodable {request : Rpc.Request} {id : Rpc.Id} {error : Json.DecodeError}
      (asks : Asks line request id)
      (other : request.method ≠ helloMethod)
      (dotted : '.' ∈ request.method.toList)
      (undecoded : CallParams.decode (request.params.getD .null) = .error error) :
      Retorts name line
        ⟨id, .error (.ofFault (.ofCallError (.invalidArgs "params" (.undecodable error))))⟩

section Requests

variable {name : String} {request : Rpc.Request}

theorem callOf_undotted (undotted : '.' ∉ request.method.toList) :
    callOf name request = .error (.ofCallError (.unknownMethod "" request.method)) := by
  rw [callOf, splitMethod?_of_notMem undotted]

theorem callOf_undecodable {error : Json.DecodeError} (dotted : '.' ∈ request.method.toList)
    (undecoded : CallParams.decode (request.params.getD .null) = .error error) :
    callOf name request = .error (.ofCallError (.invalidArgs "params" (.undecodable error))) := by
  obtain ⟨interface, member, cut⟩ := exists_last_dot dotted
  simp only [callOf, splitMethod?_eq_some.mpr cut, undecoded]

private theorem callOf_decoded {params : CallParams} {interface member : String}
    (method_eq : request.method = interface ++ "." ++ member) (last : '.' ∉ member.toList)
    (decoded : CallParams.decode (request.params.getD .null) = .ok params) :
    callOf name request = .ok ⟨name, params.path, interface, member, params.args⟩ := by
  simp only [callOf, splitMethod?_eq_some.mpr ⟨method_eq, last⟩, decoded]

end Requests

variable {name line : String} {id : Rpc.Id} {call : Call}

private theorem Asks.wants {request : Rpc.Request} (asks : Asks line request id) :
    wants line = true := by
  simp [Connection.wants, asks.shown, asks.read, asks.identified]

theorem Calls.wants (calls : Calls name line id call) : wants line = true := by
  obtain ⟨asks, -, -, -, -⟩ := calls
  exact asks.wants

theorem Retorts.wants {response : Rpc.Response} (retorts : Retorts name line response) :
    wants line = true := by
  cases retorts with
  | unreadable shown unread => simp [Connection.wants, shown, unread]
  | hello asks hello => exact asks.wants
  | undotted asks undotted => exact asks.wants
  | undecodable asks other dotted undecoded => exact asks.wants

/-- A call is made in the name of the client. -/
theorem Calls.sender_eq (calls : Calls name line id call) : call.sender = name := by
  obtain ⟨-, -, -, -, -⟩ := calls
  rfl

/-- Each line is met with what it asks for. -/
theorem demand_spec (name line : String) :
    match demand name line with
    | .nothing => wants line = false
    | .answer response => Retorts name line response
    | .call id call => Calls name line id call := by
  cases shown : isBlankText line.toList with
  | true => simp [demand, wants, shown]
  | false =>
      cases read : Rpc.Request.read? line with
      | none =>
          simp only [demand, shown, read]
          exact .unreadable shown read
      | some request =>
          cases identified : request.id with
          | none => simp [demand, wants, shown, read, identified]
          | some id =>
              have asks : Asks line request id := ⟨shown, read, identified⟩
              by_cases hello : request.method = helloMethod
              · simp only [demand, shown, read, identified, hello]
                exact .hello asks hello
              by_cases dotted : '.' ∈ request.method.toList
              · cases decoded : CallParams.decode (request.params.getD .null) with
                | error error =>
                    simp only [demand, shown, read, identified, if_neg hello,
                      callOf_undecodable dotted decoded]
                    exact .undecodable asks hello dotted decoded
                | ok params =>
                    obtain ⟨interface, member, method_eq, last⟩ := exists_last_dot dotted
                    simp only [demand, shown, read, identified, if_neg hello,
                      callOf_decoded method_eq last decoded]
                    exact .intro asks hello method_eq last decoded
              · simp only [demand, shown, read, identified, if_neg hello,
                  callOf_undotted dotted]
                exact .undotted asks dotted

theorem wants_of_demand (demanded : demand name line = .nothing) : wants line = false := by
  simpa only [demanded] using demand_spec name line

theorem retorts_of_demand {response : Rpc.Response}
    (demanded : demand name line = .answer response) : Retorts name line response := by
  simpa only [demanded] using demand_spec name line

theorem calls_of_demand (demanded : demand name line = .call id call) :
    Calls name line id call := by
  simpa only [demanded] using demand_spec name line

theorem demand_of_calls (calls : Calls name line id call) : demand name line = .call id call := by
  obtain ⟨⟨shown, read, identified⟩, other, method_eq, last, decoded⟩ := calls
  simp [demand, shown, read, identified, other, callOf_decoded method_eq last decoded]

/-- The calls are those of the messages with an identifier, a method with a dot that is not the
greeting, and params that can be decoded. -/
theorem called?_eq_some : called? name line = some call ↔ ∃ id, Calls name line id call := by
  constructor
  · intro called
    rw [called?] at called
    split at called
    · next id held demanded =>
        obtain rfl := Option.some.inj called
        exact ⟨id, calls_of_demand demanded⟩
    · exact absurd called (Option.some_ne_none call).symm
  · rintro ⟨id, calls⟩
    rw [called?, demand_of_calls calls]

end Connection
end LintBus

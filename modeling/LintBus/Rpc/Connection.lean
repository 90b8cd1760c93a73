import LintBus.Service.Answer
import LintBus.Rpc.Response
import LintBus.Text.Blank
import LintBus.Text.Pieces

/-!
# Connections

Clients send requests, one a line. A request names a method as `interface.member` and its params
name an object and the arguments. A connection answers the requests of its client in order: with
the client's own name, with what a call returns, or with an error. When it ends, its name loses
its owner.
-/

namespace LintBus

/-- The method that answers with the caller's own name. -/
def helloMethod : String := "org.freedesktop.DBus.Hello"

/-- The object and the arguments of a request. -/
structure CallParams where
  path : String
  args : List Json.Value

namespace CallParams

open Json (Decoder Value Entries)

/-- The name of the record in error texts. -/
def recordName : String := "CallParams"

/-- Decode the members of an object; others are ignored. -/
def ofEntries (entries : Entries) : Except Json.DecodeError CallParams := do
  let args ←
    match entries.find? "args" with
    | some value => Decoder.list .any value
    | none => .ok []
  match entries.find? "path" with
  | some value => do
      let path ← Decoder.string value
      .ok ⟨path, args⟩
  | none => .error (.missingField "path")

/-- Decode the elements of an array; the arguments may be left out. -/
def ofItems (items : List Value) : Except Json.DecodeError CallParams := do
  let path ← Decoder.element .string (.record recordName 2) items 0
  let args ←
    match items[1]? with
    | some value => Decoder.list .any value
    | none => .ok []
  Decoder.noMore items 2
  .ok ⟨path, args⟩

/-- Decode the params of a request. -/
def decode : Decoder CallParams
  | .object entries => ofEntries entries
  | .array items => ofItems items
  | value => .error (.invalidType value.found (.record recordName))

end CallParams

namespace Connection

/-- Cut a method at its last dot into interface and member. -/
def splitMethod? (method : String) : Option (String × String) :=
  match (piecesAt '.' method.toList).reverse with
  | member :: first :: others =>
      some
        (String.ofList (List.intercalate ['.'] (first :: others).reverse), String.ofList member)
  | _ => none

/-- The call that a request makes in the name of a client. -/
def callOf (name : String) (request : Rpc.Request) : Except Fault Call :=
  match splitMethod? request.method with
  | none => .error (.ofCallError (.unknownMethod "" request.method))
  | some (interface, member) =>
      match CallParams.decode (request.params.getD .null) with
      | .error error => .error (.ofCallError (.invalidArgs "params" (.undecodable error)))
      | .ok params => .ok ⟨name, params.path, interface, member, params.args⟩

/-- What a line of a client asks for. -/
inductive Demand where
  /-- Nothing. -/
  | nothing
  /-- An answer that needs no call. -/
  | answer (response : Rpc.Response)
  /-- A call whose reply is the answer. -/
  | call (id : Rpc.Id) (call : Call)

/-- What a line of the client with a given name asks for. -/
def demand (name line : String) : Demand :=
  if isBlankText line.toList then .nothing
  else
    match Rpc.Request.read? line with
    | none => .answer ⟨.null, .error .unreadable⟩
    | some request =>
        match request.id with
        | none => .nothing
        | some id =>
            if request.method = helloMethod then .answer ⟨id, .ok (.string name)⟩
            else
              match callOf name request with
              | .error fault => .answer ⟨id, .error (.ofFault fault)⟩
              | .ok call => .call id call

/-- The answer to a call. -/
def answer (id : Rpc.Id) : Reply → Rpc.Response
  | .ok body => ⟨id, .ok (.array body)⟩
  | .error fault => ⟨id, .error (.ofFault fault)⟩

variable {ω σ : Type}

/-- Handle a line of a client. -/
def handleLine (service : Service ω σ) (name line : String) (roster : Roster ω σ) :
    Option Rpc.Response × Roster ω σ :=
  match demand name line with
  | .nothing => (none, roster)
  | .answer response => (some response, roster)
  | .call id call =>
      let (reply, roster) := service.answer roster call
      (some (answer id reply), roster)

/-- Drop a carriage return at the end of a line. -/
def dropReturn (line : List UInt8) : List UInt8 :=
  if line.getLast? = some 13 then line.dropLast else line

/-- Handle lines of a client in order, up to one that is no UTF-8 text, which ends the connection.
The result tells whether it is still open. -/
def handleLines (service : Service ω σ) (name : String) :
    List (List UInt8) → Roster ω σ → List Rpc.Response × Bool × Roster ω σ
  | [], roster => ([], true, roster)
  | line :: rest, roster =>
      match String.fromUTF8? ⟨(dropReturn line).toArray⟩ with
      | none => ([], false, (roster.ownerChanged service (.departure name)).2)
      | some line =>
          let (response, roster) := handleLine service name line roster
          let (responses, isOpen, roster) := handleLines service name rest roster
          (response.toList ++ responses, isOpen, roster)

end Connection
end LintBus

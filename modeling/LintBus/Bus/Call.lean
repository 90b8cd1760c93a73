import LintBus.Bus.Fault
import LintBus.Bus.Method
import LintBus.Json.Decode

/-!
# Calls and their arguments

A call names an object, an interface and a member, and carries a list of arguments. The arguments
of a method are decoded from left to right, and further ones are refused once all declared ones
have been decoded. What comes of them is a job; a job never opens a document without a path.
-/

namespace LintBus

open Json (Decoder DecodeError Value Entries)

/-- A method call as it arrives on the bus. -/
structure Call where
  /-- Unique bus name of the caller. -/
  sender : String
  path : String
  interface : String
  member : String
  args : List Value

/-- The values that answer a call, or a fault. -/
abbrev Reply := Except Fault (List Value)

/-- Decode a cursor, a pair of integers. -/
def Location.decode : Decoder Location := fun value =>
  (Decoder.pair .int64 .int64 value).map fun (line, column) => ⟨line, column⟩

/-- The arguments of a call that parses one document. -/
structure ParseRequest where
  path : String
  /-- Where the contents live, if not in the file itself. -/
  contents : String
  cursor : Location
  options : Entries

/-- Decode the arguments of a call that parses one document. -/
def ParseRequest.decode (args : List Value) : Except DecodeError ParseRequest := do
  let path ← Decoder.element .string (.tuple 4) args 0
  let contents ← Decoder.element .string (.tuple 4) args 1
  let cursor ← Decoder.element Location.decode (.tuple 4) args 2
  let options ← Decoder.element .entries (.tuple 4) args 3
  Decoder.noMore args 4
  .ok ⟨path, contents, cursor, options⟩

/-- The arguments of a call that parses a project. -/
structure ParseAllRequest where
  /-- The root. -/
  path : String
  /-- The members, each with the place of its contents. -/
  members : List (String × String)
  /-- The cursor in the root. -/
  cursor : Location
  options : Entries

/-- Decode the arguments of a call that parses a project. -/
def ParseAllRequest.decode (args : List Value) : Except DecodeError ParseAllRequest := do
  let path ← Decoder.element .string (.tuple 4) args 0
  let members ←
    Decoder.element (Decoder.list (Decoder.pair .string .string)) (.tuple 4) args 1
  let cursor ← Decoder.element Location.decode (.tuple 4) args 2
  let options ← Decoder.element .entries (.tuple 4) args 3
  Decoder.noMore args 4
  .ok ⟨path, members, cursor, options⟩

/-- Decode the arguments of a call that closes one document: its path. -/
def decodeClosed (args : List Value) : Except DecodeError String := do
  let path ← Decoder.element .string (.tuple 1) args 0
  Decoder.noMore args 1
  .ok path

/-- What a call asks for. -/
inductive Job where
  | parse (request : ParseRequest)
  | close (path : String)
  | parseAll (request : ParseAllRequest)
  | diagnostics

namespace Job

/-- Decode the arguments of a method; those of a method without inputs are ignored. -/
def decode (action : Action) (args : List Value) : Except DecodeError Job :=
  match action with
  | .parse => (ParseRequest.decode args).map .parse
  | .dispose => (decodeClosed args).map .close
  | .parseAll => (ParseAllRequest.decode args).map .parseAll
  | .diagnostics => .ok .diagnostics

/-- The documents that a job opens, each with the place of its contents. -/
def opens : Job → List (String × String)
  | .parse request => [(request.path, request.contents)]
  | .parseAll request => (request.path, "") :: request.members
  | .close _ | .diagnostics => []

/-- The job that a method is called for with some arguments. -/
def ofArgs (method : Method) (args : List Value) : Except CallError Job :=
  match decode method.action args with
  | .error error => .error (.invalidArgs method.member (.undecodable error))
  | .ok job => if job.opens.any (·.1.isEmpty) then .error .emptyPath else .ok job

end Job

/-- Answer a call of a method with values, if they fit the output signature of the method. -/
def Call.answerWith (language : String) (call : Call) (method : Method) (body : List Value) :
    Reply :=
  match Signature.checkText method.outputSignature body with
  | .ok () => .ok body
  | .error error =>
      let context :=
        s!"{call.path}({call.interface}.{call.member}) -> {method.outputSignature}"
      .error (.ofBodyError language context error)

end LintBus

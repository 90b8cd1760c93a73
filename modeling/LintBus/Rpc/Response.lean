import LintBus.Bus.Fault
import LintBus.Json.Printer
import LintBus.Rpc.Request

/-!
# Responses

A response carries the identifier of its request and either a result or an error with a code. The
codes tell calls that address nothing and calls with the wrong arguments from everything else.
-/

namespace LintBus
namespace Rpc

open Json (Value)

/-- An error of a response. -/
structure RpcError where
  code : Int
  message : String
  data : Option Value

namespace RpcError

/-- Code of a line that is no request. -/
def parseCode : Int := -32700

/-- Code of a call that addresses nothing. -/
def methodNotFoundCode : Int := -32601

/-- Code of a call with the wrong arguments. -/
def invalidParamsCode : Int := -32602

/-- Code of every other fault. -/
def serverCode : Int := -32000

/-- The error for a line that is no request. -/
def unreadable : RpcError := ⟨parseCode, "Parse error", none⟩

/-- The code for a fault, by its name. -/
def codeOf (name : String) : Int :=
  if name = standardErrors ++ ".UnknownObject" ∨ name = standardErrors ++ ".UnknownInterface" ∨
      name = standardErrors ++ ".UnknownMethod" then methodNotFoundCode
  else if name = standardErrors ++ ".InvalidArgs" then invalidParamsCode
  else serverCode

/-- The error for a fault, with its name and location as data. -/
def ofFault (fault : Fault) : RpcError :=
  let location :=
    match fault.location with
    | some location => .string location
    | none => .null
  { code := codeOf fault.name
    message := fault.message
    data := some (.ofEntries [("name", .string fault.name), ("location", location)]) }

/-- The wire form of an error. -/
def toValue (error : RpcError) : Value :=
  let data := error.data.toList.map fun data => ("data", data)
  .ofEntries ([("code", .ofInt error.code), ("message", .string error.message)] ++ data)

end RpcError

/-- The answer to a request. -/
structure Response where
  id : Id
  result : Except RpcError Value

namespace Response

/-- The wire form of a response. -/
def toValue (response : Response) : Value :=
  let outcome :=
    match response.result with
    | .ok result => ("result", result)
    | .error error => ("error", error.toValue)
  .ofEntries [("jsonrpc", .string "2.0"), outcome, ("id", response.id.toValue)]

/-- The line of a response, without its end. -/
def line (response : Response) : String := response.toValue.text

end Response
end Rpc
end LintBus

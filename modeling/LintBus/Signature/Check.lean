import LintBus.Json.Value
import LintBus.Bus.ObjectPath
import LintBus.Signature.Reader

/-!
# Checking bodies against signatures

A body fits a signature when it has as many values as the signature has types and every value fits
its type at every depth. The first value that does not fit, from left to right and containers
before their parts, is reported with the way to it.
-/

namespace LintBus
namespace Signature

/-- One step down into a value. -/
inductive Step where
  /-- An item of an array. -/
  | item (index : Nat)
  /-- A field of a structure. -/
  | field (index : Nat)
  /-- A value of a dictionary. -/
  | key (name : String)
deriving DecidableEq, Repr

/-- The text of a step. -/
def Step.text : Step → String
  | .item index => s!"[{index}]"
  | .field index => s!".{index}"
  | .key name => s!".{name}"

/-- The way to a value: an index into the body and steps down from there. -/
structure Access where
  index : Nat
  steps : List Step
deriving DecidableEq, Repr

/-- The text of the way to a value. -/
def Access.text (access : Access) : String :=
  s!"${access.index}" ++ String.join (access.steps.map Step.text)

/-- One step further down. -/
def Access.push (access : Access) (step : Step) : Access :=
  { access with steps := access.steps ++ [step] }

/-- A value that does not fit its type. -/
structure Mismatch where
  expected : Ty
  found : Json.Kind
  access : Access

/-- Check all elements of a list with their indices, up to the first that does not fit. -/
def checkEach {α : Type} (check : Nat → α → Except Mismatch Unit) :
    Nat → List α → Except Mismatch Unit
  | _, [] => .ok ()
  | index, value :: rest =>
      match check index value with
      | .error mismatch => .error mismatch
      | .ok () => checkEach check (index + 1) rest

/-- The value is an integer between two bounds. -/
def isIntegerIn (least greatest : Int) : Json.Value → Bool
  | .number (.integer value) => least ≤ value && value ≤ greatest
  | _ => false

/-- The value fits a type that has no parts. -/
def fitsSimple : Ty → Json.Value → Bool
  | .boolean, .boolean _ => true
  | .byte, value => isIntegerIn 0 255 value
  | .int16, value => isIntegerIn (-32768) 32767 value
  | .uint16, value => isIntegerIn 0 65535 value
  | .int32, value => isIntegerIn (-2147483648) 2147483647 value
  | .uint32, value => isIntegerIn 0 4294967295 value
  | .int64, value => isIntegerIn (-9223372036854775808) 9223372036854775807 value
  | .uint64, value => isIntegerIn 0 18446744073709551615 value
  | .double, .number _ => true
  | .string, .string _ => true
  | .objectPath, .string text => ObjectPath.isValid text
  | .signature, .string text => (readTypes text.toList).isOk
  | .variant, _ => true
  | _, _ => false

/-- Keys of dictionaries are written as strings, so only these types fit them. -/
def isKeyType : Ty → Bool
  | .string | .objectPath => true
  | _ => false

mutual

/-- Check a value against a type. -/
def checkTy (access : Access) : Ty → Json.Value → Except Mismatch Unit
  | .array item, .array items =>
      checkEach (fun index value => checkTy (access.push (.item index)) item value) 0 items
  | .dict key item, .object entries =>
      if isKeyType key then
        checkEach
          (fun _ (entry : String × Json.Value) =>
            checkTy (access.push (.key entry.1)) item entry.2)
          0 entries
      else .error ⟨.dict key item, .object, access⟩
  | .struct fields, .array items =>
      if items.length = fields.length then checkFields access 0 fields items
      else .error ⟨.struct fields, .array, access⟩
  | ty, value => if fitsSimple ty value then .ok () else .error ⟨ty, value.kind, access⟩

/-- Check the fields of a structure, the first of which has the given index. -/
def checkFields (access : Access) : Nat → List Ty → List Json.Value → Except Mismatch Unit
  | index, ty :: types, value :: values =>
      match checkTy (access.push (.field index)) ty value with
      | .error mismatch => .error mismatch
      | .ok () => checkFields access (index + 1) types values
  | _, _, _ => .ok ()

end

/-- Check the values of a body, the first of which has the given index. -/
def checkBody : Nat → List Ty → List Json.Value → Except Mismatch Unit
  | index, ty :: types, value :: values =>
      match checkTy ⟨index, []⟩ ty value with
      | .error mismatch => .error mismatch
      | .ok () => checkBody (index + 1) types values
  | _, _, _ => .ok ()

end Signature

/-- Why a body cannot be sent with a signature. -/
inductive BodyError where
  | invalidSignature (signature : String) (flaw : Signature.Flaw)
  | arity (expected found : Nat)
  | mismatch (mismatch : Signature.Mismatch)

/-- The text of an error of a body. -/
def BodyError.message : BodyError → String
  | .invalidSignature signature flaw => s!"invalid signature `{signature}`: {flaw.message}"
  | .arity expected found => s!"expected {expected} value(s), found {found}"
  | .mismatch ⟨expected, found, access⟩ =>
      s!"expected `{expected.text}` at {access.text}, found {found.text}"

namespace Signature

/-- Check a body against a signature, arity included. -/
def check (signature : Signature) (body : List Json.Value) : Except BodyError Unit :=
  if body.length ≠ signature.types.length then
    .error (.arity signature.types.length body.length)
  else
    match checkBody 0 signature.types body with
    | .error mismatch => .error (.mismatch mismatch)
    | .ok () => .ok ()

/-- Check a body against the signature with a given text. -/
def checkText (text : String) (body : List Json.Value) : Except BodyError Unit :=
  match parse text with
  | .error flaw => .error (.invalidSignature text flaw)
  | .ok signature => signature.check body

end Signature
end LintBus

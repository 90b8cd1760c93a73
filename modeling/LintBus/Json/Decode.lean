import LintBus.Json.Value
import LintBus.Text.Quoted

/-!
# Decoding JSON values

Typed values are taken out of JSON values from left to right. The first part that does not fit is
reported with what was found and what was expected there.
-/

namespace LintBus
namespace Json

/-- What a decoder finds. -/
inductive Found where
  | null
  | boolean (value : Bool)
  | integer (value : Int)
  | float (value : Double)
  | string (text : String)
  | sequence
  | map
deriving DecidableEq, Repr

/-- What a decoder expects. -/
inductive Expected where
  | string
  | int64
  | boolean
  | sequence
  | map
  | tuple (size : Nat)
  | record (name : String)
deriving DecidableEq, Repr

/-- The number of elements that a decoder expects. -/
inductive ExpectedLength where
  /-- As many as a tuple has. -/
  | tuple (size : Nat)
  /-- As many as a record has fields. -/
  | record (name : String) (size : Nat)
  /-- No more than those already decoded. -/
  | fewer
deriving DecidableEq, Repr

/-- Why a value cannot be decoded. -/
inductive DecodeError where
  | invalidType (found : Found) (expected : Expected)
  | invalidValue (found : Found) (expected : Expected)
  | invalidLength (length : Nat) (expected : ExpectedLength)
  | missingField (name : String)
  | unknownField (name : String) (known : List String)
deriving DecidableEq, Repr

/-- The words for what was found. -/
def Found.text : Found → String
  | .null => "null"
  | .boolean value => s!"boolean `{value}`"
  | .integer value => s!"integer `{value}`"
  | .float value => s!"floating point `{value.text}`"
  | .string text => "string " ++ Quoted.encode text
  | .sequence => "sequence"
  | .map => "map"

/-- The words for what was expected. -/
def Expected.text : Expected → String
  | .string => "a string"
  | .int64 => "i64"
  | .boolean => "a boolean"
  | .sequence => "a sequence"
  | .map => "a map"
  | .tuple size => s!"a tuple of size {size}"
  | .record name => s!"struct {name}"

/-- The words for the length that was expected. -/
def ExpectedLength.text : ExpectedLength → String
  | .tuple size => s!"a tuple of size {size}"
  | .record name size => s!"struct {name} with {size} elements"
  | .fewer => "fewer elements in array"

/-- The words for the fields that a record has. -/
def knownFields : List String → String
  | [] => "there are no fields"
  | [only] => s!"expected `{only}`"
  | [first, second] => s!"expected `{first}` or `{second}`"
  | known => "expected one of " ++ ", ".intercalate (known.map fun name => s!"`{name}`")

/-- The text of a decoding error. -/
def DecodeError.message : DecodeError → String
  | .invalidType found expected => s!"invalid type: {found.text}, expected {expected.text}"
  | .invalidValue found expected => s!"invalid value: {found.text}, expected {expected.text}"
  | .invalidLength length expected => s!"invalid length {length}, expected {expected.text}"
  | .missingField name => s!"missing field `{name}`"
  | .unknownField name known => s!"unknown field `{name}`, {knownFields known}"

/-- What a decoder finds in a value. -/
def Value.found : Value → Found
  | .null => .null
  | .boolean value => .boolean value
  | .number (.integer value) => .integer value
  | .number (.float value) => .float value
  | .string text => .string text
  | .array _ => .sequence
  | .object _ => .map

/-- A decoder of values. -/
abbrev Decoder (α : Type) := Value → Except DecodeError α

namespace Decoder

/-- Any value. -/
def any : Decoder Value := .ok

/-- A string. -/
def string : Decoder String
  | .string text => .ok text
  | value => .error (.invalidType value.found .string)

/-- A boolean. -/
def boolean : Decoder Bool
  | .boolean value => .ok value
  | value => .error (.invalidType value.found .boolean)

/-- An integer of 64 bits with a sign. -/
def int64 : Decoder Int64
  | .number (.integer value) =>
      if -9223372036854775808 ≤ value ∧ value ≤ 9223372036854775807 then .ok (.ofInt value)
      else .error (.invalidValue (.integer value) .int64)
  | value => .error (.invalidType value.found .int64)

/-- An object. -/
def entries : Decoder Entries
  | .object entries => .ok entries
  | value => .error (.invalidType value.found .map)

/-- A list of any length. -/
def list {α : Type} (decode : Decoder α) : Decoder (List α)
  | .array items => items.mapM decode
  | value => .error (.invalidType value.found .sequence)

/-- The element of a row at an index, as one of as many as `length` says. -/
def element {α : Type} (decode : Decoder α) (length : ExpectedLength) (items : List Value)
    (index : Nat) : Except DecodeError α :=
  match items[index]? with
  | some value => decode value
  | none => .error (.invalidLength index length)

/-- No element beyond those decoded. -/
def noMore (items : List Value) (size : Nat) : Except DecodeError Unit :=
  if items.length ≤ size then .ok () else .error (.invalidLength items.length .fewer)

/-- A list of two elements. -/
def pair {α β : Type} (first : Decoder α) (second : Decoder β) : Decoder (α × β)
  | .array items => do
      let left ← element first (.tuple 2) items 0
      let right ← element second (.tuple 2) items 1
      noMore items 2
      .ok (left, right)
  | value => .error (.invalidType value.found (.tuple 2))

end Decoder
end Json
end LintBus

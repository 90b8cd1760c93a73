import LintBus.Number.Shortest

/-!
# JSON values

A number is an integer when it is written without a point or an exponent and fits in 64 bits with
or without a sign; every other number is a double. The entries of an object are kept in the order
of their keys, each key once.
-/

namespace LintBus
namespace Json

/-- A number, as an integer or as a double. -/
inductive Number where
  /-- An integer between `-2 ^ 63` and `2 ^ 64 - 1`. -/
  | integer (value : Int)
  /-- Any other number. -/
  | float (value : Double)
deriving DecidableEq, Repr

/-- A JSON value. -/
inductive Value where
  | null
  | boolean (value : Bool)
  | number (value : Number)
  | string (text : String)
  | array (items : List Value)
  | object (entries : List (String × Value))
deriving Repr, Inhabited

/-- The entries of an object. -/
abbrev Entries := List (String × Value)

/-- What a value is called in the report of a mismatch. -/
inductive Kind where
  | null
  | boolean
  | integer
  | number
  | string
  | array
  | object
deriving DecidableEq, Repr

/-- The word for a kind of value. -/
def Kind.text : Kind → String
  | .null => "null"
  | .boolean => "boolean"
  | .integer => "integer"
  | .number => "number"
  | .string => "string"
  | .array => "array"
  | .object => "object"

namespace Value

/-- The kind of a value; integers are told apart from other numbers. -/
def kind : Value → Kind
  | .null => .null
  | .boolean _ => .boolean
  | .number (.integer _) => .integer
  | .number (.float _) => .number
  | .string _ => .string
  | .array _ => .array
  | .object _ => .object

/-- An integer value. -/
def ofInt (value : Int) : Value := .number (.integer value)

/-- A natural number as a value. -/
def ofNat (value : Nat) : Value := .number (.integer value)

end Value

namespace Entries

/-- Set the value of a key, keeping the keys in order and each key once. -/
def insert (key : String) (value : Value) : Entries → Entries
  | [] => [(key, value)]
  | (other, held) :: rest =>
      if key = other then (key, value) :: rest
      else if key < other then (key, value) :: (other, held) :: rest
      else (other, held) :: insert key value rest

/-- The entries of an object written with the given keys; the last value of a key counts. -/
def ofList (entries : List (String × Value)) : Entries :=
  entries.foldl (fun held entry => insert entry.1 entry.2 held) []

/-- The value of a key. -/
def find? (key : String) (entries : Entries) : Option Value :=
  entries.lookup key

end Entries

/-- An object with the given entries. -/
def Value.ofEntries (entries : List (String × Value)) : Value :=
  .object (Entries.ofList entries)

end Json
end LintBus

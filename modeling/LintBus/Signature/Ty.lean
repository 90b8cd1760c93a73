/-!
# Type signatures of message bodies

A signature is a row of complete types, each written by a code: a letter for a basic type or a
variant, `a` before the type of the items of an array, `a` and braces around the key and value
types of a dictionary, and parentheses around the fields of a structure.
-/

namespace LintBus

/-- A complete type. -/
inductive Ty where
  | boolean
  | byte
  | int16
  | uint16
  | int32
  | uint32
  | int64
  | uint64
  | double
  | string
  | objectPath
  | signature
  | variant
  | array (item : Ty)
  | dict (key value : Ty)
  | struct (fields : List Ty)
deriving Repr

namespace Ty

/-- The letter of a type that has no parts. -/
def ofCode? : Char → Option Ty
  | 'b' => some .boolean
  | 'y' => some .byte
  | 'n' => some .int16
  | 'q' => some .uint16
  | 'i' => some .int32
  | 'u' => some .uint32
  | 'x' => some .int64
  | 't' => some .uint64
  | 'd' => some .double
  | 's' => some .string
  | 'o' => some .objectPath
  | 'g' => some .signature
  | 'v' => some .variant
  | _ => none

/-- Basic types may be keys of dictionaries. -/
def isBasic : Ty → Bool
  | .variant | .array _ | .dict _ _ | .struct _ => false
  | _ => true

mutual

/-- The code of a type. -/
def code : Ty → List Char
  | .boolean => ['b']
  | .byte => ['y']
  | .int16 => ['n']
  | .uint16 => ['q']
  | .int32 => ['i']
  | .uint32 => ['u']
  | .int64 => ['x']
  | .uint64 => ['t']
  | .double => ['d']
  | .string => ['s']
  | .objectPath => ['o']
  | .signature => ['g']
  | .variant => ['v']
  | .array item => 'a' :: item.code
  | .dict key value => 'a' :: '\x7b' :: (key.code ++ (value.code ++ ['\x7d']))
  | .struct fields => '(' :: (codes fields ++ [')'])

/-- The codes of some types in a row. -/
def codes : List Ty → List Char
  | [] => []
  | first :: rest => first.code ++ codes rest

end

/-- The text of a type. -/
def text (ty : Ty) : String := String.ofList ty.code

end Ty
end LintBus

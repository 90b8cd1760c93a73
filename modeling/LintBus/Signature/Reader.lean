import LintBus.Signature.Ty
import LintBus.Text.Bytes

/-!
# Reading signatures

Types are read from left to right; the first code that does not fit is reported. A code outside
ASCII is reported by its first byte, as the character with that number.
-/

namespace LintBus
namespace Signature

/-- Why a text is no signature. -/
inductive Flaw where
  | unexpectedEnd
  | compoundKey
  | unterminatedDict
  | unterminatedStruct
  | emptyStruct
  | unknownCode (code : Char)
deriving DecidableEq, Repr

/-- The text of a flaw. -/
def Flaw.message : Flaw → String
  | .unexpectedEnd => "unexpected end of signature"
  | .compoundKey => "dictionary keys must be basic types"
  | .unterminatedDict => "unterminated dictionary entry"
  | .unterminatedStruct => "unterminated struct"
  | .emptyStruct => "empty struct"
  | .unknownCode code => s!"unknown type code `{code}`"

mutual

/-- Read a complete type; `steps` bounds the work. -/
def readTy : Nat → List Char → Except Flaw (Ty × List Char)
  | 0, _ => .error .unexpectedEnd
  | _ + 1, [] => .error .unexpectedEnd
  | steps + 1, 'a' :: '\x7b' :: rest =>
      match readTy steps rest with
      | .error flaw => .error flaw
      | .ok (key, rest) =>
          if ¬ key.isBasic then .error .compoundKey
          else
            match readTy steps rest with
            | .error flaw => .error flaw
            | .ok (value, '\x7d' :: rest) => .ok (.dict key value, rest)
            | .ok _ => .error .unterminatedDict
  | steps + 1, 'a' :: rest =>
      match readTy steps rest with
      | .error flaw => .error flaw
      | .ok (item, rest) => .ok (.array item, rest)
  | steps + 1, '(' :: rest =>
      match readFields steps [] rest with
      | .error flaw => .error flaw
      | .ok ([], _) => .error .emptyStruct
      | .ok (fields, rest) => .ok (.struct fields, rest)
  | _ + 1, code :: rest =>
      match Ty.ofCode? code with
      | some ty => .ok (ty, rest)
      | none => .error (.unknownCode (.ofNat (leadingByte code)))

/-- Read the fields of a structure after those in `read`, which holds the last one first. -/
def readFields : Nat → List Ty → List Char → Except Flaw (List Ty × List Char)
  | 0, _, _ => .error .unterminatedStruct
  | _ + 1, _, [] => .error .unterminatedStruct
  | _ + 1, read, ')' :: rest => .ok (read.reverse, rest)
  | steps + 1, read, text =>
      match readTy steps text with
      | .error flaw => .error flaw
      | .ok (field, rest) => readFields steps (field :: read) rest

end

/-- Read the types of a whole signature after those in `read`. -/
def readAll : Nat → List Ty → List Char → Except Flaw (List Ty)
  | _, read, [] => .ok read.reverse
  | 0, _, _ => .error .unexpectedEnd
  | steps + 1, read, text =>
      match readTy steps text with
      | .error flaw => .error flaw
      | .ok (ty, rest) => readAll steps (ty :: read) rest

/-- The types that a text stands for. -/
def readTypes (text : List Char) : Except Flaw (List Ty) :=
  readAll (2 * text.length + 2) [] text

end Signature

/-- A signature: its text and the types it stands for. -/
structure Signature where
  text : String
  types : List Ty
deriving Repr

/-- The signature with a given text. -/
def Signature.parse (text : String) : Except Signature.Flaw Signature :=
  match readTypes text.toList with
  | .error flaw => .error flaw
  | .ok types => .ok ⟨text, types⟩

end LintBus

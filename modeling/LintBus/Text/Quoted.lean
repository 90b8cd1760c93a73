import LintBus.Text.Unseen

/-!
# Quoted texts

A text quoted for an error message stands between double quotes. Quotes and backslashes are
escaped, the common controls have short escapes, and characters that do not show are written by
their code point.
-/

namespace LintBus
namespace Quoted

/-- Lower-case hexadecimal digits of a number, without leading zeros. -/
def hexadecimal (number : Nat) : List Char :=
  Nat.toDigits 16 number

/-- One character as it stands inside the quotes. -/
def encodeChar (character : Char) : List Char :=
  match character with
  | '"' => ['\\', '"']
  | '\\' => ['\\', '\\']
  | '\n' => ['\\', 'n']
  | '\r' => ['\\', 'r']
  | '\t' => ['\\', 't']
  | '\x00' => ['\\', '0']
  | _ =>
      if CharClass.isUnseen character then
        ['\\', 'u', '\x7b'] ++ hexadecimal character.toNat ++ ['\x7d']
      else [character]

/-- The text between double quotes. -/
def encode (text : String) : String :=
  String.ofList ('"' :: text.toList.flatMap encodeChar ++ ['"'])

end Quoted
end LintBus

import LintBus.Json.Value

/-!
# Writing JSON

Values are written without blanks. Strings keep every character but the quote, the backslash and
the controls below the space.
-/

namespace LintBus
namespace Json

/-- One character as it stands inside a JSON string. -/
def escapeChar (character : Char) : List Char :=
  match character with
  | '"' => ['\\', '"']
  | '\\' => ['\\', '\\']
  | '\x08' => ['\\', 'b']
  | '\x0c' => ['\\', 'f']
  | '\n' => ['\\', 'n']
  | '\r' => ['\\', 'r']
  | '\t' => ['\\', 't']
  | _ =>
      if character.toNat < 0x20 then
        ['\\', 'u', '0', '0'] ++
          [Nat.digitChar (character.toNat / 16), Nat.digitChar (character.toNat % 16)]
      else [character]

/-- Append a JSON string. -/
def writeString (written : String) (text : String) : String :=
  (text.toList.foldl (fun written character =>
    (escapeChar character).foldl String.push written) (written.push '"')).push '"'

/-- The text of a number. -/
def Number.text : Number → String
  | .integer value => toString value
  | .float value => value.text

mutual

/-- Append a value. -/
def write (written : String) : Value → String
  | .null => written ++ "null"
  | .boolean true => written ++ "true"
  | .boolean false => written ++ "false"
  | .number number => written ++ number.text
  | .string text => writeString written text
  | .array items => (writeItems (written.push '[') true items).push ']'
  | .object entries => (writeEntries (written.push '\x7b') true entries).push '\x7d'

/-- Append the items of an array, with a comma before all but the first. -/
def writeItems (written : String) (first : Bool) : List Value → String
  | [] => written
  | item :: rest =>
      writeItems (write (if first then written else written.push ',') item) false rest

/-- Append the entries of an object, with a comma before all but the first. -/
def writeEntries (written : String) (first : Bool) : List (String × Value) → String
  | [] => written
  | (key, value) :: rest =>
      let opened := if first then written else written.push ','
      writeEntries (write ((writeString opened key).push ':') value) false rest

end

/-- The text of a value. -/
def Value.text (value : Value) : String := write "" value

end Json
end LintBus

import LintBus.Json.Value
import LintBus.Text.Bytes

/-!
# Reading JSON

A reader takes values off the front of a text and keeps the number of bytes before what is left. A
text that is no JSON is refused with what is wrong and the byte index where it was noticed: faults
of what was just read stand after it, faults of what comes next stand after the first byte of it.

Numbers are read as a significand of at most 64 bits and a power of ten. Digits that no longer fit
only move the power, and the double is the significand scaled by that power with one rounding for
each step.
-/

namespace LintBus
namespace Json

/-- What is wrong with a text that is no JSON. -/
inductive Flaw where
  | endInValue
  | endInString
  | endInArray
  | endInObject
  | expectedValue
  | expectedIdent
  | expectedColon
  | expectedArrayCommaOrEnd
  | expectedObjectCommaOrEnd
  | keyMustBeString
  | trailingComma
  | trailingCharacters
  | invalidNumber
  | numberOutOfRange
  | invalidEscape
  | loneSurrogate
  | endInSurrogates
  | controlCharacter
  | tooDeep
deriving DecidableEq, Repr

/-- The text of a flaw. -/
def Flaw.message : Flaw → String
  | .endInValue => "EOF while parsing a value"
  | .endInString => "EOF while parsing a string"
  | .endInArray => "EOF while parsing a list"
  | .endInObject => "EOF while parsing an object"
  | .expectedValue => "expected value"
  | .expectedIdent => "expected ident"
  | .expectedColon => "expected `:`"
  | .expectedArrayCommaOrEnd => "expected `,` or `]`"
  | .expectedObjectCommaOrEnd => "expected `,` or `\x7d`"
  | .keyMustBeString => "key must be a string"
  | .trailingComma => "trailing comma"
  | .trailingCharacters => "trailing characters"
  | .invalidNumber => "invalid number"
  | .numberOutOfRange => "number out of range"
  | .invalidEscape => "invalid escape"
  | .loneSurrogate => "lone leading surrogate in hex escape"
  | .endInSurrogates => "unexpected end of hex escape"
  | .controlCharacter => "control character (\\u0000-\\u001F) found while parsing a string"
  | .tooDeep => "recursion limit exceeded"

/-- A flaw and the byte index where it was noticed. -/
structure ReadError where
  /-- What is wrong. -/
  flaw : Flaw
  /-- Number of bytes before the place where it was noticed. -/
  offset : Nat
deriving DecidableEq, Repr

/-- The part of a text that is still to be read. -/
structure Cursor where
  /-- What is left. -/
  rest : List Char
  /-- Number of bytes read. -/
  offset : Nat
deriving DecidableEq, Repr

/-- A value and what is left after it, or the reason why there is none. -/
abbrev Read (α : Type) := Except ReadError (α × Cursor)

namespace Cursor

/-- The start of a text. -/
def ofString (text : String) : Cursor := ⟨text.toList, 0⟩

/-- Refuse what was just read. -/
def refuse {α : Type} (cursor : Cursor) (flaw : Flaw) : Except ReadError α :=
  .error ⟨flaw, cursor.offset⟩

/-- Refuse after reading one more byte. -/
def refuseByte {α : Type} (cursor : Cursor) (flaw : Flaw) : Except ReadError α :=
  .error ⟨flaw, cursor.offset + 1⟩

/-- Refuse what comes next: its first byte, or the end of the text. -/
def refuseNext {α : Type} (cursor : Cursor) (flaw : Flaw) : Except ReadError α :=
  .error ⟨flaw, if cursor.rest.isEmpty then cursor.offset else cursor.offset + 1⟩

/-- Drop blanks: spaces, tabs, line feeds and carriage returns. -/
def skipBlank (cursor : Cursor) : Cursor :=
  go cursor.rest cursor.offset
where
  /-- Drop blanks from what is left after `offset` bytes. -/
  go : List Char → Nat → Cursor
    | [], offset => ⟨[], offset⟩
    | character :: rest, offset =>
        if character = ' ' ∨ character = '\t' ∨ character = '\n' ∨ character = '\r' then
          go rest (offset + 1)
        else ⟨character :: rest, offset⟩

end Cursor

/-- How strictly a value is read; a value that nobody looks at is only skipped. -/
structure Strictness where
  /-- Surrogates must be paired and numbers must fit in a double. -/
  representable : Bool
deriving DecidableEq, Repr

namespace Strictness

/-- For values that are used. -/
def full : Strictness := ⟨true⟩

/-- For values that are skipped. -/
def skipping : Strictness := ⟨false⟩

end Strictness

/-- Read the remaining letters of a literal. -/
def readLetters {α : Type} (value : α) : List Char → Cursor → Read α
  | [], cursor => .ok (value, cursor)
  | letter :: letters, cursor =>
      match cursor.rest with
      | [] => cursor.refuse .endInValue
      | character :: rest =>
          if character = letter then
            readLetters value letters ⟨rest, cursor.offset + character.utf8Size⟩
          else cursor.refuseByte .expectedIdent

/-! ## Numbers -/

/-- The value of a decimal digit. -/
def digit? (character : Char) : Option Nat :=
  if character.isDigit then some (character.toNat - '0'.toNat) else none

/-- The greatest significand. -/
def significandLimit : Nat := 18446744073709551615

/-- The greatest power of ten that is read digit by digit. -/
def powerLimit : Nat := 2147483647

/-- Append digits to a significand while they fit; also count them. -/
def absorbDigits (limit significand count : Nat) (cursor : Cursor) : (Nat × Nat) × Cursor :=
  go significand count cursor.rest cursor.offset
where
  /-- Append the digits at the front of what is left after `offset` bytes. -/
  go (significand count : Nat) : List Char → Nat → (Nat × Nat) × Cursor
    | [], offset => ((significand, count), ⟨[], offset⟩)
    | character :: rest, offset =>
        match digit? character with
        | none => ((significand, count), ⟨character :: rest, offset⟩)
        | some digit =>
            if limit < significand * 10 + digit then
              ((significand, count), ⟨character :: rest, offset⟩)
            else go (significand * 10 + digit) (count + 1) rest (offset + 1)

/-- Drop digits and count them. -/
def dropDigits (cursor : Cursor) : Nat × Cursor :=
  go 0 cursor.rest cursor.offset
where
  /-- Drop the digits at the front of what is left after `offset` bytes. -/
  go (count : Nat) : List Char → Nat → Nat × Cursor
    | [], offset => (count, ⟨[], offset⟩)
    | character :: rest, offset =>
        if character.isDigit then go (count + 1) rest (offset + 1)
        else (count, ⟨character :: rest, offset⟩)

/-- The greatest power of ten that a number is scaled by in one step. -/
def greatestPower : Nat := 308

/-- Scale a double by a power of ten, in steps that are rounded one by one. -/
def scale? : Nat → Double → Int → Option Double
  | 0, _, _ => none
  | steps + 1, number, power =>
      if power.natAbs ≤ greatestPower then do
        let factor ← Double.ofNat? (Nat.pow 10 power.natAbs)
        if 0 ≤ power then number.mul? factor else number.div? factor
      else if number.isZero then some number
      else if 0 ≤ power then none
      else do
        let factor ← Double.ofNat? (Nat.pow 10 greatestPower)
        scale? steps (← number.div? factor) (power + greatestPower)

/-- The double with the given sign, significand and power of ten. -/
def readDouble (strictness : Strictness) (negative : Bool) (significand : Nat) (power : Int)
    (cursor : Cursor) : Read Number :=
  match (Double.ofNat? significand).bind fun number => scale? 8 number power with
  | some number => .ok (.float (number.withSign negative), cursor)
  | none =>
      if strictness.representable then cursor.refuse .numberOutOfRange
      else .ok (.float ⟨negative, 0, Double.leastExponent⟩, cursor)

/-- Read the sign of an exponent; it is true for a minus. -/
def readPowerSign (cursor : Cursor) : Bool × Cursor :=
  match cursor.rest with
  | '+' :: rest => (false, ⟨rest, cursor.offset + 1⟩)
  | '-' :: rest => (true, ⟨rest, cursor.offset + 1⟩)
  | _ => (false, cursor)

/-- Read the exponent of a number, after its letter. -/
def readExponent (strictness : Strictness) (negative : Bool) (significand : Nat) (power : Int)
    (cursor : Cursor) : Read Number :=
  let (down, cursor) := readPowerSign cursor
  match cursor.rest with
  | [] => cursor.refuse .endInValue
  | character :: _ =>
      if character.isDigit then
        let ((exponent, _), cursor) := absorbDigits powerLimit 0 0 cursor
        match cursor.rest with
        | next :: _ =>
            if next.isDigit then
              if strictness.representable ∧ significand ≠ 0 ∧ ¬ down then
                cursor.refuseByte .numberOutOfRange
              else .ok (.float ⟨negative, 0, Double.leastExponent⟩, (dropDigits cursor).2)
            else
              readDouble strictness negative significand
                (if down then power - exponent else power + exponent) cursor
        | [] =>
            readDouble strictness negative significand
              (if down then power - exponent else power + exponent) cursor
      else cursor.refuseByte .invalidNumber

/-- Read the fraction of a number, after its point. -/
def readFraction (strictness : Strictness) (negative : Bool) (significand : Nat) (power : Int)
    (cursor : Cursor) : Read Number :=
  let ((significand, count), cursor) := absorbDigits significandLimit significand 0 cursor
  let (dropped, cursor) := dropDigits cursor
  if count = 0 ∧ dropped = 0 then
    if cursor.rest.isEmpty then cursor.refuseNext .endInValue
    else cursor.refuseNext .invalidNumber
  else
    match cursor.rest with
    | 'e' :: rest | 'E' :: rest =>
        readExponent strictness negative significand (power - count) ⟨rest, cursor.offset + 1⟩
    | _ => readDouble strictness negative significand (power - count) cursor

/-- The number that has an integer part and nothing else. -/
def integerOrDouble (negative : Bool) (significand : Nat) : Number :=
  if negative then
    if significand = 0 ∨ 9223372036854775808 < significand then
      match Double.ofNat? significand with
      | some number => .float (number.withSign true)
      | none => .integer 0
    else .integer (-significand)
  else .integer significand

/-- Read what follows the integer part, `power` digits of which were dropped. -/
def readTail (strictness : Strictness) (negative : Bool) (significand power : Nat)
    (cursor : Cursor) : Read Number :=
  match cursor.rest with
  | '.' :: rest => readFraction strictness negative significand power ⟨rest, cursor.offset + 1⟩
  | 'e' :: rest | 'E' :: rest =>
      readExponent strictness negative significand power ⟨rest, cursor.offset + 1⟩
  | _ =>
      if power = 0 then .ok (integerOrDouble negative significand, cursor)
      else readDouble strictness negative significand power cursor

/-- Read a number after its sign. A zero may not be followed by a digit. -/
def readNumber (strictness : Strictness) (negative : Bool) (cursor : Cursor) : Read Number :=
  match cursor.rest with
  | [] => cursor.refuse .endInValue
  | character :: rest =>
      if character = '0' then
        let next : Cursor := ⟨rest, cursor.offset + 1⟩
        match rest with
        | following :: _ =>
            if following.isDigit then next.refuseNext .invalidNumber
            else readTail strictness negative 0 0 next
        | [] => readTail strictness negative 0 0 next
      else if character.isDigit then
        let ((significand, _), cursor) := absorbDigits significandLimit 0 0 cursor
        let (dropped, cursor) := dropDigits cursor
        readTail strictness negative significand dropped cursor
      else cursor.refuseByte .invalidNumber

/-! ## Strings -/

/-- The value of a hexadecimal digit. -/
def hexDigit? (character : Char) : Option Nat :=
  if character.isDigit then some (character.toNat - '0'.toNat)
  else if 'a' ≤ character ∧ character ≤ 'f' then some (character.toNat - 'a'.toNat + 10)
  else if 'A' ≤ character ∧ character ≤ 'F' then some (character.toNat - 'A'.toNat + 10)
  else none

/-- Read four hexadecimal digits. -/
def readHex (cursor : Cursor) : Read Nat :=
  let refused : Read Nat :=
    if byteCount (cursor.rest.take 4) < 4 then
      .error ⟨.endInString, cursor.offset + byteCount cursor.rest⟩
    else .error ⟨.invalidEscape, cursor.offset + 4⟩
  match cursor.rest with
  | first :: second :: third :: fourth :: rest =>
      match hexDigit? first, hexDigit? second, hexDigit? third, hexDigit? fourth with
      | some first, some second, some third, some fourth =>
          .ok (((first * 16 + second) * 16 + third) * 16 + fourth, ⟨rest, cursor.offset + 4⟩)
      | _, _, _, _ => refused
  | _ => refused

/-- A leading surrogate. -/
def isLeading (unit : Nat) : Bool := 0xD800 ≤ unit && unit ≤ 0xDBFF

/-- A trailing surrogate. -/
def isTrailing (unit : Nat) : Bool := 0xDC00 ≤ unit && unit ≤ 0xDFFF

/-- Read the second half of a surrogate pair. -/
def readTrailing (leading : Nat) (cursor : Cursor) : Read Char :=
  match cursor.rest with
  | [] => cursor.refuse .endInString
  | '\\' :: rest =>
      let cursor : Cursor := ⟨rest, cursor.offset + 1⟩
      match rest with
      | [] => cursor.refuse .endInString
      | 'u' :: rest =>
          match readHex ⟨rest, cursor.offset + 1⟩ with
          | .error error => .error error
          | .ok (trailing, cursor) =>
              if isTrailing trailing then
                .ok (Char.ofNat (0x10000 + (leading - 0xD800) * 0x400 + (trailing - 0xDC00)),
                  cursor)
              else cursor.refuse .loneSurrogate
      | _ => cursor.refuseByte .endInSurrogates
  | _ => cursor.refuseByte .endInSurrogates

/-- Read the digits of a numeric escape, and the other half of a pair. -/
def readUnicode (strictness : Strictness) (cursor : Cursor) : Read Char :=
  match readHex cursor with
  | .error error => .error error
  | .ok (unit, cursor) =>
      if ¬ strictness.representable then .ok (Char.ofNat unit, cursor)
      else if isTrailing unit then cursor.refuse .loneSurrogate
      else if isLeading unit then readTrailing unit cursor
      else .ok (Char.ofNat unit, cursor)

/-- The character that a short escape stands for. -/
def shortEscape? : Char → Option Char
  | '"' => some '"'
  | '\\' => some '\\'
  | '/' => some '/'
  | 'b' => some '\x08'
  | 'f' => some '\x0c'
  | 'n' => some '\n'
  | 'r' => some '\r'
  | 't' => some '\t'
  | _ => none

/-- Read an escape after its backslash. -/
def readEscape (strictness : Strictness) (cursor : Cursor) : Read Char :=
  match cursor.rest with
  | [] => cursor.refuse .endInString
  | 'u' :: rest => readUnicode strictness ⟨rest, cursor.offset + 1⟩
  | character :: rest =>
      match shortEscape? character with
      | some escaped => .ok (escaped, ⟨rest, cursor.offset + 1⟩)
      | none => cursor.refuseByte .invalidEscape

/-- Read a string after its opening quote; `read` holds its characters, the last one first. -/
def readStringBody (strictness : Strictness) : Nat → List Char → Cursor → Read String
  | 0, _, cursor => cursor.refuse .endInString
  | steps + 1, read, cursor =>
      match cursor.rest with
      | [] => cursor.refuse .endInString
      | '"' :: rest => .ok (String.ofList read.reverse, ⟨rest, cursor.offset + 1⟩)
      | '\\' :: rest =>
          match readEscape strictness ⟨rest, cursor.offset + 1⟩ with
          | .error error => .error error
          | .ok (character, cursor) =>
              readStringBody strictness steps (character :: read) cursor
      | character :: rest =>
          if character.toNat < 0x20 then cursor.refuseByte .controlCharacter
          else
            readStringBody strictness steps (character :: read)
              ⟨rest, cursor.offset + character.utf8Size⟩

/-- Read a string after its opening quote. -/
def readString (strictness : Strictness) (cursor : Cursor) : Read String :=
  readStringBody strictness (cursor.rest.length + 1) [] cursor

/-! ## Values -/

/-- Read the colon between a key and its value. -/
def readColon (cursor : Cursor) : Read Unit :=
  let cursor := cursor.skipBlank
  match cursor.rest with
  | ':' :: rest => .ok ((), ⟨rest, cursor.offset + 1⟩)
  | [] => cursor.refuseNext .endInObject
  | _ => cursor.refuseNext .expectedColon

mutual

/-- Read a value. Brackets may nest less deeply than `depth`; `steps` bounds the work. -/
def readValue (strictness : Strictness) : Nat → Nat → Cursor → Read Value
  | 0, _, cursor => cursor.refuseNext .endInValue
  | steps + 1, depth, cursor =>
      let cursor := cursor.skipBlank
      match cursor.rest with
      | [] => cursor.refuseNext .endInValue
      | 'n' :: rest => readLetters .null ['u', 'l', 'l'] ⟨rest, cursor.offset + 1⟩
      | 't' :: rest => readLetters (.boolean true) ['r', 'u', 'e'] ⟨rest, cursor.offset + 1⟩
      | 'f' :: rest =>
          readLetters (.boolean false) ['a', 'l', 's', 'e'] ⟨rest, cursor.offset + 1⟩
      | '"' :: rest =>
          match readString strictness ⟨rest, cursor.offset + 1⟩ with
          | .error error => .error error
          | .ok (text, cursor) => .ok (.string text, cursor)
      | '[' :: rest =>
          if depth ≤ 1 then cursor.refuseNext .tooDeep
          else
            let cursor := Cursor.skipBlank ⟨rest, cursor.offset + 1⟩
            match cursor.rest with
            | [] => cursor.refuseNext .endInArray
            | ']' :: rest => .ok (.array [], ⟨rest, cursor.offset + 1⟩)
            | _ => readItems strictness steps (depth - 1) [] cursor
      | '\x7b' :: rest =>
          if depth ≤ 1 then cursor.refuseNext .tooDeep
          else
            let cursor := Cursor.skipBlank ⟨rest, cursor.offset + 1⟩
            match cursor.rest with
            | [] => cursor.refuseNext .endInObject
            | '\x7d' :: rest => .ok (.object [], ⟨rest, cursor.offset + 1⟩)
            | _ => readEntries strictness steps (depth - 1) [] cursor
      | character :: rest =>
          if character = '-' then
            match readNumber strictness true ⟨rest, cursor.offset + 1⟩ with
            | .error error => .error error
            | .ok (number, cursor) => .ok (.number number, cursor)
          else if character.isDigit then
            match readNumber strictness false cursor with
            | .error error => .error error
            | .ok (number, cursor) => .ok (.number number, cursor)
          else cursor.refuseNext .expectedValue

/-- Read an item of an array and those after it; `read` holds the items before it, the last one
first. -/
def readItems (strictness : Strictness) : Nat → Nat → List Value → Cursor → Read Value
  | 0, _, _, cursor => cursor.refuseNext .endInArray
  | steps + 1, depth, read, cursor =>
      match readValue strictness steps depth cursor with
      | .error error => .error error
      | .ok (item, cursor) =>
          let cursor := cursor.skipBlank
          match cursor.rest with
          | [] => cursor.refuseNext .endInArray
          | ']' :: rest => .ok (.array (item :: read).reverse, ⟨rest, cursor.offset + 1⟩)
          | ',' :: rest =>
              let cursor := Cursor.skipBlank ⟨rest, cursor.offset + 1⟩
              match cursor.rest with
              | [] => cursor.refuseNext .endInValue
              | ']' :: _ => cursor.refuseNext .trailingComma
              | _ => readItems strictness steps depth (item :: read) cursor
          | _ => cursor.refuseNext .expectedArrayCommaOrEnd

/-- Read an entry of an object and those after it; `read` holds the entries before it. -/
def readEntries (strictness : Strictness) : Nat → Nat → Entries → Cursor → Read Value
  | 0, _, _, cursor => cursor.refuseNext .endInObject
  | steps + 1, depth, read, cursor =>
      match cursor.rest with
      | '"' :: rest =>
          match readString strictness ⟨rest, cursor.offset + 1⟩ with
          | .error error => .error error
          | .ok (key, cursor) =>
              match readColon cursor with
              | .error error => .error error
              | .ok (_, cursor) =>
                  match readValue strictness steps depth cursor with
                  | .error error => .error error
                  | .ok (value, cursor) =>
                      let read := read.insert key value
                      let cursor := cursor.skipBlank
                      match cursor.rest with
                      | [] => cursor.refuseNext .endInObject
                      | '\x7d' :: rest => .ok (.object read, ⟨rest, cursor.offset + 1⟩)
                      | ',' :: rest =>
                          let cursor := Cursor.skipBlank ⟨rest, cursor.offset + 1⟩
                          match cursor.rest with
                          | [] => cursor.refuseNext .endInValue
                          | '\x7d' :: _ => cursor.refuseNext .trailingComma
                          | _ => readEntries strictness steps depth read cursor
                      | _ => cursor.refuseNext .expectedObjectCommaOrEnd
      | _ => cursor.refuseNext .keyMustBeString

end

/-- Read a value at the front of what is left. -/
def readFront (strictness : Strictness) (depth : Nat) (cursor : Cursor) : Read Value :=
  readValue strictness (2 * cursor.rest.length + 2) depth cursor

/-- Brackets may nest less deeply than this. -/
def depthLimit : Nat := 128

/-- Read a text that holds one value and nothing else. -/
def readText (depth : Nat) (text : String) : Except ReadError Value :=
  match readFront .full depth (.ofString text) with
  | .error error => .error error
  | .ok (value, cursor) =>
      let cursor := cursor.skipBlank
      if cursor.rest.isEmpty then .ok value else cursor.refuseNext .trailingCharacters

/-- The JSON value of a text. -/
def read (text : String) : Except ReadError Value := readText depthLimit text

/-! ## Places of errors -/

/-- Line, from one, and bytes of that line, before the byte at `offset`. -/
def linePlace (text : List Char) (offset : Nat) : Nat × Nat :=
  go 1 0 text offset
where
  /-- Walk on from a line and a byte of that line. -/
  go (line column : Nat) : List Char → Nat → Nat × Nat
    | [], _ => (line, column)
    | character :: rest, offset =>
        if offset = 0 then (line, column)
        else if character = '\n' then go (line + 1) 0 rest (offset - 1)
        else
          go line (column + min character.utf8Size offset) rest (offset - character.utf8Size)

/-- The text of an error with its place in the text that was read. -/
def ReadError.located (error : ReadError) (text : String) : String :=
  let (line, column) := linePlace text.toList error.offset
  s!"{error.flaw.message} at line {line} column {column}"

end Json
end LintBus

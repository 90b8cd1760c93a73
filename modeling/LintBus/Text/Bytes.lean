/-!
# Bytes of a text

How many bytes a text takes in UTF-8, and which byte a character begins with.
-/

namespace LintBus

/-- Number of bytes of a text. -/
def byteCount : List Char → Nat
  | [] => 0
  | character :: rest => character.utf8Size + byteCount rest

/-- The first byte of a character. -/
def leadingByte (character : Char) : Nat :=
  let code := character.toNat
  if code < 0x80 then code
  else if code < 0x800 then 0xC0 + code / 0x40
  else if code < 0x10000 then 0xE0 + code / 0x1000
  else 0xF0 + code / 0x40000

end LintBus

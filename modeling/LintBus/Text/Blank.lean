import LintBus.Text.CharClass

/-!
# Blank characters

The Unicode property White_Space, and texts made of nothing else.
-/

namespace LintBus
namespace CharClass

/-- Characters with the Unicode property White_Space. -/
def whiteSpace : CharClass :=
  ⟨[
    0x9, 0xE, 0x20, 0x21, 0x85, 0x86, 0xA0, 0xA1, 0x1680, 0x1681, 0x2000, 0x200B, 0x2028, 0x202A,
    0x202F, 0x2030, 0x205F, 0x2060, 0x3000, 0x3001
  ]⟩

end CharClass

/-- Every character of the text is white space. -/
def isBlankText (text : List Char) : Bool :=
  text.all CharClass.whiteSpace.contains

end LintBus

import Mathlib.Data.List.TakeWhile
import LintBus.Json.Check
import LintBus.Proofs.Json.Quotation

/-!
# The grammar of JSON

A text is a value with blanks around it.  The grammar has the tokens as a parameter: with all
numbers and strings it describes the well-formed texts, with those that can be read exactly the
texts that are accepted, where brackets nest up to a limit.
-/

namespace LintBus
namespace Json

/-- A character that may stand between tokens. -/
def isBlank (character : Char) : Bool :=
  character = ' ' ∨ character = '\t' ∨ character = '\n' ∨ character = '\r'

theorem isBlank_cases {character : Char} (is_blank : isBlank character = true) :
    character = ' ' ∨ character = '\t' ∨ character = '\n' ∨ character = '\r' := by
  simpa [isBlank] using is_blank

/-- Some numbers and strings. -/
structure Tokens where
  /-- The text of a number. -/
  number : List Char → Prop
  /-- The text between the quotes of a string. -/
  string : List Char → Prop
  isNumeral : ∀ {letters : List Char}, number letters → IsNumeral letters
  isString : ∀ {body : List Char}, string body → IsString body

/-- All numbers and strings. -/
def Tokens.standard : Tokens := ⟨IsNumeral, IsString, id, id⟩

/-- The numbers and strings that can be read. -/
def Tokens.readable : Tokens where
  number letters := IsNumeral letters ∧ ∃ number, Takes (readSigned .full) endsNumber letters number
  string body := IsString body ∧ ∃ text, ReadsString .full body text
  isNumeral := And.left
  isString := And.left

/-- The brackets of arrays and those of objects. -/
inductive Brackets where
  | square
  | curly
deriving DecidableEq

namespace Brackets

def opening : Brackets → Char
  | .square => '['
  | .curly => '\x7b'

def closing : Brackets → Char
  | .square => ']'
  | .curly => '\x7d'

end Brackets

/-- The words that are values. -/
def words : List (List Char) :=
  [['n', 'u', 'l', 'l'], ['t', 'r', 'u', 'e'], ['f', 'a', 'l', 's', 'e']]

/-- Words have letters only. -/
theorem letters_of_word {word : List Char} (known : word ∈ words) {letter : Char}
    (found : letter ∈ word) : letter ≠ '"' ∧ letter ≠ '/' ∧ isBlank letter = false := by
  have lower : letter.isLower = true := by
    simp only [words, List.mem_cons, List.not_mem_nil, or_false] at known
    rcases known with rfl | rfl | rfl
    all_goals
      revert letter
      simp
  refine ⟨?_, ?_, ?_⟩
  · rintro rfl
    simp at lower
  · rintro rfl
    simp at lower
  · apply Bool.eq_false_iff.mpr
    intro is_blank
    rcases isBlank_cases is_blank with rfl | rfl | rfl | rfl
    all_goals simp at lower

/-- The characters between and after values. -/
def isPunctuation (character : Char) : Bool := character ∈ [':', ',', ']', '\x7d']

theorem isPunctuation_cases {character : Char} (punctuation : isPunctuation character = true) :
    character = ':' ∨ character = ',' ∨ character = ']' ∨ character = '\x7d' := by
  simpa [isPunctuation] using punctuation

/-- What stands in a text of JSON. -/
inductive Form where
  /-- A single character. -/
  | symbol (character : Char)
  | value
  /-- A key, a colon and a value. -/
  | entry
  /-- What stands between brackets, if anything, with the closing bracket. -/
  | row (brackets : Brackets)

/-- What stands between the brackets, and between the commas. -/
def Brackets.part : Brackets → Form
  | .square => .value
  | .curly => .entry

/-- The form stands between the first text and the second, with blanks before each of its tokens,
and brackets nest in it up to a depth. -/
inductive Derives (tokens : Tokens) : Form → Nat → List Char → List Char → Prop
  | blank {form : Form} {depth : Nat} {character : Char} {text after : List Char}
      (is_blank : isBlank character = true) (derives : Derives tokens form depth text after) :
      Derives tokens form depth (character :: text) after
  | symbol {character : Char} (punctuation : isPunctuation character = true) (depth : Nat)
      (after : List Char) : Derives tokens (.symbol character) depth (character :: after) after
  | word {word : List Char} (known : word ∈ words) (depth : Nat) (after : List Char) :
      Derives tokens .value depth (word ++ after) after
  | number {letters : List Char} (number : tokens.number letters) (depth : Nat)
      (after : List Char) : Derives tokens .value depth (letters ++ after) after
  | string {body : List Char} (string : tokens.string body) (depth : Nat) (after : List Char) :
      Derives tokens .value depth ('"' :: body ++ '"' :: after) after
  | empty (brackets : Brackets) {depth : Nat} {text after : List Char}
      (closed : Derives tokens (.symbol brackets.closing) depth text after) :
      Derives tokens .value (depth + 1) (brackets.opening :: text) after
  | filled (brackets : Brackets) {depth : Nat} {text after : List Char}
      (row : Derives tokens (.row brackets) depth text after) :
      Derives tokens .value (depth + 1) (brackets.opening :: text) after
  | entry {body : List Char} {depth : Nat} {text between after : List Char}
      (key : tokens.string body) (colon : Derives tokens (.symbol ':') depth text between)
      (value : Derives tokens .value depth between after) :
      Derives tokens .entry depth ('"' :: body ++ '"' :: text) after
  | last {brackets : Brackets} {depth : Nat} {text between after : List Char}
      (part : Derives tokens brackets.part depth text between)
      (closed : Derives tokens (.symbol brackets.closing) depth between after) :
      Derives tokens (.row brackets) depth text after
  | next {brackets : Brackets} {depth : Nat} {text between rest after : List Char}
      (part : Derives tokens brackets.part depth text between)
      (comma : Derives tokens (.symbol ',') depth between rest)
      (row : Derives tokens (.row brackets) depth rest after) :
      Derives tokens (.row brackets) depth text after

/-- The text is a value with blanks around it. -/
def IsText (tokens : Tokens) (depth : Nat) (text : List Char) : Prop :=
  ∃ blanks, Derives tokens .value depth text blanks ∧ ∀ blank ∈ blanks, isBlank blank = true

/-- The text is well-formed JSON. -/
def WellFormed (text : List Char) : Prop := ∃ depth, IsText .standard depth text

/-! ## Blanks -/

private theorem skipBlank_go_eq (text : List Char) (offset : Nat) :
    ∃ offset', Cursor.skipBlank.go text offset = ⟨text.dropWhile isBlank, offset'⟩ := by
  induction text generalizing offset with
  | nil => exact ⟨offset, rfl⟩
  | cons character rest induction =>
      rw [Cursor.skipBlank.go]
      split
      · next blank =>
          rw [List.dropWhile_cons_of_pos (by simpa [isBlank] using blank)]
          exact induction (offset + 1)
      · next not_blank =>
          rw [List.dropWhile_cons_of_neg (by simpa [isBlank] using not_blank)]
          exact ⟨offset, rfl⟩

private theorem skipBlank_blank {character : Char} (blank : isBlank character = true)
    (text : List Char)
    (offset : Nat) :
    Cursor.skipBlank ⟨character :: text, offset⟩ = Cursor.skipBlank ⟨text, offset + 1⟩ := by
  rw [Cursor.skipBlank, Cursor.skipBlank.go, if_pos (by simpa [isBlank] using blank)]
  rfl

private theorem skipBlank_of_notBlank {character : Char} (not_blank : isBlank character = false)
    (text : List Char) (offset : Nat) :
    Cursor.skipBlank ⟨character :: text, offset⟩ = ⟨character :: text, offset⟩ := by
  rw [Cursor.skipBlank, Cursor.skipBlank.go, if_neg (by simpa [isBlank] using not_blank)]

private theorem skipBlank_skipBlank (cursor : Cursor) :
    cursor.skipBlank.skipBlank = cursor.skipBlank := by
  obtain ⟨text, offset⟩ := cursor
  induction text generalizing offset with
  | nil => rfl
  | cons character text induction =>
      cases blank : isBlank character with
      | true => rw [skipBlank_blank blank, induction]
      | false => rw [skipBlank_of_notBlank blank, skipBlank_of_notBlank blank]

private theorem skipBlank_rest (cursor : Cursor) :
    cursor.skipBlank.rest = cursor.rest.dropWhile isBlank := by
  obtain ⟨offset', go_eq⟩ := skipBlank_go_eq cursor.rest cursor.offset
  rw [Cursor.skipBlank, go_eq]

private theorem Derives.of_dropWhile {tokens : Tokens} {form : Form} {depth : Nat}
    {text after : List Char}
    (derives : Derives tokens form depth (text.dropWhile isBlank) after) :
    Derives tokens form depth text after := by
  induction text with
  | nil => exact derives
  | cons character rest induction =>
      by_cases blank : isBlank character = true
      · rw [List.dropWhile_cons_of_pos blank] at derives
        exact .blank blank (induction derives)
      · rwa [List.dropWhile_cons_of_neg blank] at derives

private theorem Derives.of_skipBlank {tokens : Tokens} {form : Form} {depth : Nat} {cursor : Cursor}
    {text after : List Char} (rest_eq : cursor.skipBlank.rest = text)
    (derives : Derives tokens form depth text after) :
    Derives tokens form depth cursor.rest after := by
  rw [← rest_eq, skipBlank_rest] at derives
  exact derives.of_dropWhile

private theorem Derives.symbol_of_skipBlank {tokens : Tokens} {depth : Nat} {cursor : Cursor}
    {character : Char} {after : List Char} (punctuation : isPunctuation character = true)
    (rest_eq : cursor.skipBlank.rest = character :: after) :
    Derives tokens (.symbol character) depth cursor.rest after :=
  .of_skipBlank rest_eq (.symbol punctuation depth after)

/-! ## What is read is derived -/

private theorem readLetters_eq_ok {α : Type} {value other : α} {letters : List Char}
    {cursor after : Cursor} (reading : readLetters value letters cursor = .ok (other, after)) :
    cursor.rest = letters ++ after.rest := by
  induction letters generalizing cursor with
  | nil =>
      obtain ⟨-, rfl⟩ := Prod.mk.inj (Except.ok.inj reading)
      rfl
  | cons letter letters induction =>
      rw [readLetters] at reading
      split at reading
      · simp [Cursor.refuse] at reading
      · next character rest rest_eq =>
          split at reading
          · next same =>
              rw [rest_eq, same, List.cons_append, ← induction reading]
          · simp [Cursor.refuseByte] at reading

private theorem readColon_eq_ok {cursor after : Cursor}
    (reading : readColon cursor = .ok ((), after)) :
    cursor.skipBlank.rest = ':' :: after.rest := by
  rw [readColon] at reading
  split at reading
  · next rest rest_eq =>
      obtain ⟨-, rfl⟩ := Prod.mk.inj (Except.ok.inj reading)
      exact rest_eq
  · simp [Cursor.refuseNext] at reading
  · simp [Cursor.refuseNext] at reading

/-- The reader of values and the readers of rows read nothing but what can be derived. -/
structure SoundAt (steps : Nat) : Prop where
  value : ∀ {depth : Nat} {cursor after : Cursor} {value : Value},
    readValue .full steps depth cursor = .ok (value, after) →
      Derives .readable .value (depth - 1) cursor.rest after.rest
  items : ∀ {depth : Nat} {read : List Value} {cursor after : Cursor} {value : Value},
    readItems .full steps depth read cursor = .ok (value, after) →
      Derives .readable (.row .square) (depth - 1) cursor.rest after.rest
  entries : ∀ {depth : Nat} {read : Entries} {cursor after : Cursor} {value : Value},
    readEntries .full steps depth read cursor = .ok (value, after) →
      Derives .readable (.row .curly) (depth - 1) cursor.rest after.rest

namespace SoundAt

variable {steps depth : Nat} {cursor after : Cursor} {value : Value}

private theorem word_sound {depth : Nat} {word : Value} {first : Char} {letters rest : List Char}
    {offset : Nat} (known : first :: letters ∈ words)
    (reading : readLetters word letters ⟨rest, offset⟩ = .ok (value, after)) :
    Derives .readable .value depth (first :: rest) after.rest := by
  have rest_eq : rest = letters ++ after.rest := readLetters_eq_ok reading
  rw [rest_eq]
  exact .word known depth after.rest

private theorem number_sound {depth : Nat} {text : List Char} {offset : Nat} {number : Number}
    (reading : readSigned .full ⟨text, offset⟩ = .ok (number, after)) :
    Derives .readable .value depth text after.rest := by
  obtain ⟨letters, numeral, rfl, takes⟩ := readSigned_takes reading
  have readable : Tokens.readable.number letters := ⟨numeral, number, takes⟩
  exact .number readable depth after.rest

private theorem readValue_sound (sound : SoundAt steps)
    (reading : readValue .full (steps + 1) depth cursor = .ok (value, after)) :
    Derives .readable .value (depth - 1) cursor.rest after.rest := by
  rw [readValue] at reading
  split at reading
  · simp [Cursor.refuseNext] at reading
  · next rest rest_eq => exact .of_skipBlank rest_eq (word_sound (by simp [words]) reading)
  · next rest rest_eq => exact .of_skipBlank rest_eq (word_sound (by simp [words]) reading)
  · next rest rest_eq => exact .of_skipBlank rest_eq (word_sound (by simp [words]) reading)
  · next rest rest_eq =>
      split at reading
      · simp at reading
      · next text between string_read =>
          obtain ⟨-, rfl⟩ := Prod.mk.inj (Except.ok.inj reading)
          obtain ⟨body, is_string, text_eq, reads⟩ := readString_takes string_read
          have readable : Tokens.readable.string body := ⟨is_string, text, reads⟩
          refine .of_skipBlank rest_eq ?_
          rw [text_eq]
          exact .string readable _ _
  · next rest rest_eq =>
      split at reading
      · simp [Cursor.refuseNext] at reading
      · next deeper =>
          obtain ⟨inner, rfl⟩ : ∃ inner, depth = inner + 2 := ⟨depth - 2, by omega⟩
          refine .of_skipBlank rest_eq ?_
          simp only at reading
          split at reading
          · simp [Cursor.refuseNext] at reading
          · next closing_eq =>
              obtain ⟨-, rfl⟩ := Prod.mk.inj (Except.ok.inj reading)
              exact .empty .square (.symbol_of_skipBlank rfl closing_eq)
          · exact .filled .square (.of_skipBlank rfl (sound.items reading))
  · next rest rest_eq =>
      split at reading
      · simp [Cursor.refuseNext] at reading
      · next deeper =>
          obtain ⟨inner, rfl⟩ : ∃ inner, depth = inner + 2 := ⟨depth - 2, by omega⟩
          refine .of_skipBlank rest_eq ?_
          simp only at reading
          split at reading
          · simp [Cursor.refuseNext] at reading
          · next closing_eq =>
              obtain ⟨-, rfl⟩ := Prod.mk.inj (Except.ok.inj reading)
              exact .empty .curly (.symbol_of_skipBlank rfl closing_eq)
          · exact .filled .curly (.of_skipBlank rfl (sound.entries reading))
  · next character rest not_null not_true not_false not_quote not_array not_object rest_eq =>
      refine .of_skipBlank rest_eq ?_
      split at reading
      · next minus =>
          subst minus
          split at reading
          · simp at reading
          · next number between number_read =>
              obtain ⟨-, rfl⟩ := Prod.mk.inj (Except.ok.inj reading)
              exact number_sound number_read
      · next not_minus =>
          split at reading
          · split at reading
            · simp at reading
            · next number between number_read =>
                obtain ⟨-, rfl⟩ := Prod.mk.inj (Except.ok.inj reading)
                rw [← readSigned_unsigned rest_eq not_minus] at number_read
                rw [← rest_eq]
                exact number_sound number_read
          · simp [Cursor.refuseNext] at reading

private theorem readItems_sound (sound : SoundAt steps) {read : List Value}
    (reading : readItems .full (steps + 1) depth read cursor = .ok (value, after)) :
    Derives .readable (.row .square) (depth - 1) cursor.rest after.rest := by
  rw [readItems] at reading
  split at reading
  · simp at reading
  · next item between value_read =>
      have part : Derives .readable Brackets.square.part (depth - 1) cursor.rest between.rest :=
        sound.value value_read
      simp only at reading
      split at reading
      · simp [Cursor.refuseNext] at reading
      · next rest rest_eq =>
          obtain ⟨-, rfl⟩ := Prod.mk.inj (Except.ok.inj reading)
          exact .last part (.symbol_of_skipBlank rfl rest_eq)
      · next rest rest_eq =>
          split at reading
          · simp [Cursor.refuseNext] at reading
          · simp [Cursor.refuseNext] at reading
          · exact .next part (.symbol_of_skipBlank rfl rest_eq)
              (.of_skipBlank rfl (sound.items reading))
      · simp [Cursor.refuseNext] at reading

private theorem readEntries_sound (sound : SoundAt steps) {read : Entries}
    (reading : readEntries .full (steps + 1) depth read cursor = .ok (value, after)) :
    Derives .readable (.row .curly) (depth - 1) cursor.rest after.rest := by
  rw [readEntries] at reading
  split at reading
  · next rest rest_eq =>
      split at reading
      · simp at reading
      · next key between string_read =>
          split at reading
          · simp at reading
          · next colon_after colon_read =>
              split at reading
              · simp at reading
              · next part_value last value_read =>
                  have part : Derives .readable Brackets.curly.part (depth - 1) cursor.rest
                      last.rest := by
                    obtain ⟨body, is_string, text_eq, reads⟩ := readString_takes string_read
                    have readable : Tokens.readable.string body := ⟨is_string, key, reads⟩
                    rw [rest_eq, text_eq]
                    exact .entry readable (.symbol_of_skipBlank rfl (readColon_eq_ok colon_read))
                      (sound.value value_read)
                  simp only at reading
                  split at reading
                  · simp [Cursor.refuseNext] at reading
                  · next rest rest_eq =>
                      obtain ⟨-, rfl⟩ := Prod.mk.inj (Except.ok.inj reading)
                      exact .last part (.symbol_of_skipBlank rfl rest_eq)
                  · next rest rest_eq =>
                      split at reading
                      · simp [Cursor.refuseNext] at reading
                      · simp [Cursor.refuseNext] at reading
                      · exact .next part (.symbol_of_skipBlank rfl rest_eq)
                          (.of_skipBlank rfl (sound.entries reading))
                  · simp [Cursor.refuseNext] at reading
  · simp [Cursor.refuseNext] at reading

end SoundAt

private theorem soundAt (steps : Nat) : SoundAt steps := by
  induction steps with
  | zero =>
      refine ⟨fun reading => ?_, fun reading => ?_, fun reading => ?_⟩
      · simp [readValue, Cursor.refuseNext] at reading
      · simp [readItems, Cursor.refuseNext] at reading
      · simp [readEntries, Cursor.refuseNext] at reading
  | succ steps sound =>
      exact ⟨sound.readValue_sound, sound.readItems_sound, sound.readEntries_sound⟩

/-! ## What is derived is read -/

private theorem readLetters_append {α : Type} (value : α) (letters rest : List Char)
    (offset : Nat) :
    ∃ offset', readLetters value letters ⟨letters ++ rest, offset⟩ =
      .ok (value, ⟨rest, offset'⟩) := by
  induction letters generalizing offset with
  | nil => exact ⟨offset, rfl⟩
  | cons letter letters induction =>
      rw [List.cons_append, readLetters]
      simp only [if_true]
      exact induction _

theorem isBlank_of_isNumberChar {character : Char} (of_number : isNumberChar character = true) :
    isBlank character = false := by
  have unlike := ne_of_isNumberChar of_number
  simp [isBlank, unlike ' ' (by decide), unlike '\t' (by decide), unlike '\n' (by decide),
    unlike '\r' (by decide)]

private theorem Derives.length_lt {tokens : Tokens} {form : Form} {depth : Nat}
    {text after : List Char}
    (derives : Derives tokens form depth text after) : after.length < text.length := by
  induction derives with
  | blank _ _ shorter | empty _ _ shorter | filled _ _ shorter => exact Nat.lt_succ_of_lt shorter
  | symbol => exact Nat.lt_succ_self _
  | word known =>
      simp only [words, List.mem_cons, List.not_mem_nil, or_false] at known
      rw [List.length_append]
      rcases known with rfl | rfl | rfl <;> simp only [List.length_cons] <;> omega
  | number number =>
      obtain ⟨first, others, rfl, -⟩ := (tokens.isNumeral number).head
      rw [List.length_append, List.length_cons]
      omega
  | string | entry _ _ _ _ _ =>
      simp only [List.length_cons, List.length_append]
      omega
  | last | next => omega

/-- After blanks the text begins with a character that closes nothing. -/
def Opens (text : List Char) : Prop :=
  ∃ character rest, text.dropWhile isBlank = character :: rest ∧ character ≠ ']' ∧
    character ≠ '\x7d'

private theorem Opens.skipBlank {text : List Char} (opens : Opens text) (offset : Nat) :
    ∃ character rest, (Cursor.skipBlank ⟨text, offset⟩).rest = character :: rest ∧
      character ≠ ']' ∧ character ≠ '\x7d' := by
  obtain ⟨character, rest, text_eq, not_square, not_curly⟩ := opens
  exact ⟨character, rest, (skipBlank_rest _).trans text_eq, not_square, not_curly⟩

/-- No value, key or row begins with a closing bracket. -/
theorem Derives.opens {tokens : Tokens} {form : Form} {depth : Nat} {text after : List Char}
    (derives : Derives tokens form depth text after)
    (not_symbol : ∀ character, form ≠ .symbol character) : Opens text := by
  induction derives with
  | blank is_blank _ opens =>
      rw [Opens, List.dropWhile_cons_of_pos is_blank]
      exact opens not_symbol
  | @symbol character => exact absurd rfl (not_symbol character)
  | word known =>
      simp only [words, List.mem_cons, List.not_mem_nil, or_false] at known
      rcases known with rfl | rfl | rfl <;> exact ⟨_, _, rfl, by decide⟩
  | number number =>
      obtain ⟨first, others, rfl, -⟩ := (tokens.isNumeral number).head
      have of_number : isNumberChar first = true :=
        (tokens.isNumeral number).isNumberChar first List.mem_cons_self
      refine ⟨first, _, List.dropWhile_cons_of_neg ?_, ne_of_isNumberChar of_number _ (by decide),
        ne_of_isNumberChar of_number _ (by decide)⟩
      simp [isBlank_of_isNumberChar of_number]
  | string | entry => exact ⟨'"', _, rfl, by decide⟩
  | empty brackets | filled brackets => cases brackets <;> exact ⟨_, _, rfl, by decide⟩
  | @last brackets _ _ _ _ _ _ opens _ | @next brackets _ _ _ _ _ _ _ _ opens _ _ =>
      exact opens (by cases brackets <;> simp [Brackets.part])

private theorem endsNumber_of_blank {character : Char} (is_blank : isBlank character = true)
    (rest : List Char) : endsNumber (character :: rest) = true := by
  rcases isBlank_cases is_blank with rfl | rfl | rfl | rfl
  all_goals rfl

private theorem Derives.endsNumber {tokens : Tokens} {character : Char} {depth : Nat}
    {text after : List Char} (derives : Derives tokens (.symbol character) depth text after) :
    Json.endsNumber text = true := by
  cases derives with
  | blank is_blank => exact endsNumber_of_blank is_blank _
  | symbol punctuation => rcases isPunctuation_cases punctuation with rfl | rfl | rfl | rfl <;> rfl

/-- How a form is read, if there are enough steps and brackets may nest deeply enough. -/
def Form.IsRead : Form → Nat → List Char → List Char → Prop
  | .symbol character, _, text, after =>
      ∀ offset, ∃ offset', Cursor.skipBlank ⟨text, offset⟩ = ⟨character :: after, offset'⟩
  | .value, inner, text, after =>
      endsNumber after = true → ∀ steps depth offset, 2 * text.length < steps → inner < depth →
        ∃ value offset', readValue .full steps depth ⟨text, offset⟩ = .ok (value, ⟨after, offset'⟩)
  | .entry, inner, text, after =>
      endsNumber after = true → ∀ steps depth offset, 2 * text.length < steps → inner < depth →
        ∃ rest opened key keyed colon value offset',
          Cursor.skipBlank ⟨text, offset⟩ = ⟨'"' :: rest, opened⟩ ∧
          readString .full ⟨rest, opened + 1⟩ = .ok (key, keyed) ∧
          readColon keyed = .ok ((), colon) ∧
          readValue .full steps depth colon = .ok (value, ⟨after, offset'⟩)
  | .row .square, inner, text, after =>
      ∀ steps depth read offset, 2 * text.length + 1 < steps → inner < depth →
        ∃ value offset', readItems .full steps depth read (Cursor.skipBlank ⟨text, offset⟩) =
          .ok (value, ⟨after, offset'⟩)
  | .row .curly, inner, text, after =>
      ∀ steps depth read offset, 2 * text.length + 1 < steps → inner < depth →
        ∃ value offset', readEntries .full steps depth read (Cursor.skipBlank ⟨text, offset⟩) =
          .ok (value, ⟨after, offset'⟩)

section Reading

variable {steps depth offset : Nat} {text after : List Char}

private theorem readValue_congr {strictness : Strictness} {one other : Cursor}
    (same : one.skipBlank = other.skipBlank) :
    readValue strictness (steps + 1) depth one = readValue strictness (steps + 1) depth other := by
  rw [readValue, readValue, same]

private theorem isRead_word {word : List Char} (known : word ∈ words) :
    Form.value.IsRead depth (word ++ after) after := by
  intro _ steps outer offset enough _
  obtain ⟨steps, rfl⟩ : ∃ fewer, steps = fewer + 1 := ⟨steps - 1, by omega⟩
  have reads (value : Value) {first : Char} {letters : List Char}
      (word_eq : readValue .full (steps + 1) outer ⟨first :: letters ++ after, offset⟩ =
        readLetters value letters ⟨letters ++ after, offset + 1⟩) :
      ∃ value offset', readValue .full (steps + 1) outer ⟨first :: letters ++ after, offset⟩ =
        .ok (value, ⟨after, offset'⟩) := by
    obtain ⟨offset', letters_read⟩ := readLetters_append value letters after (offset + 1)
    exact ⟨value, offset', word_eq.trans letters_read⟩
  simp only [words, List.mem_cons, List.not_mem_nil, or_false] at known
  rcases known with rfl | rfl | rfl
  · refine reads .null ?_
    rw [List.cons_append, readValue, skipBlank_of_notBlank (by decide)]
    rfl
  · refine reads (.boolean true) ?_
    rw [List.cons_append, readValue, skipBlank_of_notBlank (by decide)]
    rfl
  · refine reads (.boolean false) ?_
    rw [List.cons_append, readValue, skipBlank_of_notBlank (by decide)]
    rfl

private theorem readValue_number {first : Char} {rest : List Char}
    (of_number : first = '-' ∨ first.isDigit = true) :
    readValue .full (steps + 1) depth ⟨first :: rest, offset⟩ =
      match readSigned .full ⟨first :: rest, offset⟩ with
      | .error error => .error error
      | .ok (number, cursor) => .ok (.number number, cursor) := by
  rcases of_number with rfl | is_digit
  · rw [readValue, skipBlank_of_notBlank (by decide)]
    rfl
  · have of_number : isNumberChar first = true := by rw [isNumberChar, is_digit, Bool.true_or]
    have not_minus : first ≠ '-' := by
      rintro rfl
      simp at is_digit
    have unlike := ne_of_isNumberChar of_number
    rw [readValue, skipBlank_of_notBlank (isBlank_of_isNumberChar of_number),
      readSigned_unsigned rfl not_minus]
    split
    · next rest_eq => simp at rest_eq
    · next rest_eq => exact absurd (List.cons.inj rest_eq).1 (unlike 'n' (by decide))
    · next rest_eq => exact absurd (List.cons.inj rest_eq).1 (unlike 't' (by decide))
    · next rest_eq => exact absurd (List.cons.inj rest_eq).1 (unlike 'f' (by decide))
    · next rest_eq => exact absurd (List.cons.inj rest_eq).1 (unlike '"' (by decide))
    · next rest_eq => exact absurd (List.cons.inj rest_eq).1 (unlike '[' (by decide))
    · next rest_eq => exact absurd (List.cons.inj rest_eq).1 (unlike '\x7b' (by decide))
    · next character others _ _ _ _ _ _ rest_eq =>
        obtain ⟨rfl, rfl⟩ := List.cons.inj rest_eq
        exact (if_neg not_minus).trans (if_pos is_digit)

private theorem isRead_number {letters : List Char} (readable : Tokens.readable.number letters) :
    Form.value.IsRead depth (letters ++ after) after := by
  intro ends steps outer offset enough _
  obtain ⟨steps, rfl⟩ : ∃ fewer, steps = fewer + 1 := ⟨steps - 1, by omega⟩
  obtain ⟨numeral, number, takes⟩ := readable
  obtain ⟨first, others, rfl, of_number⟩ := numeral.head
  obtain ⟨offset', number_read⟩ := takes after ends offset
  rw [List.cons_append] at number_read ⊢
  exact ⟨.number number, offset', by rw [readValue_number of_number, number_read]⟩

private theorem isRead_string {body : List Char} (readable : Tokens.readable.string body) :
    Form.value.IsRead depth ('"' :: body ++ '"' :: after) after := by
  intro _ steps outer offset enough _
  obtain ⟨steps, rfl⟩ : ∃ fewer, steps = fewer + 1 := ⟨steps - 1, by omega⟩
  obtain ⟨-, string, reads⟩ := readable
  obtain ⟨offset', string_read⟩ := reads after (offset + 1)
  refine ⟨.string string, offset', ?_⟩
  rw [List.cons_append, readValue, skipBlank_of_notBlank (by decide)]
  simp only [string_read]

private theorem isRead_empty {brackets : Brackets}
    (closed : (Form.symbol brackets.closing).IsRead depth text after) :
    Form.value.IsRead (depth + 1) (brackets.opening :: text) after := by
  intro _ steps outer offset enough deeper
  obtain ⟨steps, rfl⟩ : ∃ fewer, steps = fewer + 1 := ⟨steps - 1, by omega⟩
  obtain ⟨offset', closed_eq⟩ := closed (offset + 1)
  cases brackets with
  | square =>
      refine ⟨.array [], offset' + 1, ?_⟩
      rw [readValue, skipBlank_of_notBlank (by decide)]
      simp only [Brackets.opening, if_neg (show ¬ outer ≤ 1 by omega), closed_eq, Brackets.closing]
  | curly =>
      refine ⟨.object [], offset' + 1, ?_⟩
      rw [readValue, skipBlank_of_notBlank (by decide)]
      simp only [Brackets.opening, if_neg (show ¬ outer ≤ 1 by omega), closed_eq, Brackets.closing]

/-- What does not begin with a closing bracket is read as a row. -/
theorem isRead_filled {brackets : Brackets} (opens : Opens text)
    (row : (Form.row brackets).IsRead depth text after) :
    Form.value.IsRead (depth + 1) (brackets.opening :: text) after := by
  intro _ steps outer offset enough deeper
  obtain ⟨steps, rfl⟩ : ∃ fewer, steps = fewer + 1 := ⟨steps - 1, by omega⟩
  obtain ⟨character, rest, rest_eq, not_square, not_curly⟩ := opens.skipBlank (offset + 1)
  rw [List.length_cons] at enough
  cases brackets with
  | square =>
      obtain ⟨value, offset', items_read⟩ :=
        row steps (outer - 1) [] (offset + 1) (by omega) (by omega)
      refine ⟨value, offset', ?_⟩
      rw [readValue, skipBlank_of_notBlank (by decide)]
      simp only [Brackets.opening, if_neg (show ¬ outer ≤ 1 by omega), rest_eq]
      split
      · next empty => simp at empty
      · next closing => exact absurd (List.cons.inj closing).1 not_square
      · exact items_read
  | curly =>
      obtain ⟨value, offset', entries_read⟩ :=
        row steps (outer - 1) [] (offset + 1) (by omega) (by omega)
      refine ⟨value, offset', ?_⟩
      rw [readValue, skipBlank_of_notBlank (by decide)]
      simp only [Brackets.opening, if_neg (show ¬ outer ≤ 1 by omega), rest_eq]
      split
      · next empty => simp at empty
      · next closing => exact absurd (List.cons.inj closing).1 not_curly
      · exact entries_read

private theorem readValue_skipBlank {strictness : Strictness} (positive : 0 < steps)
    (cursor : Cursor) :
    readValue strictness steps depth cursor.skipBlank =
      readValue strictness steps depth cursor := by
  obtain ⟨steps, rfl⟩ : ∃ fewer, steps = fewer + 1 := ⟨steps - 1, by omega⟩
  exact readValue_congr (skipBlank_skipBlank cursor)

private theorem isRead_entry {body between : List Char} (readable : Tokens.readable.string body)
    (colon : (Form.symbol ':').IsRead depth text between)
    (shorter : between.length < text.length) (value : Form.value.IsRead depth between after) :
    Form.entry.IsRead depth ('"' :: body ++ '"' :: text) after := by
  intro ends steps outer offset enough deeper
  rw [List.length_append, List.length_cons, List.length_cons] at enough
  obtain ⟨-, key, reads⟩ := readable
  obtain ⟨keyed, key_read⟩ := reads text (offset + 1)
  obtain ⟨middle, colon_eq⟩ := colon keyed
  obtain ⟨part, offset', value_read⟩ := value ends steps outer (middle + 1) (by omega) deeper
  refine ⟨body ++ '"' :: text, offset, key, _, _, part, offset',
    skipBlank_of_notBlank (by decide) _ _, key_read, ?_, value_read⟩
  simp only [readColon, colon_eq]

variable {between rest : List Char}

private theorem isRead_lastItem (ends : endsNumber between = true)
    (part : Form.value.IsRead depth text between)
    (closed : (Form.symbol ']').IsRead depth between after) :
    (Form.row .square).IsRead depth text after := by
  intro steps outer read offset enough deeper
  obtain ⟨steps, rfl⟩ : ∃ fewer, steps = fewer + 1 := ⟨steps - 1, by omega⟩
  obtain ⟨item, middle, item_read⟩ := part ends steps outer offset (by omega) deeper
  obtain ⟨offset', closed_eq⟩ := closed middle
  refine ⟨.array (item :: read).reverse, offset' + 1, ?_⟩
  rw [readItems, readValue_skipBlank (by omega), item_read]
  simp only [closed_eq]

private theorem isRead_nextItem (ends : endsNumber between = true)
    (part : Form.value.IsRead depth text between)
    (comma : (Form.symbol ',').IsRead depth between rest) (shorter : rest.length < text.length)
    (opens : Opens rest) (row : (Form.row .square).IsRead depth rest after) :
    (Form.row .square).IsRead depth text after := by
  intro steps outer read offset enough deeper
  obtain ⟨steps, rfl⟩ : ∃ fewer, steps = fewer + 1 := ⟨steps - 1, by omega⟩
  obtain ⟨item, middle, item_read⟩ := part ends steps outer offset (by omega) deeper
  obtain ⟨comma_offset, comma_eq⟩ := comma middle
  obtain ⟨character, others, next_eq, not_square, -⟩ := opens.skipBlank (comma_offset + 1)
  obtain ⟨value, offset', items_read⟩ :=
    row steps outer (item :: read) (comma_offset + 1) (by omega) deeper
  refine ⟨value, offset', ?_⟩
  rw [readItems, readValue_skipBlank (by omega), item_read]
  simp only [comma_eq, next_eq]
  split
  · next empty => simp at empty
  · next closing => exact absurd (List.cons.inj closing).1 not_square
  · exact items_read

private theorem isRead_lastEntry (ends : endsNumber between = true)
    (part : Form.entry.IsRead depth text between)
    (closed : (Form.symbol '\x7d').IsRead depth between after) :
    (Form.row .curly).IsRead depth text after := by
  intro steps outer read offset enough deeper
  obtain ⟨steps, rfl⟩ : ∃ fewer, steps = fewer + 1 := ⟨steps - 1, by omega⟩
  obtain ⟨rest, opened, key, keyed, colon, entry, middle, quote_eq, key_read, colon_read,
    value_read⟩ := part ends steps outer offset (by omega) deeper
  obtain ⟨offset', closed_eq⟩ := closed middle
  refine ⟨.object (read.insert key entry), offset' + 1, ?_⟩
  rw [readEntries]
  simp only [quote_eq, key_read, colon_read, value_read, closed_eq]

private theorem isRead_nextEntry (ends : endsNumber between = true)
    (part : Form.entry.IsRead depth text between)
    (comma : (Form.symbol ',').IsRead depth between rest) (shorter : rest.length < text.length)
    (opens : Opens rest) (row : (Form.row .curly).IsRead depth rest after) :
    (Form.row .curly).IsRead depth text after := by
  intro steps outer read offset enough deeper
  obtain ⟨steps, rfl⟩ : ∃ fewer, steps = fewer + 1 := ⟨steps - 1, by omega⟩
  obtain ⟨quoted, opened, key, keyed, colon, entry, middle, quote_eq, key_read, colon_read,
    value_read⟩ := part ends steps outer offset (by omega) deeper
  obtain ⟨comma_offset, comma_eq⟩ := comma middle
  obtain ⟨character, others, next_eq, -, not_curly⟩ := opens.skipBlank (comma_offset + 1)
  obtain ⟨value, offset', entries_read⟩ :=
    row steps outer (read.insert key entry) (comma_offset + 1) (by omega) deeper
  refine ⟨value, offset', ?_⟩
  rw [readEntries]
  simp only [quote_eq, key_read, colon_read, value_read, comma_eq, next_eq]
  split
  · next empty => simp at empty
  · next closing => exact absurd (List.cons.inj closing).1 not_curly
  · exact entries_read

private theorem isRead_blank {form : Form} {character : Char} (is_blank : isBlank character = true)
    (is_read : form.IsRead depth text after) : form.IsRead depth (character :: text) after := by
  cases form with
  | symbol symbol =>
      intro offset
      rw [skipBlank_blank is_blank]
      exact is_read (offset + 1)
  | value =>
      intro ends steps outer offset enough deeper
      obtain ⟨steps, rfl⟩ : ∃ fewer, steps = fewer + 1 := ⟨steps - 1, by omega⟩
      rw [List.length_cons] at enough
      rw [readValue_congr (skipBlank_blank is_blank text offset)]
      exact is_read ends _ outer (offset + 1) (by omega) deeper
  | entry =>
      intro ends steps outer offset enough deeper
      rw [List.length_cons] at enough
      rw [skipBlank_blank is_blank]
      exact is_read ends steps outer (offset + 1) (by omega) deeper
  | row brackets =>
      cases brackets with
      | square | curly =>
          intro steps outer read offset enough deeper
          rw [List.length_cons] at enough
          rw [skipBlank_blank is_blank]
          exact is_read steps outer read (offset + 1) (by omega) deeper

end Reading

/-- What is derived from readable tokens is read.  The induction is on the derivation. -/
theorem Derives.isRead {form : Form} {depth : Nat} {text after : List Char}
    (derives : Derives .readable form depth text after) : form.IsRead depth text after := by
  induction derives with
  | blank is_blank _ is_read => exact isRead_blank is_blank is_read
  | @symbol character punctuation _ after =>
      have not_blank : isBlank character = false := by
        rcases isPunctuation_cases punctuation with rfl | rfl | rfl | rfl <;> decide
      exact fun offset => ⟨offset, skipBlank_of_notBlank not_blank after offset⟩
  | word known => exact isRead_word known
  | number number => exact isRead_number number
  | string string => exact isRead_string string
  | empty _ _ is_closed => exact isRead_empty is_closed
  | filled _ row is_read => exact isRead_filled (row.opens (by simp)) is_read
  | entry key colon _ is_colon is_value =>
      exact isRead_entry key is_colon colon.length_lt is_value
  | @last brackets inner text between after part closed is_part is_closed =>
      cases brackets with
      | square => exact isRead_lastItem closed.endsNumber is_part is_closed
      | curly => exact isRead_lastEntry closed.endsNumber is_part is_closed
  | @next brackets inner text between rest after part comma row is_part is_comma is_row =>
      have shorter : rest.length < text.length := Nat.lt_trans comma.length_lt part.length_lt
      cases brackets with
      | square =>
          exact isRead_nextItem comma.endsNumber is_part is_comma shorter
            (row.opens (by simp)) is_row
      | curly =>
          exact isRead_nextEntry comma.endsNumber is_part is_comma shorter
            (row.opens (by simp)) is_row

/-! ## Accepted texts -/

private theorem check_eq_ok_iff_readFront {source : String} :
    check source = .ok () ↔ ∃ value after,
      readFront .full depthLimit (.ofString source) = .ok (value, after) ∧
        after.skipBlank.rest = [] := by
  rw [check, read, readText]
  cases readFront .full depthLimit (.ofString source) with
  | error error => simp
  | ok reading =>
      obtain ⟨value, after⟩ := reading
      by_cases empty : after.skipBlank.rest = []
      · exact iff_of_true (by simp [empty]) ⟨value, after, rfl, empty⟩
      · simp [empty, Cursor.refuseNext]

/-- A text is accepted exactly if it is a value of readable tokens with blanks around it, in which
brackets do not nest too deeply. -/
theorem check_eq_ok {source : String} :
    check source = .ok () ↔ IsText .readable (depthLimit - 1) source.toList := by
  rw [check_eq_ok_iff_readFront]
  constructor
  · rintro ⟨value, after, reading, finished⟩
    rw [skipBlank_rest, List.dropWhile_eq_nil_iff] at finished
    exact ⟨after.rest, (soundAt _).value reading, finished⟩
  · rintro ⟨blanks, derives, all_blank⟩
    have ends : endsNumber blanks = true := by
      cases blanks with
      | nil => rfl
      | cons blank blanks => exact endsNumber_of_blank (all_blank blank List.mem_cons_self) blanks
    obtain ⟨value, offset', reading⟩ :=
      derives.isRead ends (2 * source.toList.length + 2) depthLimit 0 (by omega) (by decide)
    refine ⟨value, ⟨blanks, offset'⟩, reading, ?_⟩
    rw [skipBlank_rest]
    exact List.dropWhile_eq_nil_iff.mpr all_blank

end Json
end LintBus

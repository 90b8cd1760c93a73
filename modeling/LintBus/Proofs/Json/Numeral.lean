import LintBus.Json.Reader

/-!
# Numbers read from a text

A reader that takes a number off a text has read a numeral, and it would have read the same number
from every text that begins with this numeral and does not go on with it.
-/

namespace LintBus
namespace Json

/-- Before every rest that suits, the reader takes the letters off a text and gives the value. -/
def Takes {α : Type} (reader : Cursor → Read α) (suits : List Char → Bool) (letters : List Char)
    (value : α) : Prop :=
  ∀ rest, suits rest = true → ∀ offset, ∃ offset',
    reader ⟨letters ++ rest, offset⟩ = .ok (value, ⟨rest, offset'⟩)

/-! ## Numerals -/

/-- The text is made of digits, of one at least. -/
def IsDigits (text : List Char) : Prop :=
  text ≠ [] ∧ ∀ character ∈ text, character.isDigit = true

/-- The integer part of a number: a zero, or digits the first of which is none. -/
def IsWhole (text : List Char) : Prop :=
  text = ['0'] ∨ (IsDigits text ∧ text.head? ≠ some '0')

/-- The fraction of a number, if it has one. -/
def IsFraction (text : List Char) : Prop :=
  text = [] ∨ ∃ digits, IsDigits digits ∧ text = '.' :: digits

/-- The power of ten after the letter that announces it. -/
def IsPower (text : List Char) : Prop :=
  ∃ sign digits, sign ∈ [[], ['+'], ['-']] ∧ IsDigits digits ∧ text = sign ++ digits

/-- The exponent of a number, if it has one. -/
def IsExponent (text : List Char) : Prop :=
  text = [] ∨ ∃ letter power, (letter = 'e' ∨ letter = 'E') ∧ IsPower power ∧ text = letter :: power

/-- A number without its sign. -/
def IsUnsigned (text : List Char) : Prop :=
  ∃ whole fraction exponent, IsWhole whole ∧ IsFraction fraction ∧ IsExponent exponent ∧
    text = whole ++ fraction ++ exponent

/-- A number. -/
def IsNumeral (text : List Char) : Prop :=
  IsUnsigned text ∨ ∃ unsigned, IsUnsigned unsigned ∧ text = '-' :: unsigned

/-- The characters of numbers. -/
def isNumberChar (character : Char) : Bool :=
  character.isDigit || character ∈ ['-', '+', '.', 'e', 'E']

theorem ne_of_isNumberChar {character : Char} (of_number : isNumberChar character = true)
    (other : Char) (not_number : isNumberChar other = false) : character ≠ other := by
  rintro rfl
  simp [not_number] at of_number

private theorem IsDigits.isNumberChar {digits : List Char} (is_digits : IsDigits digits) :
    ∀ character ∈ digits, isNumberChar character = true := by
  intro character found
  rw [Json.isNumberChar, is_digits.2 character found, Bool.true_or]

private theorem IsUnsigned.isNumberChar {letters : List Char} (unsigned : IsUnsigned letters) :
    ∀ character ∈ letters, isNumberChar character = true := by
  obtain ⟨whole, fraction, exponent, is_whole, is_fraction, is_exponent, rfl⟩ := unsigned
  have in_whole : ∀ character ∈ whole, Json.isNumberChar character = true := by
    rcases is_whole with rfl | ⟨is_digits, -⟩
    · simp [Json.isNumberChar]
    · exact is_digits.isNumberChar
  have in_fraction : ∀ character ∈ fraction, Json.isNumberChar character = true := by
    rcases is_fraction with rfl | ⟨digits, is_digits, rfl⟩
    · simp
    · exact List.forall_mem_cons.mpr ⟨by decide, is_digits.isNumberChar⟩
  have in_exponent : ∀ character ∈ exponent, Json.isNumberChar character = true := by
    rcases is_exponent with rfl | ⟨letter, _, letter_eq, ⟨sign, digits, sign_mem, is_digits, rfl⟩,
      rfl⟩
    · simp
    · refine List.forall_mem_cons.mpr ⟨?_, List.forall_mem_append.mpr ⟨?_, is_digits.isNumberChar⟩⟩
      · rcases letter_eq with rfl | rfl <;> decide
      · simp only [List.mem_cons, List.not_mem_nil, or_false] at sign_mem
        rcases sign_mem with rfl | rfl | rfl
        all_goals simp [Json.isNumberChar]
  exact List.forall_mem_append.mpr ⟨List.forall_mem_append.mpr ⟨in_whole, in_fraction⟩, in_exponent⟩

theorem IsNumeral.isNumberChar {letters : List Char} (numeral : IsNumeral letters) :
    ∀ character ∈ letters, isNumberChar character = true := by
  rcases numeral with unsigned | ⟨unsigned, is_unsigned, rfl⟩
  · exact unsigned.isNumberChar
  · exact List.forall_mem_cons.mpr ⟨by decide, is_unsigned.isNumberChar⟩

private theorem IsUnsigned.head {letters : List Char} (unsigned : IsUnsigned letters) :
    ∃ digit others, letters = digit :: others ∧ digit.isDigit = true := by
  obtain ⟨whole, fraction, exponent, rfl | ⟨⟨whole_ne, all_digits⟩, -⟩, -, -, rfl⟩ := unsigned
  · exact ⟨'0', fraction ++ exponent, rfl, by decide⟩
  · obtain ⟨digit, others, rfl⟩ := List.exists_cons_of_ne_nil whole_ne
    exact ⟨digit, others ++ fraction ++ exponent, by simp, all_digits digit List.mem_cons_self⟩

theorem IsNumeral.head {letters : List Char} (numeral : IsNumeral letters) :
    ∃ first others, letters = first :: others ∧ (first = '-' ∨ first.isDigit = true) := by
  rcases numeral with unsigned | ⟨unsigned, -, rfl⟩
  · obtain ⟨digit, others, rfl, is_digit⟩ := unsigned.head
    exact ⟨digit, others, rfl, .inr is_digit⟩
  · exact ⟨'-', unsigned, rfl, .inl rfl⟩

/-! ## Digits -/

/-- The text begins with a digit. -/
def startsDigit (text : List Char) : Bool := text.head?.any Char.isDigit

/-- The text does not go on with a number. -/
def endsNumber (text : List Char) : Bool :=
  text.head?.all fun character =>
    !character.isDigit && character ≠ '.' && character ≠ 'e' && character ≠ 'E'

private theorem endsNumber_cons {character : Char} {rest : List Char} :
    endsNumber (character :: rest) = true ↔
      character.isDigit = false ∧ character ≠ '.' ∧ character ≠ 'e' ∧ character ≠ 'E' := by
  simp [endsNumber, and_assoc]

private theorem startsDigit_of_endsNumber {text : List Char} (ends : endsNumber text = true) :
    startsDigit text = false := by
  cases text with
  | nil => rfl
  | cons character rest => exact (endsNumber_cons.mp ends).1

private theorem digit?_of_not_digit {character : Char} (not_digit : character.isDigit = false) :
    digit? character = none := by
  rw [digit?, if_neg (by simp [not_digit])]

theorem isDigit_of_digit? {character : Char} {digit : Nat}
    (is_digit : digit? character = some digit) : character.isDigit = true := by
  rw [digit?] at is_digit
  split at is_digit
  · assumption
  · simp at is_digit

/-- Digits are absorbed off the front of a text, and the same ones off every text with this front
that goes on with the same character or with no digit. -/
theorem absorbDigits_takes {limit significand count : Nat} {text : List Char} {offset : Nat}
    {absorbed : Nat × Nat} {after : Cursor}
    (reading : absorbDigits limit significand count ⟨text, offset⟩ = (absorbed, after)) :
    ∃ digits, text = digits ++ after.rest ∧ (∀ digit ∈ digits, digit.isDigit = true) ∧
      absorbed.2 = count + digits.length ∧
      ∀ rest, (rest.head? = after.rest.head? ∨ startsDigit rest = false) → ∀ offset, ∃ offset',
        absorbDigits limit significand count ⟨digits ++ rest, offset⟩ =
          (absorbed, ⟨rest, offset'⟩) := by
  simp only [absorbDigits] at reading ⊢
  have stops {significand count : Nat} {rest : List Char} (not_digit : startsDigit rest = false)
      (offset : Nat) : absorbDigits.go limit significand count rest offset =
        ((significand, count), ⟨rest, offset⟩) := by
    cases rest with
    | nil => rfl
    | cons character rest => rw [absorbDigits.go, digit?_of_not_digit not_digit]
  induction text generalizing significand count offset with
  | nil =>
      obtain ⟨rfl, rfl⟩ := Prod.mk.inj reading
      refine ⟨[], rfl, by simp, rfl, fun rest alike offset => ⟨offset, stops ?_ offset⟩⟩
      rcases alike with empty | not_digit
      · rw [List.head?_eq_none_iff.mp empty]
        rfl
      · exact not_digit
  | cons character text induction =>
      rw [absorbDigits.go] at reading
      split at reading
      · next is_digit =>
          obtain ⟨rfl, rfl⟩ := Prod.mk.inj reading
          refine ⟨[], rfl, by simp, rfl, fun rest alike offset => ⟨offset, ?_⟩⟩
          rcases alike with same | not_digit
          · obtain ⟨others, rfl⟩ := List.head?_eq_some_iff.mp same
            rw [List.nil_append, absorbDigits.go, is_digit]
          · exact stops not_digit offset
      · next digit is_digit =>
          split at reading
          · next full =>
              obtain ⟨rfl, rfl⟩ := Prod.mk.inj reading
              refine ⟨[], rfl, by simp, rfl, fun rest alike offset => ⟨offset, ?_⟩⟩
              rcases alike with same | not_digit
              · obtain ⟨others, rfl⟩ := List.head?_eq_some_iff.mp same
                simp only [List.nil_append, absorbDigits.go, is_digit, if_pos full]
              · exact stops not_digit offset
          · next fits =>
              obtain ⟨digits, rfl, all_digits, count_eq, takes⟩ := induction reading
              refine ⟨character :: digits, rfl, ?_, ?_, fun rest alike offset => ?_⟩
              · exact List.forall_mem_cons.mpr ⟨isDigit_of_digit? is_digit, all_digits⟩
              · rw [count_eq, List.length_cons]
                omega
              · simpa only [List.cons_append, absorbDigits.go, is_digit, if_neg fits] using
                  takes rest alike (offset + 1)

private theorem dropDigits_go_of_not_digit {count : Nat} {rest : List Char}
    (not_digit : startsDigit rest = false) (offset : Nat) :
    dropDigits.go count rest offset = (count, ⟨rest, offset⟩) := by
  cases rest with
  | nil => rfl
  | cons character rest => rw [dropDigits.go, if_neg (by simpa [startsDigit] using not_digit)]

private theorem dropDigits_go_takes {count : Nat} {text : List Char} {offset dropped : Nat}
    {after : Cursor} (reading : dropDigits.go count text offset = (dropped, after)) :
    ∃ digits, text = digits ++ after.rest ∧ (∀ digit ∈ digits, digit.isDigit = true) ∧
      dropped = count + digits.length ∧ startsDigit after.rest = false ∧
      ∀ rest, startsDigit rest = false → ∀ offset, ∃ offset',
        dropDigits.go count (digits ++ rest) offset = (dropped, ⟨rest, offset'⟩) := by
  induction text generalizing count offset with
  | nil =>
      obtain ⟨rfl, rfl⟩ := Prod.mk.inj reading
      exact ⟨[], rfl, by simp, rfl, rfl, fun rest not_digit offset =>
        ⟨offset, dropDigits_go_of_not_digit not_digit offset⟩⟩
  | cons character text induction =>
      rw [dropDigits.go] at reading
      split at reading
      · next is_digit =>
          obtain ⟨digits, rfl, all_digits, dropped_eq, ended, takes⟩ := induction reading
          refine ⟨character :: digits, rfl, List.forall_mem_cons.mpr ⟨is_digit, all_digits⟩, ?_,
            ended, fun rest not_digit offset => ?_⟩
          · rw [dropped_eq, List.length_cons]
            omega
          · simpa only [List.cons_append, dropDigits.go, if_pos is_digit] using
              takes rest not_digit (offset + 1)
      · next not_digit =>
          obtain ⟨rfl, rfl⟩ := Prod.mk.inj reading
          exact ⟨[], rfl, by simp, rfl, by simpa [startsDigit] using not_digit,
            fun rest ended offset => ⟨offset, dropDigits_go_of_not_digit ended offset⟩⟩

/-- All digits are dropped off the front of a text, and the same ones off every text with this
front that goes on without a digit. -/
theorem dropDigits_takes {text : List Char} {offset dropped : Nat} {after : Cursor}
    (reading : dropDigits ⟨text, offset⟩ = (dropped, after)) :
    ∃ digits, text = digits ++ after.rest ∧ (∀ digit ∈ digits, digit.isDigit = true) ∧
      dropped = digits.length ∧ startsDigit after.rest = false ∧
      ∀ rest, startsDigit rest = false → ∀ offset, ∃ offset',
        dropDigits ⟨digits ++ rest, offset⟩ = (dropped, ⟨rest, offset'⟩) := by
  obtain ⟨digits, text_eq, all_digits, dropped_eq, ended, takes⟩ := dropDigits_go_takes reading
  rw [Nat.zero_add] at dropped_eq
  exact ⟨digits, text_eq, all_digits, dropped_eq, ended, takes⟩

/-- Absorb digits while they fit, and drop the others. -/
def readDigits (limit significand : Nat) (cursor : Cursor) : ((Nat × Nat) × Nat) × Cursor :=
  let (absorbed, between) := absorbDigits limit significand 0 cursor
  let (dropped, after) := dropDigits between
  ((absorbed, dropped), after)

private theorem readDigits_takes {limit significand : Nat} {text : List Char} {offset : Nat}
    {absorbed : Nat × Nat} {dropped : Nat} {after : Cursor}
    (reading : readDigits limit significand ⟨text, offset⟩ = ((absorbed, dropped), after)) :
    ∃ digits, text = digits ++ after.rest ∧ (∀ digit ∈ digits, digit.isDigit = true) ∧
      absorbed.2 + dropped = digits.length ∧ startsDigit after.rest = false ∧
      ∀ rest, startsDigit rest = false → ∀ offset, ∃ offset',
        readDigits limit significand ⟨digits ++ rest, offset⟩ =
          ((absorbed, dropped), ⟨rest, offset'⟩) := by
  rcases absorbs : absorbDigits limit significand 0 ⟨text, offset⟩ with ⟨one, between⟩
  rcases drops : dropDigits between with ⟨other, last⟩
  obtain ⟨⟨rfl, rfl⟩, rfl⟩ : (one = absorbed ∧ other = dropped) ∧ last = after := by
    simpa [readDigits, absorbs, drops] using reading
  obtain ⟨front, text_eq, front_digits, front_eq, front_takes⟩ := absorbDigits_takes absorbs
  obtain ⟨others, between_eq, other_digits, other_eq, ended, other_takes⟩ := dropDigits_takes drops
  refine ⟨front ++ others, ?_, ?_, ?_, ended, fun rest not_digit offset => ?_⟩
  · rw [text_eq, between_eq, List.append_assoc]
  · exact List.forall_mem_append.mpr ⟨front_digits, other_digits⟩
  · rw [List.length_append, front_eq, other_eq, Nat.zero_add]
  · -- after the first digits stands the digit that did not fit, or else there was none
    have alike : (others ++ rest).head? = between.rest.head? ∨
        startsDigit (others ++ rest) = false := by
      cases others with
      | nil => exact .inr not_digit
      | cons digit others => exact .inl (by rw [between_eq, List.cons_append, List.cons_append,
          List.head?_cons, List.head?_cons])
    obtain ⟨middle, absorbs_eq⟩ := front_takes (others ++ rest) alike offset
    obtain ⟨offset', drops_eq⟩ := other_takes rest not_digit middle
    refine ⟨offset', ?_⟩
    rw [List.append_assoc, readDigits, absorbs_eq]
    simp only [drops_eq]

/-! ## Exponents, fractions and numbers -/

section Numbers

variable {strictness : Strictness} {negative : Bool} {number : Number} {text : List Char}
  {offset : Nat} {after : Cursor}

/-- The reader reads nothing, and what it gives does not depend on what comes next. -/
def Stays (reader : Cursor → Read Number) : Prop :=
  ∀ {cursor after : Cursor} {number : Number}, reader cursor = .ok (number, after) →
    after = cursor ∧ ∀ other : Cursor, reader other = .ok (number, other)

private theorem readDouble_stays (strictness : Strictness) (negative : Bool) (significand : Nat)
    (power : Int) : Stays (readDouble strictness negative significand power) := by
  intro cursor after number reading
  unfold readDouble at reading ⊢
  split at reading
  · obtain ⟨rfl, rfl⟩ := Prod.mk.inj (Except.ok.inj reading)
    exact ⟨rfl, fun _ => rfl⟩
  · split at reading
    · simp [Cursor.refuse] at reading
    · next skipped =>
        obtain ⟨rfl, rfl⟩ := Prod.mk.inj (Except.ok.inj reading)
        exact ⟨rfl, fun _ => if_neg skipped⟩

private theorem readPowerSign_takes {down : Bool}
    (reading : readPowerSign ⟨text, offset⟩ = (down, after)) :
    ∃ sign ∈ [[], ['+'], ['-']], text = sign ++ after.rest ∧
      ∀ rest, startsDigit rest = true → ∀ offset, ∃ offset',
        readPowerSign ⟨sign ++ rest, offset⟩ = (down, ⟨rest, offset'⟩) := by
  unfold readPowerSign at reading
  split at reading
  · next rest text_eq =>
      obtain ⟨rfl, rfl⟩ := Prod.mk.inj reading
      exact ⟨['+'], by simp, text_eq, fun rest _ offset => ⟨offset + 1, rfl⟩⟩
  · next rest text_eq =>
      obtain ⟨rfl, rfl⟩ := Prod.mk.inj reading
      exact ⟨['-'], by simp, text_eq, fun rest _ offset => ⟨offset + 1, rfl⟩⟩
  · obtain ⟨rfl, rfl⟩ := Prod.mk.inj reading
    refine ⟨[], by simp, rfl, fun rest digit offset => ⟨offset, ?_⟩⟩
    rw [List.nil_append, readPowerSign]
    split
    · next rest_eq => simp [startsDigit, show rest = _ from rest_eq] at digit
    · next rest_eq => simp [startsDigit, show rest = _ from rest_eq] at digit
    · rfl

/-- The number with an exponent some last digits of which were dropped. -/
def readPowered (strictness : Strictness) (negative : Bool) (significand : Nat) (power : Int)
    (down : Bool) (exponent dropped : Nat) (cursor : Cursor) : Read Number :=
  if dropped = 0 then
    readDouble strictness negative significand
      (if down then power - exponent else power + exponent) cursor
  else if strictness.representable ∧ significand ≠ 0 ∧ ¬ down then
    cursor.refuse .numberOutOfRange
  else .ok (.float ⟨negative, 0, Double.leastExponent⟩, cursor)

private theorem readPowered_stays (strictness : Strictness) (negative : Bool) (significand : Nat)
    (power : Int) (down : Bool) (exponent dropped : Nat) :
    Stays (readPowered strictness negative significand power down exponent dropped) := by
  intro cursor after number reading
  unfold readPowered at reading ⊢
  split at reading
  · next nothing =>
      simpa only [if_pos nothing] using readDouble_stays strictness negative significand _ reading
  · next some_dropped =>
      split at reading
      · simp [Cursor.refuse] at reading
      · next fits =>
          obtain ⟨rfl, rfl⟩ := Prod.mk.inj (Except.ok.inj reading)
          exact ⟨rfl, fun _ => by rw [if_neg some_dropped, if_neg fits]⟩

/-- An exponent is a sign and digits. -/
theorem readExponent_eq_ok {significand : Nat} {power : Int} {cursor between last : Cursor}
    {down : Bool} {exponent count dropped : Nat} (signs : readPowerSign cursor = (down, between))
    (digits : readDigits powerLimit 0 between = (((exponent, count), dropped), last)) :
    readExponent strictness negative significand power cursor = .ok (number, after) ↔
      startsDigit between.rest = true ∧
        readPowered strictness negative significand power down exponent dropped last =
          .ok (number, after) := by
  rcases absorbs : absorbDigits powerLimit 0 0 between with ⟨⟨significand', count'⟩, middle⟩
  have dropped_eq : dropDigits middle = (dropped, last) ∧ significand' = exponent := by
    rw [readDigits, absorbs] at digits
    obtain ⟨⟨⟨rfl, rfl⟩, rfl⟩, rfl⟩ : ((_ ∧ _) ∧ _) ∧ _ := by
      simpa only [Prod.mk.injEq] using digits
    exact ⟨rfl, rfl⟩
  obtain ⟨drops, rfl⟩ := dropped_eq
  obtain ⟨others, middle_eq, other_digits, dropped_eq, ended, -⟩ := dropDigits_takes drops
  unfold readExponent
  simp only [signs]
  split
  · next empty => simp [startsDigit, empty, Cursor.refuse]
  · next character rest rest_eq =>
      have starts_eq : startsDigit between.rest = character.isDigit := by
        rw [rest_eq]
        rfl
      rw [starts_eq]
      split
      · next is_digit =>
          rw [and_iff_right is_digit]
          simp only [absorbs, drops]
          cases others with
          | nil =>
              have middle_ended : startsDigit middle.rest = false := by rwa [middle_eq]
              have middle_drops : dropDigits middle = (0, middle) :=
                dropDigits_go_of_not_digit middle_ended middle.offset
              obtain ⟨rfl, rfl⟩ := Prod.mk.inj (middle_drops.symm.trans drops)
              rw [readPowered, if_pos rfl]
              split
              · next next rest middle_eq =>
                  rw [middle_eq] at middle_ended
                  rw [if_neg (by simpa [startsDigit] using middle_ended)]
              · rfl
          | cons digit others =>
              have digit_eq : digit.isDigit = true := other_digits digit List.mem_cons_self
              have dropped_ne : dropped ≠ 0 := by
                rw [dropped_eq]
                exact Nat.succ_ne_zero _
              simp only [middle_eq, List.cons_append, if_pos digit_eq, readPowered,
                if_neg dropped_ne]
              split
              · simp [Cursor.refuseByte, Cursor.refuse]
              · rfl
      · next not_digit => simp [not_digit, Cursor.refuseByte]

/-- What an exponent reads after its letter. -/
theorem readExponent_takes {significand : Nat} {power : Int}
    (reading : readExponent strictness negative significand power ⟨text, offset⟩ =
      .ok (number, after)) :
    ∃ letters, IsPower letters ∧ text = letters ++ after.rest ∧
      Takes (readExponent strictness negative significand power) endsNumber letters number := by
  rcases signs : readPowerSign ⟨text, offset⟩ with ⟨down, between⟩
  rcases digits_eq : readDigits powerLimit 0 between with ⟨⟨⟨exponent, count⟩, dropped⟩, last⟩
  obtain ⟨starts, powered⟩ := (readExponent_eq_ok signs digits_eq).mp reading
  obtain ⟨rfl, powered_same⟩ := readPowered_stays _ _ _ _ _ _ _ powered
  obtain ⟨sign, sign_mem, text_eq, sign_takes⟩ := readPowerSign_takes signs
  obtain ⟨digits, between_eq, all_digits, -, ended, digits_take⟩ := readDigits_takes digits_eq
  have digits_ne : digits ≠ [] := by
    rintro rfl
    rw [between_eq, List.nil_append, ended] at starts
    simp at starts
  have digits_start (rest : List Char) : startsDigit (digits ++ rest) = true := by
    obtain ⟨digit, others, rfl⟩ := List.exists_cons_of_ne_nil digits_ne
    exact all_digits digit List.mem_cons_self
  refine ⟨sign ++ digits, ⟨sign, digits, sign_mem, ⟨digits_ne, all_digits⟩, rfl⟩, ?_,
    fun rest ends offset => ?_⟩
  · rw [text_eq, between_eq, List.append_assoc]
  · obtain ⟨middle, sign_read⟩ := sign_takes (digits ++ rest) (digits_start rest) offset
    obtain ⟨offset', digits_read⟩ :=
      digits_take rest (startsDigit_of_endsNumber ends) middle
    refine ⟨offset', ?_⟩
    rw [List.append_assoc]
    exact (readExponent_eq_ok sign_read digits_read).mpr ⟨digits_start rest, powered_same _⟩

private theorem IsExponent.head_ne {exponent rest : List Char} (is_exponent : IsExponent exponent)
    (ends : endsNumber rest = true) :
    startsDigit (exponent ++ rest) = false ∧ (exponent ++ rest).head? ≠ some '.' := by
  rcases is_exponent with rfl | ⟨letter, power, rfl | rfl, -, rfl⟩
  · refine ⟨startsDigit_of_endsNumber ends, fun point => ?_⟩
    obtain ⟨others, rfl⟩ := List.head?_eq_some_iff.mp point
    simp [endsNumber] at ends
  · exact ⟨rfl, by simp⟩
  · exact ⟨rfl, by simp⟩

private theorem IsFraction.startsDigit {fraction rest : List Char}
    (is_fraction : IsFraction fraction)
    (ended : startsDigit rest = false) : startsDigit (fraction ++ rest) = false := by
  rcases is_fraction with rfl | ⟨digits, -, rfl⟩
  · exact ended
  · rfl

/-- Read an exponent if there is one, and let another reader give the number if not. -/
def readScaled (strictness : Strictness) (negative : Bool) (significand : Nat) (power : Int)
    (plain : Cursor → Read Number) (cursor : Cursor) : Read Number :=
  match cursor.rest with
  | 'e' :: rest | 'E' :: rest =>
      readExponent strictness negative significand power ⟨rest, cursor.offset + 1⟩
  | _ => plain cursor

private theorem readScaled_takes {significand : Nat} {power : Int} {plain : Cursor → Read Number}
    (stays : Stays plain)
    (reading : readScaled strictness negative significand power plain ⟨text, offset⟩ =
      .ok (number, after)) :
    ∃ exponent, IsExponent exponent ∧ text = exponent ++ after.rest ∧
      Takes (readScaled strictness negative significand power plain) endsNumber exponent
        number := by
  unfold readScaled at reading
  split at reading
  · next rest text_eq =>
      obtain ⟨letters, is_power, rest_eq, takes⟩ := readExponent_takes reading
      refine ⟨'e' :: letters, .inr ⟨'e', letters, .inl rfl, is_power, rfl⟩, ?_,
        fun rest ends offset => takes rest ends (offset + 1)⟩
      rw [List.cons_append, ← rest_eq]
      exact text_eq
  · next rest text_eq =>
      obtain ⟨letters, is_power, rest_eq, takes⟩ := readExponent_takes reading
      refine ⟨'E' :: letters, .inr ⟨'E', letters, .inr rfl, is_power, rfl⟩, ?_,
        fun rest ends offset => takes rest ends (offset + 1)⟩
      rw [List.cons_append, ← rest_eq]
      exact text_eq
  · obtain ⟨rfl, same⟩ := stays reading
    refine ⟨[], .inl rfl, rfl, fun rest ends offset => ⟨offset, ?_⟩⟩
    rw [List.nil_append, readScaled]
    split
    · next others rest_eq =>
        obtain rfl : rest = 'e' :: others := rest_eq
        simp [endsNumber] at ends
    · next others rest_eq =>
        obtain rfl : rest = 'E' :: others := rest_eq
        simp [endsNumber] at ends
    · exact same _

/-- What a fraction reads after its point, together with an exponent. -/
theorem readFraction_takes {significand : Nat} {power : Int}
    (reading : readFraction strictness negative significand power ⟨text, offset⟩ =
      .ok (number, after)) :
    ∃ digits exponent, IsDigits digits ∧ IsExponent exponent ∧
      text = digits ++ exponent ++ after.rest ∧
      Takes (readFraction strictness negative significand power) endsNumber (digits ++ exponent)
        number := by
  rcases digits_eq : readDigits significandLimit significand ⟨text, offset⟩ with
    ⟨⟨⟨significand', count⟩, dropped⟩, last⟩
  have unfolded {cursor last : Cursor}
      (digits_eq : readDigits significandLimit significand cursor =
        (((significand', count), dropped), last)) :
      readFraction strictness negative significand power cursor =
        if count = 0 ∧ dropped = 0 then
          if last.rest.isEmpty then last.refuseNext .endInValue
          else last.refuseNext .invalidNumber
        else
          readScaled strictness negative significand' (power - count)
            (readDouble strictness negative significand' (power - count)) last := by
    simp only [readDigits, Prod.mk.injEq] at digits_eq
    obtain ⟨⟨absorbed_eq, dropped_eq⟩, last_eq⟩ := digits_eq
    unfold readFraction
    simp only [absorbed_eq, dropped_eq, last_eq]
    rfl
  rw [unfolded digits_eq] at reading
  split at reading
  · split at reading
    · simp [Cursor.refuseNext] at reading
    · simp [Cursor.refuseNext] at reading
  · next not_empty =>
      obtain ⟨digits, text_eq, all_digits, length_eq, -, digits_take⟩ := readDigits_takes digits_eq
      obtain ⟨exponent, is_exponent, last_eq, takes⟩ :=
        readScaled_takes (readDouble_stays _ _ _ _) reading
      have digits_ne : digits ≠ [] := by
        rintro rfl
        exact not_empty (by simpa using length_eq)
      refine ⟨digits, exponent, ⟨digits_ne, all_digits⟩, is_exponent, ?_,
        fun rest ends offset => ?_⟩
      · rw [text_eq, last_eq, List.append_assoc]
      · obtain ⟨middle, digits_read⟩ := digits_take (exponent ++ rest)
          (is_exponent.head_ne ends).1 offset
        obtain ⟨offset', scaled⟩ := takes rest ends middle
        exact ⟨offset', by rw [List.append_assoc, unfolded digits_read, if_neg not_empty, scaled]⟩

/-- The number without fraction and exponent, some last digits of which were dropped. -/
def readPlain (strictness : Strictness) (negative : Bool) (significand dropped : Nat)
    (cursor : Cursor) : Read Number :=
  if dropped = 0 then .ok (integerOrDouble negative significand, cursor)
  else readDouble strictness negative significand dropped cursor

private theorem readPlain_stays (strictness : Strictness) (negative : Bool)
    (significand dropped : Nat) :
    Stays (readPlain strictness negative significand dropped) := by
  intro cursor after number reading
  unfold readPlain at reading ⊢
  split at reading
  · next nothing =>
      obtain ⟨rfl, rfl⟩ := Prod.mk.inj (Except.ok.inj reading)
      exact ⟨rfl, fun _ => if_pos nothing⟩
  · next some_dropped =>
      simpa only [if_neg some_dropped] using
        readDouble_stays strictness negative significand dropped reading

private theorem readTail_eq (significand power : Nat) (cursor : Cursor) :
    readTail strictness negative significand power cursor =
      match cursor.rest with
      | '.' :: rest => readFraction strictness negative significand power ⟨rest, cursor.offset + 1⟩
      | _ =>
          readScaled strictness negative significand power
            (readPlain strictness negative significand power) cursor := by
  unfold readTail readScaled readPlain
  split <;> simp_all

/-- What is read after the integer part of a number. -/
theorem readTail_takes {significand power : Nat}
    (reading : readTail strictness negative significand power ⟨text, offset⟩ =
      .ok (number, after)) :
    ∃ fraction exponent, IsFraction fraction ∧ IsExponent exponent ∧
      text = fraction ++ exponent ++ after.rest ∧
      Takes (readTail strictness negative significand power) endsNumber (fraction ++ exponent)
        number := by
  rw [readTail_eq] at reading
  split at reading
  · next rest text_eq =>
      obtain ⟨digits, exponent, is_digits, is_exponent, rest_eq, takes⟩ :=
        readFraction_takes reading
      refine ⟨'.' :: digits, exponent, .inr ⟨digits, is_digits, rfl⟩, is_exponent, ?_,
        fun rest ends offset => takes rest ends (offset + 1)⟩
      rw [List.cons_append, List.cons_append, ← rest_eq]
      exact text_eq
  · obtain ⟨exponent, is_exponent, text_eq, takes⟩ :=
      readScaled_takes (readPlain_stays _ _ _ _) reading
    refine ⟨[], exponent, .inl rfl, is_exponent, text_eq, fun rest ends offset => ?_⟩
    rw [List.nil_append, readTail_eq]
    split
    · next others rest_eq =>
        refine absurd ?_ (is_exponent.head_ne ends).2
        rw [show exponent ++ rest = '.' :: others from rest_eq]
        rfl
    · exact takes rest ends offset

private theorem readNumber_zero {rest : List Char} (ended : startsDigit rest = false)
    (offset : Nat) :
    readNumber strictness negative ⟨'0' :: rest, offset⟩ =
      readTail strictness negative 0 0 ⟨rest, offset + 1⟩ := by
  cases rest with
  | nil => rfl
  | cons following others =>
      have not_digit : following.isDigit = false := ended
      simp [readNumber, not_digit]

private theorem readNumber_digit {character : Char} {rest : List Char}
    (is_digit : character.isDigit = true)
    (not_zero : character ≠ '0') {significand count dropped : Nat} {last : Cursor}
    (digits : readDigits significandLimit 0 ⟨character :: rest, offset⟩ =
      (((significand, count), dropped), last)) :
    readNumber strictness negative ⟨character :: rest, offset⟩ =
      readTail strictness negative significand dropped last := by
  simp only [readDigits, Prod.mk.injEq] at digits
  obtain ⟨⟨absorbed_eq, dropped_eq⟩, last_eq⟩ := digits
  simp only [readNumber, if_neg not_zero, if_pos is_digit, absorbed_eq, dropped_eq, last_eq]

private theorem startsDigit_tail {fraction exponent rest : List Char}
    (is_fraction : IsFraction fraction)
    (is_exponent : IsExponent exponent) (ends : endsNumber rest = true) :
    startsDigit (fraction ++ exponent ++ rest) = false := by
  rw [List.append_assoc]
  exact is_fraction.startsDigit (is_exponent.head_ne ends).1

private theorem readZero_takes
    (reading : readNumber strictness negative ⟨'0' :: text, offset⟩ = .ok (number, after)) :
    ∃ letters, IsUnsigned letters ∧ '0' :: text = letters ++ after.rest ∧
      Takes (readNumber strictness negative) endsNumber letters number := by
  by_cases starts : startsDigit text = true
  · obtain ⟨following, others, rfl⟩ : ∃ following others, text = following :: others := by
      cases text with
      | nil => simp [startsDigit] at starts
      | cons following others => exact ⟨following, others, rfl⟩
    have is_digit : following.isDigit = true := starts
    simp [readNumber, is_digit, Cursor.refuseNext] at reading
  · rw [readNumber_zero (by simpa using starts)] at reading
    obtain ⟨fraction, exponent, is_fraction, is_exponent, text_eq, takes⟩ :=
      readTail_takes reading
    refine ⟨'0' :: (fraction ++ exponent),
      ⟨['0'], fraction, exponent, .inl rfl, is_fraction, is_exponent, rfl⟩, ?_,
      fun rest ends offset => ?_⟩
    · rw [text_eq, List.cons_append]
    · rw [List.cons_append, readNumber_zero (startsDigit_tail is_fraction is_exponent ends)]
      exact takes rest ends (offset + 1)

private theorem readWhole_takes {first : Char} (is_digit : first.isDigit = true)
    (not_zero : first ≠ '0')
    (reading : readNumber strictness negative ⟨first :: text, offset⟩ = .ok (number, after)) :
    ∃ letters, IsUnsigned letters ∧ first :: text = letters ++ after.rest ∧
      Takes (readNumber strictness negative) endsNumber letters number := by
  rcases digits_eq : readDigits significandLimit 0 ⟨first :: text, offset⟩ with
    ⟨⟨⟨significand, count⟩, dropped⟩, last⟩
  rw [readNumber_digit is_digit not_zero digits_eq] at reading
  obtain ⟨digits, text_eq, all_digits, -, ended, digits_take⟩ := readDigits_takes digits_eq
  obtain ⟨fraction, exponent, is_fraction, is_exponent, last_eq, takes⟩ := readTail_takes reading
  obtain ⟨others, rfl⟩ : ∃ others, digits = first :: others := by
    cases digits with
    | nil =>
        rw [← text_eq.trans (List.nil_append _)] at ended
        simp [startsDigit, is_digit] at ended
    | cons digit others => exact ⟨others, by rw [(List.cons.inj text_eq).1]⟩
  refine ⟨first :: others ++ fraction ++ exponent, ⟨_, fraction, exponent,
    .inr ⟨⟨by simp, all_digits⟩, by simpa using not_zero⟩, is_fraction, is_exponent, rfl⟩, ?_,
    fun rest ends offset => ?_⟩
  · rw [text_eq, last_eq]
    simp only [List.append_assoc]
  · obtain ⟨middle, digits_read⟩ :=
      digits_take _ (startsDigit_tail is_fraction is_exponent ends) offset
    obtain ⟨offset', tail_read⟩ := takes rest ends middle
    refine ⟨offset', ?_⟩
    rw [← tail_read, List.append_assoc, List.append_assoc, ← List.append_assoc fraction,
      List.cons_append]
    exact readNumber_digit is_digit not_zero digits_read

private theorem readNumber_takes
    (reading : readNumber strictness negative ⟨text, offset⟩ = .ok (number, after)) :
    ∃ letters, IsUnsigned letters ∧ text = letters ++ after.rest ∧
      Takes (readNumber strictness negative) endsNumber letters number := by
  cases text with
  | nil => simp [readNumber, Cursor.refuse] at reading
  | cons character text =>
      by_cases zero : character = '0'
      · subst zero
        exact readZero_takes reading
      · by_cases is_digit : character.isDigit = true
        · exact readWhole_takes is_digit zero reading
        · simp [readNumber, zero, is_digit, Cursor.refuseByte] at reading

/-- Read a number with its sign. -/
def readSigned (strictness : Strictness) (cursor : Cursor) : Read Number :=
  match cursor.rest with
  | '-' :: rest => readNumber strictness true ⟨rest, cursor.offset + 1⟩
  | _ => readNumber strictness false cursor

theorem readSigned_unsigned {cursor : Cursor} {first : Char} {rest : List Char}
    (rest_eq : cursor.rest = first :: rest) (not_minus : first ≠ '-') :
    readSigned strictness cursor = readNumber strictness false cursor := by
  rw [readSigned, rest_eq]
  split
  · next others minus => exact absurd (List.cons.inj minus).1 not_minus
  · rfl

theorem readSigned_takes
    (reading : readSigned strictness ⟨text, offset⟩ = .ok (number, after)) :
    ∃ letters, IsNumeral letters ∧ text = letters ++ after.rest ∧
      Takes (readSigned strictness) endsNumber letters number := by
  unfold readSigned at reading
  split at reading
  · next rest text_eq =>
      obtain ⟨letters, unsigned, rest_eq, takes⟩ := readNumber_takes reading
      refine ⟨'-' :: letters, .inr ⟨letters, unsigned, rfl⟩, ?_,
        fun rest ends offset => takes rest ends (offset + 1)⟩
      rw [show text = _ from text_eq, rest_eq, List.cons_append]
  · obtain ⟨letters, unsigned, text_eq, takes⟩ := readNumber_takes reading
    refine ⟨letters, .inl unsigned, text_eq, fun rest ends offset => ?_⟩
    obtain ⟨digit, others, rfl, is_digit⟩ := unsigned.head
    have not_minus : digit ≠ '-' := by
      rintro rfl
      simp at is_digit
    rw [readSigned_unsigned rfl not_minus]
    exact takes rest ends offset

end Numbers

end Json
end LintBus

import LintBus.Proofs.Json.Quotation

/-!
# Where a text is refused

A cursor counts the bytes that were read, so the bytes before it and those of what is left are those
of the whole text, wherever a reader stops.  A flaw is noticed at one of these bytes, or at the end
of the text.
-/

namespace LintBus
namespace Json

/-- Number of bytes of the text, those read and those left. -/
def Cursor.size (cursor : Cursor) : Nat := cursor.offset + byteCount cursor.rest

/-- The reader goes on in a text of so many bytes, or refuses it at one of them or at its end. -/
def Within {α : Type} (size : Nat) : Read α → Prop
  | .ok (_, after) => after.size = size
  | .error error => error.offset ≤ size

section Within

variable {α β : Type} {size : Nat} {reading : Read α}

private theorem within_of_refused {error : ReadError} (within : Within size reading)
    (refused : reading = .error error) : Within size (.error error : Read β) := by
  rw [refused] at within
  exact within

private theorem size_of_found {value : α} {after : Cursor} (within : Within size reading)
    (found : reading = .ok (value, after)) : after.size = size := by
  rw [found] at within
  exact within

end Within

/-! ## Steps in a text -/

private theorem utf8Size_of_toNat_le {character : Char} (ascii : character.toNat ≤ 127) :
    character.utf8Size = 1 := Char.utf8Size_eq_one_iff.mpr (UInt32.le_iff_toNat_le.mpr ascii)

private theorem utf8Size_of_isDigit {character : Char} (digit : character.isDigit = true) :
    character.utf8Size = 1 := by
  simp only [Char.isDigit, ge_iff_le, Bool.and_eq_true, decide_eq_true_eq,
    UInt32.le_iff_toNat_le] at digit
  exact utf8Size_of_toNat_le (Nat.le_trans digit.2 (by decide))

private theorem utf8Size_of_hexDigit? {character : Char} {digit : Nat}
    (hexadecimal : hexDigit? character = some digit) : character.utf8Size = 1 := by
  rw [hexDigit?] at hexadecimal
  split at hexadecimal
  · next digit => exact utf8Size_of_isDigit digit
  · split at hexadecimal
    · next small => exact utf8Size_of_toNat_le (Nat.le_trans (Char.le_def.mp small.2) (by decide))
    · split at hexadecimal
      · next great => exact utf8Size_of_toNat_le (Nat.le_trans (Char.le_def.mp great.2) (by decide))
      · simp at hexadecimal

private theorem utf8Size_of_shortEscape? {character escaped : Char}
    (known : shortEscape? character = some escaped) : character.utf8Size = 1 := by
  fun_cases shortEscape? character with
  | case1 | case2 | case3 | case4 | case5 | case6 | case7 | case8 => rfl
  | case9 => simp [shortEscape?, *] at known

section Steps

variable {α : Type} (cursor : Cursor) {character : Char} {rest : List Char}

private theorem size_next (rest_eq : cursor.rest = character :: rest)
    (one : character.utf8Size = 1) :
    (Cursor.mk rest (cursor.offset + 1)).size = cursor.size := by
  simp only [Cursor.size, rest_eq, byteCount, one]
  omega

private theorem size_character (rest_eq : cursor.rest = character :: rest) :
    (Cursor.mk rest (cursor.offset + character.utf8Size)).size = cursor.size := by
  simp only [Cursor.size, rest_eq, byteCount]
  omega

private theorem within_refuse (flaw : Flaw) :
    Within cursor.size (cursor.refuse flaw : Read α) := Nat.le_add_right _ _

private theorem within_refuseByte (rest_eq : cursor.rest = character :: rest) (flaw : Flaw) :
    Within cursor.size (cursor.refuseByte flaw : Read α) := by
  have := character.utf8Size_pos
  simp only [Cursor.refuseByte, Within, Cursor.size, rest_eq, byteCount]
  omega

private theorem within_refuseNext (flaw : Flaw) :
    Within cursor.size (cursor.refuseNext flaw : Read α) := by
  cases rest_eq : cursor.rest with
  | nil => simp [Cursor.refuseNext, Within, Cursor.size, rest_eq]
  | cons character rest =>
      have := character.utf8Size_pos
      simp only [Cursor.refuseNext, Within, Cursor.size, rest_eq, byteCount, List.isEmpty_cons]
      simp only [Bool.false_eq_true, if_false]
      omega

end Steps

private theorem size_skipBlank (cursor : Cursor) : cursor.skipBlank.size = cursor.size := by
  have go_size (text : List Char) (offset : Nat) :
      (Cursor.skipBlank.go text offset).size = (Cursor.mk text offset).size := by
    induction text generalizing offset with
    | nil => rfl
    | cons character rest induction =>
        rw [Cursor.skipBlank.go]
        split
        · next blank =>
            have one : character.utf8Size = 1 := by
              rcases blank with rfl | rfl | rfl | rfl
              all_goals rfl
            exact (induction _).trans (size_next ⟨character :: rest, offset⟩ rfl one)
        · rfl
  exact go_size cursor.rest cursor.offset

private theorem readLetters_within {α : Type} (value : α) (letters : List Char) (cursor : Cursor) :
    Within cursor.size (readLetters value letters cursor) := by
  induction letters generalizing cursor with
  | nil => exact rfl
  | cons letter letters induction =>
      rw [readLetters]
      split
      · exact within_refuse cursor _
      · next character rest rest_eq =>
          split
          · rw [← size_character cursor rest_eq]
            exact induction _
          · exact within_refuseByte cursor rest_eq _

/-! ## Numbers -/

private theorem size_absorbDigits {limit significand count : Nat} {absorbed : Nat × Nat}
    {cursor after : Cursor}
    (absorbs : absorbDigits limit significand count cursor = (absorbed, after)) :
    after.size = cursor.size := by
  have go_size (text : List Char) (significand count offset : Nat) :
      (absorbDigits.go limit significand count text offset).2.size =
        (Cursor.mk text offset).size := by
    induction text generalizing significand count offset with
    | nil => rfl
    | cons character rest induction =>
        rw [absorbDigits.go]
        split
        · rfl
        · next is_digit =>
            split
            · rfl
            · have one := utf8Size_of_isDigit (isDigit_of_digit? is_digit)
              exact (induction _ _ _).trans (size_next ⟨character :: rest, offset⟩ rfl one)
  have size_eq := go_size cursor.rest significand count cursor.offset
  rwa [← absorbDigits, absorbs] at size_eq

private theorem size_dropDigits {dropped : Nat} {cursor after : Cursor}
    (drops : dropDigits cursor = (dropped, after)) : after.size = cursor.size := by
  have go_size (text : List Char) (count offset : Nat) :
      (dropDigits.go count text offset).2.size = (Cursor.mk text offset).size := by
    induction text generalizing count offset with
    | nil => rfl
    | cons character rest induction =>
        rw [dropDigits.go]
        split
        · next digit =>
            have one := utf8Size_of_isDigit digit
            exact (induction _ _).trans (size_next ⟨character :: rest, offset⟩ rfl one)
        · rfl
  have size_eq := go_size cursor.rest 0 cursor.offset
  rwa [← dropDigits, drops] at size_eq

private theorem size_readPowerSign {down : Bool} {cursor after : Cursor}
    (signed : readPowerSign cursor = (down, after)) : after.size = cursor.size := by
  unfold readPowerSign at signed
  split at signed
  · next rest rest_eq =>
      obtain ⟨-, rfl⟩ := Prod.mk.inj signed
      exact size_next cursor rest_eq rfl
  · next rest rest_eq =>
      obtain ⟨-, rfl⟩ := Prod.mk.inj signed
      exact size_next cursor rest_eq rfl
  · obtain ⟨-, rfl⟩ := Prod.mk.inj signed
    rfl

section Numbers

variable (strictness : Strictness) (negative : Bool)

private theorem readDouble_within (significand : Nat) (power : Int) (cursor : Cursor) :
    Within cursor.size (readDouble strictness negative significand power cursor) := by
  rw [readDouble]
  split
  · exact rfl
  · split
    · exact within_refuse cursor _
    · exact rfl

private theorem readExponent_within (significand : Nat) (power : Int) (cursor : Cursor) :
    Within cursor.size (readExponent strictness negative significand power cursor) := by
  unfold readExponent
  rcases signed : readPowerSign cursor with ⟨down, between⟩
  rw [← size_readPowerSign signed]
  simp only
  split
  · exact within_refuse between _
  · next character rest rest_eq =>
      split
      · rcases absorbs : absorbDigits powerLimit 0 0 between with ⟨⟨exponent, count⟩, after⟩
        rw [← size_absorbDigits absorbs]
        simp only
        split
        · next next others others_eq =>
            split
            · split
              · exact within_refuseByte after others_eq _
              · exact size_dropDigits rfl
            · exact readDouble_within strictness negative _ _ after
        · exact readDouble_within strictness negative _ _ after
      · exact within_refuseByte between rest_eq _

private theorem readFraction_within (significand : Nat) (power : Int) (cursor : Cursor) :
    Within cursor.size (readFraction strictness negative significand power cursor) := by
  unfold readFraction
  rcases absorbs : absorbDigits significandLimit significand 0 cursor with
    ⟨⟨absorbed, count⟩, between⟩
  simp only
  rcases drops : dropDigits between with ⟨dropped, after⟩
  rw [← size_absorbDigits absorbs, ← size_dropDigits drops]
  simp only
  split
  · split
    · exact within_refuseNext after _
    · exact within_refuseNext after _
  · split
    · next rest rest_eq =>
        rw [← size_next after rest_eq rfl]
        exact readExponent_within strictness negative _ _ _
    · next rest rest_eq =>
        rw [← size_next after rest_eq rfl]
        exact readExponent_within strictness negative _ _ _
    · exact readDouble_within strictness negative _ _ after

private theorem readTail_within (significand power : Nat) (cursor : Cursor) :
    Within cursor.size (readTail strictness negative significand power cursor) := by
  unfold readTail
  split
  · next rest rest_eq =>
      rw [← size_next cursor rest_eq rfl]
      exact readFraction_within strictness negative _ _ _
  · next rest rest_eq =>
      rw [← size_next cursor rest_eq rfl]
      exact readExponent_within strictness negative _ _ _
  · next rest rest_eq =>
      rw [← size_next cursor rest_eq rfl]
      exact readExponent_within strictness negative _ _ _
  · split
    · exact rfl
    · exact readDouble_within strictness negative _ _ cursor

private theorem readNumber_within (cursor : Cursor) :
    Within cursor.size (readNumber strictness negative cursor) := by
  unfold readNumber
  split
  · exact within_refuse cursor _
  · next character rest rest_eq =>
      split
      · next zero =>
          rw [zero] at rest_eq
          rw [← size_next cursor rest_eq rfl]
          simp only
          split
          · split
            · exact within_refuseNext _ _
            · exact readTail_within strictness negative _ _ _
          · exact readTail_within strictness negative _ _ _
      · split
        · rcases absorbs : absorbDigits significandLimit 0 0 cursor with
            ⟨⟨significand, count⟩, between⟩
          simp only
          rcases drops : dropDigits between with ⟨dropped, after⟩
          rw [← size_absorbDigits absorbs, ← size_dropDigits drops]
          exact readTail_within strictness negative _ _ after
        · exact within_refuseByte cursor rest_eq _

end Numbers

/-! ## Strings -/

private theorem byteCount_append (text other : List Char) :
    byteCount (text ++ other) = byteCount text + byteCount other := by
  induction text with
  | nil => simp [byteCount]
  | cons character text induction =>
      rw [List.cons_append, byteCount, byteCount, induction, Nat.add_assoc]

private theorem readHex_within (cursor : Cursor) : Within cursor.size (readHex cursor) := by
  have refused : Within cursor.size
      (if byteCount (cursor.rest.take 4) < 4 then
        .error ⟨.endInString, cursor.offset + byteCount cursor.rest⟩
      else .error ⟨.invalidEscape, cursor.offset + 4⟩ : Read Nat) := by
    split
    · exact Nat.le_refl _
    · have all := byteCount_append (cursor.rest.take 4) (cursor.rest.drop 4)
      rw [List.take_append_drop] at all
      simp only [Within, Cursor.size]
      omega
  unfold readHex
  simp only
  split
  · next first second third fourth rest rest_eq =>
      split
      · next first_eq second_eq third_eq fourth_eq =>
          have := utf8Size_of_hexDigit? first_eq
          have := utf8Size_of_hexDigit? second_eq
          have := utf8Size_of_hexDigit? third_eq
          have := utf8Size_of_hexDigit? fourth_eq
          simp only [Within, Cursor.size, rest_eq, byteCount]
          omega
      · exact refused
  · exact refused

private theorem readTrailing_within (leading : Nat) (cursor : Cursor) :
    Within cursor.size (readTrailing leading cursor) := by
  unfold readTrailing
  split
  · exact within_refuse cursor _
  · next rest rest_eq =>
      rw [← size_next cursor rest_eq rfl]
      simp only
      split
      · exact within_refuse _ _
      · next others =>
          rw [← size_next ⟨'u' :: others, cursor.offset + 1⟩ rfl rfl]
          split
          · next error refused => exact within_of_refused (readHex_within _) refused
          · next trailing after found =>
              rw [← size_of_found (readHex_within _) found]
              split
              · exact rfl
              · exact within_refuse after _
      · next not_nil _ =>
          obtain ⟨character, others, rest_eq⟩ := List.exists_cons_of_ne_nil not_nil
          exact within_refuseByte _ rest_eq _
  · next not_nil _ =>
      obtain ⟨character, others, rest_eq⟩ := List.exists_cons_of_ne_nil not_nil
      exact within_refuseByte _ rest_eq _

variable (strictness : Strictness)

private theorem readUnicode_within (cursor : Cursor) :
    Within cursor.size (readUnicode strictness cursor) := by
  unfold readUnicode
  split
  · next error refused => exact within_of_refused (readHex_within cursor) refused
  · next unit after found =>
      rw [← size_of_found (readHex_within cursor) found]
      split
      · exact rfl
      · split
        · exact within_refuse after _
        · split
          · exact readTrailing_within unit after
          · exact rfl

private theorem readEscape_within (cursor : Cursor) :
    Within cursor.size (readEscape strictness cursor) := by
  unfold readEscape
  split
  · exact within_refuse cursor _
  · next rest rest_eq =>
      rw [← size_next cursor rest_eq rfl]
      exact readUnicode_within strictness _
  · next character rest _ rest_eq =>
      split
      · next escaped known => exact size_next cursor rest_eq (utf8Size_of_shortEscape? known)
      · exact within_refuseByte cursor rest_eq _

private theorem readStringBody_within (steps : Nat) (read : List Char) (cursor : Cursor) :
    Within cursor.size (readStringBody strictness steps read cursor) := by
  induction steps generalizing read cursor with
  | zero => exact within_refuse cursor _
  | succ steps induction =>
      rw [readStringBody]
      split
      · exact within_refuse cursor _
      · next rest rest_eq => exact size_next cursor rest_eq rfl
      · next rest rest_eq =>
          rw [← size_next cursor rest_eq rfl]
          split
          · next error refused => exact within_of_refused (readEscape_within strictness _) refused
          · next character after found =>
              rw [← size_of_found (readEscape_within strictness _) found]
              exact induction _ after
      · next character rest _ _ rest_eq =>
          split
          · exact within_refuseByte cursor rest_eq _
          · rw [← size_character cursor rest_eq]
            exact induction _ _

private theorem readString_within (cursor : Cursor) :
    Within cursor.size (readString strictness cursor) :=
  readStringBody_within strictness _ [] cursor

/-! ## Values -/

private theorem readColon_within (cursor : Cursor) : Within cursor.size (readColon cursor) := by
  rw [← size_skipBlank]
  unfold readColon
  simp only
  split
  · next rest rest_eq => exact size_next _ rest_eq rfl
  · exact within_refuseNext _ _
  · exact within_refuseNext _ _

/-- With so many steps values and rows are read within the text. -/
structure WithinAt (steps : Nat) : Prop where
  value (depth : Nat) (cursor : Cursor) :
    Within cursor.size (readValue strictness steps depth cursor)
  items (depth : Nat) (read : List Value) (cursor : Cursor) :
    Within cursor.size (readItems strictness steps depth read cursor)
  entries (depth : Nat) (read : Entries) (cursor : Cursor) :
    Within cursor.size (readEntries strictness steps depth read cursor)

namespace WithinAt

variable {strictness : Strictness} {steps : Nat}

private theorem value_succ (within : WithinAt strictness steps) (depth : Nat) (cursor : Cursor) :
    Within cursor.size (readValue strictness (steps + 1) depth cursor) := by
  rw [readValue, ← size_skipBlank cursor]
  simp only
  split
  · exact within_refuseNext _ _
  · next rest rest_eq =>
      rw [← size_next _ rest_eq rfl]
      exact readLetters_within _ _ _
  · next rest rest_eq =>
      rw [← size_next _ rest_eq rfl]
      exact readLetters_within _ _ _
  · next rest rest_eq =>
      rw [← size_next _ rest_eq rfl]
      exact readLetters_within _ _ _
  · next rest rest_eq =>
      rw [← size_next _ rest_eq rfl]
      split
      · next error refused => exact within_of_refused (readString_within strictness _) refused
      · next text after found =>
          rw [← size_of_found (readString_within strictness _) found]
          exact rfl
  · next rest rest_eq =>
      split
      · exact within_refuseNext _ _
      · rw [← size_next _ rest_eq rfl, ← size_skipBlank]
        split
        · exact within_refuseNext _ _
        · next others others_eq => exact size_next _ others_eq rfl
        · exact within.items _ _ _
  · next rest rest_eq =>
      split
      · exact within_refuseNext _ _
      · rw [← size_next _ rest_eq rfl, ← size_skipBlank]
        split
        · exact within_refuseNext _ _
        · next others others_eq => exact size_next _ others_eq rfl
        · exact within.entries _ _ _
  · next character rest _ _ _ _ _ _ rest_eq =>
      split
      · next minus =>
          rw [← size_next _ rest_eq (minus ▸ rfl)]
          split
          · next error refused =>
              exact within_of_refused (readNumber_within strictness true _) refused
          · next number after found =>
              rw [← size_of_found (readNumber_within strictness true _) found]
              exact rfl
      · split
        · split
          · next error refused =>
              exact within_of_refused (readNumber_within strictness false _) refused
          · next number after found =>
              rw [← size_of_found (readNumber_within strictness false _) found]
              exact rfl
        · exact within_refuseNext _ _

private theorem items_succ (within : WithinAt strictness steps) (depth : Nat) (read : List Value)
    (cursor : Cursor) :
    Within cursor.size (readItems strictness (steps + 1) depth read cursor) := by
  rw [readItems]
  split
  · next error refused => exact within_of_refused (within.value depth cursor) refused
  · next item after found =>
      rw [← size_of_found (within.value depth cursor) found]
      rw [← size_skipBlank after]
      simp only
      split
      · exact within_refuseNext _ _
      · next rest rest_eq => exact size_next _ rest_eq rfl
      · next rest rest_eq =>
          rw [← size_next _ rest_eq rfl, ← size_skipBlank]
          split
          · exact within_refuseNext _ _
          · exact within_refuseNext _ _
          · exact within.items _ _ _
      · exact within_refuseNext _ _

private theorem entries_succ (within : WithinAt strictness steps) (depth : Nat) (read : Entries)
    (cursor : Cursor) :
    Within cursor.size (readEntries strictness (steps + 1) depth read cursor) := by
  rw [readEntries]
  split
  · next rest rest_eq =>
      rw [← size_next _ rest_eq rfl]
      split
      · next error refused => exact within_of_refused (readString_within strictness _) refused
      · next key after_key found =>
          rw [← size_of_found (readString_within strictness _) found]
          split
          · next error refused => exact within_of_refused (readColon_within after_key) refused
          · next _ after_colon found =>
              rw [← size_of_found (readColon_within after_key) found]
              split
              · next error refused =>
                  exact within_of_refused (within.value depth after_colon) refused
              · next value after found =>
                  rw [← size_of_found (within.value depth after_colon) found]
                  rw [← size_skipBlank after]
                  simp only
                  split
                  · exact within_refuseNext _ _
                  · next rest rest_eq => exact size_next _ rest_eq rfl
                  · next rest rest_eq =>
                      rw [← size_next _ rest_eq rfl, ← size_skipBlank]
                      split
                      · exact within_refuseNext _ _
                      · exact within_refuseNext _ _
                      · exact within.entries _ _ _
                  · exact within_refuseNext _ _
  · exact within_refuseNext _ _

end WithinAt

private theorem withinAt (steps : Nat) : WithinAt strictness steps := by
  induction steps with
  | zero =>
      refine ⟨fun depth cursor => ?_, fun depth read cursor => ?_, fun depth read cursor => ?_⟩
      · rw [readValue]
        exact within_refuseNext cursor _
      · rw [readItems]
        exact within_refuseNext cursor _
      · rw [readEntries]
        exact within_refuseNext cursor _
  | succ steps within => exact ⟨within.value_succ, within.items_succ, within.entries_succ⟩

/-- A text is refused at one of its bytes or at its end. -/
theorem offset_le_of_read {source : String} {error : ReadError}
    (refused : read source = .error error) : error.offset ≤ byteCount source.toList := by
  have front : Within (Cursor.ofString source).size
      (readFront .full depthLimit (.ofString source)) := (withinAt .full _).value depthLimit _
  rw [read, readText] at refused
  have size_eq : (Cursor.ofString source).size = byteCount source.toList := Nat.zero_add _
  rw [← size_eq]
  split at refused
  · next inner front_refused =>
      obtain rfl := Except.error.inj refused
      rw [front_refused] at front
      exact front
  · next value after found =>
      rw [← size_of_found front found, ← size_skipBlank]
      simp only at refused
      split at refused
      · simp at refused
      · obtain rfl := Except.error.inj refused
        have noticed : Within after.skipBlank.size
            (after.skipBlank.refuseNext .trailingCharacters : Read Value) :=
          within_refuseNext after.skipBlank _
        exact noticed

end Json
end LintBus

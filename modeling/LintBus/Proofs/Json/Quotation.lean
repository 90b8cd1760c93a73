import LintBus.Proofs.Json.Numeral

/-!
# Strings read from a text

A reader that takes a string off a text has read characters and escapes up to the first quote that
is not escaped, and it would have read the same string from every text that begins with them.
-/

namespace LintBus
namespace Json

/-- No quote in the text is left without a backslash, and its last backslash is followed. -/
inductive IsQuoted : List Char → Prop
  | nil : IsQuoted []
  | plain {character : Char} {body : List Char} (not_quote : character ≠ '"')
      (not_escape : character ≠ '\\') (quoted : IsQuoted body) : IsQuoted (character :: body)
  | escape (character : Char) {body : List Char} (quoted : IsQuoted body) :
      IsQuoted ('\\' :: character :: body)

/-- A text has one end of a string at most. -/
theorem IsQuoted.unique {body other rest others : List Char} (quoted : IsQuoted body)
    (other_quoted : IsQuoted other) (same : body ++ '"' :: rest = other ++ '"' :: others) :
    body = other ∧ rest = others := by
  induction quoted generalizing other with
  | nil =>
      cases other_quoted with
      | nil => exact ⟨rfl, (List.cons.inj same).2⟩
      | plain not_quote => exact absurd (List.cons.inj same).1.symm not_quote
      | escape => simp at same
  | plain not_quote not_escape _ induction =>
      cases other_quoted with
      | nil => exact absurd (List.cons.inj same).1 not_quote
      | plain _ _ other_quoted =>
          obtain ⟨rfl, rest_same⟩ := List.cons.inj same
          obtain ⟨rfl, rfl⟩ := induction other_quoted rest_same
          exact ⟨rfl, rfl⟩
      | escape => exact absurd (List.cons.inj same).1 not_escape
  | escape character _ induction =>
      cases other_quoted with
      | nil => simp at same
      | plain _ not_escape => exact absurd (List.cons.inj same).1.symm not_escape
      | escape other other_quoted =>
          obtain ⟨rfl, rest_same⟩ := List.cons.inj (List.cons.inj same).2
          obtain ⟨rfl, rfl⟩ := induction other_quoted rest_same
          exact ⟨rfl, rfl⟩

/-- The characters between the quotes of a string. -/
inductive IsString : List Char → Prop
  | nil : IsString []
  | plain {character : Char} {body : List Char} (not_quote : character ≠ '"')
      (not_escape : character ≠ '\\') (not_control : 0x20 ≤ character.toNat)
      (string : IsString body) : IsString (character :: body)
  | short {character : Char} {body : List Char} (known : (shortEscape? character).isSome = true)
      (string : IsString body) : IsString ('\\' :: character :: body)
  | unicode {first second third fourth : Char} {body : List Char}
      (digits : ∀ digit ∈ [first, second, third, fourth], (hexDigit? digit).isSome = true)
      (string : IsString body) :
      IsString ('\\' :: 'u' :: first :: second :: third :: fourth :: body)

private theorem ne_of_hexDigit? {character : Char}
    (hexadecimal : (hexDigit? character).isSome = true) :
    character ≠ '"' ∧ character ≠ '\\' := by
  constructor
  · rintro rfl
    simp [hexDigit?] at hexadecimal
  · rintro rfl
    simp [hexDigit?] at hexadecimal

theorem IsString.isQuoted {body : List Char} (string : IsString body) : IsQuoted body := by
  induction string with
  | nil => exact .nil
  | plain not_quote not_escape _ _ quoted => exact .plain not_quote not_escape quoted
  | short _ _ quoted => exact .escape _ quoted
  | @unicode first second third fourth body digits _ quoted =>
      have plain {digit : Char} {rest : List Char}
          (found : digit ∈ [first, second, third, fourth]) (quoted : IsQuoted rest) :
          IsQuoted (digit :: rest) := by
        obtain ⟨not_quote, not_escape⟩ := ne_of_hexDigit? (digits digit found)
        exact .plain not_quote not_escape quoted
      apply IsQuoted.escape
      exact plain (by simp) (plain (by simp) (plain (by simp) (plain (by simp) quoted)))

section Escapes

variable {strictness : Strictness} {text : List Char} {offset : Nat} {after : Cursor}

private theorem readHex_takes {unit : Nat} (reading : readHex ⟨text, offset⟩ = .ok (unit, after)) :
    ∃ first second third fourth,
      (∀ digit ∈ [first, second, third, fourth], (hexDigit? digit).isSome = true) ∧
      text = [first, second, third, fourth] ++ after.rest ∧
      ∀ rest offset, readHex ⟨[first, second, third, fourth] ++ rest, offset⟩ =
        .ok (unit, ⟨rest, offset + 4⟩) := by
  unfold readHex at reading
  simp only at reading
  split at reading
  · next first second third fourth rest =>
      split at reading
      · next one two three four first_eq second_eq third_eq fourth_eq =>
          obtain ⟨rfl, rfl⟩ := Prod.mk.inj (Except.ok.inj reading)
          refine ⟨first, second, third, fourth, ?_, rfl, fun rest offset => ?_⟩
          · simp [first_eq, second_eq, third_eq, fourth_eq]
          · simp [readHex, first_eq, second_eq, third_eq, fourth_eq]
      · split at reading <;> simp at reading
  · split at reading <;> simp at reading

/-- After every text the reader takes the letters off. -/
abbrev TakesAll {α : Type} (reader : Cursor → Read α) (letters : List Char) (value : α) : Prop :=
  Takes reader (fun _ => true) letters value

/-- The letters are what comes after the backslash of an escape, or of two. -/
def IsEscape (letters : List Char) : Prop :=
  ∀ body, IsString body → IsString ('\\' :: (letters ++ body))

private theorem isEscape_unicode {first second third fourth : Char}
    (digits : ∀ digit ∈ [first, second, third, fourth], (hexDigit? digit).isSome = true) :
    IsEscape ('u' :: [first, second, third, fourth]) := fun _ string => .unicode digits string

private theorem IsEscape.pair {letters others : List Char} (one : IsEscape letters)
    (other : IsEscape others) : IsEscape (letters ++ '\\' :: others) := by
  intro body string
  rw [List.append_assoc]
  exact one _ (other body string)

/-- The second half of a surrogate pair is an escape of its own. -/
theorem readTrailing_takes {leading : Nat} {character : Char}
    (reading : readTrailing leading ⟨text, offset⟩ = .ok (character, after)) :
    ∃ letters, IsEscape letters ∧ text = '\\' :: letters ++ after.rest ∧
      TakesAll (readTrailing leading) ('\\' :: letters) character := by
  unfold readTrailing at reading
  split at reading
  · simp [Cursor.refuse] at reading
  · next rest text_eq =>
      simp only at reading
      split at reading
      · simp [Cursor.refuse] at reading
      · next rest =>
          split at reading
          · simp at reading
          · next trailing cursor hex =>
              obtain ⟨first, second, third, fourth, digits, rest_eq, takes⟩ := readHex_takes hex
              split at reading
              · next paired =>
                  obtain ⟨rfl, rfl⟩ := Prod.mk.inj (Except.ok.inj reading)
                  refine ⟨_, isEscape_unicode digits, ?_, fun rest _ offset => ⟨offset + 6, ?_⟩⟩
                  · rw [show text = _ from text_eq, rest_eq]
                    rfl
                  · have hex_read := takes rest (offset + 2)
                    simp only [List.cons_append, List.nil_append] at hex_read ⊢
                    simp only [readTrailing, hex_read, if_pos paired]
              · simp [Cursor.refuse] at reading
      · simp [Cursor.refuseByte] at reading
  · simp [Cursor.refuseByte] at reading

/-- A numeric escape, or two that stand for one character. -/
theorem readUnicode_takes {character : Char}
    (reading : readUnicode strictness ⟨text, offset⟩ = .ok (character, after)) :
    ∃ letters, IsEscape ('u' :: letters) ∧ text = letters ++ after.rest ∧
      TakesAll (readUnicode strictness) letters character := by
  unfold readUnicode at reading
  split at reading
  · simp at reading
  · next unit cursor hex =>
      obtain ⟨first, second, third, fourth, digits, text_eq, takes⟩ := readHex_takes hex
      have alone {rest : List Char} {offset : Nat} :
          readUnicode strictness ⟨[first, second, third, fourth] ++ rest, offset⟩ =
            if ¬ strictness.representable then .ok (Char.ofNat unit, ⟨rest, offset + 4⟩)
            else if isTrailing unit then Cursor.refuse ⟨rest, offset + 4⟩ .loneSurrogate
            else if isLeading unit then readTrailing unit ⟨rest, offset + 4⟩
            else .ok (Char.ofNat unit, ⟨rest, offset + 4⟩) := by
        rw [readUnicode, takes]
      split at reading
      · next lax =>
          obtain ⟨rfl, rfl⟩ := Prod.mk.inj (Except.ok.inj reading)
          exact ⟨_, isEscape_unicode digits, text_eq, fun rest _ offset =>
            ⟨offset + 4, by rw [alone, if_pos lax]⟩⟩
      · next strict =>
          split at reading
          · simp [Cursor.refuse] at reading
          · next not_trailing =>
              split at reading
              · next leading =>
                  obtain ⟨letters, is_escape, rest_eq, trailing_takes⟩ := readTrailing_takes reading
                  refine ⟨[first, second, third, fourth] ++ '\\' :: letters,
                    (isEscape_unicode digits).pair is_escape, ?_, fun rest suits offset => ?_⟩
                  · rw [text_eq, rest_eq, List.append_assoc]
                  · obtain ⟨offset', trailing_read⟩ := trailing_takes rest suits (offset + 4)
                    refine ⟨offset', ?_⟩
                    rw [List.append_assoc, alone, if_neg strict, if_neg not_trailing,
                      if_pos leading, trailing_read]
              · next not_leading =>
                  obtain ⟨rfl, rfl⟩ := Prod.mk.inj (Except.ok.inj reading)
                  refine ⟨_, isEscape_unicode digits, text_eq, fun rest _ offset =>
                    ⟨offset + 4, ?_⟩⟩
                  rw [alone, if_neg strict, if_neg not_trailing, if_neg not_leading]

/-- An escape is read after its backslash. -/
theorem readEscape_takes {character : Char}
    (reading : readEscape strictness ⟨text, offset⟩ = .ok (character, after)) :
    ∃ letters, IsEscape letters ∧ text = letters ++ after.rest ∧
      TakesAll (readEscape strictness) letters character := by
  unfold readEscape at reading
  split at reading
  · simp [Cursor.refuse] at reading
  · next rest text_eq =>
      obtain ⟨letters, is_escape, rest_eq, takes⟩ := readUnicode_takes reading
      refine ⟨'u' :: letters, is_escape, ?_, fun rest suits offset =>
        takes rest suits (offset + 1)⟩
      rw [show text = _ from text_eq, rest_eq, List.cons_append]
  · next short rest not_unicode text_eq =>
      split at reading
      · next escaped known =>
          obtain ⟨rfl, rfl⟩ := Prod.mk.inj (Except.ok.inj reading)
          refine ⟨[short], fun body string => .short (by simp [known]) string, text_eq,
            fun rest _ offset => ⟨offset + 1, ?_⟩⟩
          simp only [List.cons_append, List.nil_append, readEscape, known]
      · simp [Cursor.refuseByte] at reading

end Escapes

/-- A string is read up to its closing quote, whatever comes after it.  The induction is on the
steps: each of them reads a character or an escape. -/
theorem readStringBody_takes {strictness : Strictness} {steps : Nat} {read text : List Char}
    {offset : Nat} {string : String} {after : Cursor}
    (reading : readStringBody strictness steps read ⟨text, offset⟩ = .ok (string, after)) :
    ∃ body, IsString body ∧ text = body ++ '"' :: after.rest ∧
      ∀ steps, body.length < steps → ∀ rest offset, ∃ offset',
        readStringBody strictness steps read ⟨body ++ '"' :: rest, offset⟩ =
          .ok (string, ⟨rest, offset'⟩) := by
  induction steps generalizing read text offset with
  | zero => simp [readStringBody, Cursor.refuse] at reading
  | succ steps induction =>
      unfold readStringBody at reading
      split at reading
      · simp [Cursor.refuse] at reading
      · next rest text_eq =>
          obtain ⟨rfl, rfl⟩ := Prod.mk.inj (Except.ok.inj reading)
          refine ⟨[], .nil, text_eq, fun steps enough rest offset => ⟨offset + 1, ?_⟩⟩
          obtain ⟨steps, rfl⟩ := Nat.exists_eq_add_of_lt enough
          rfl
      · next rest text_eq =>
          split at reading
          · simp at reading
          · next character cursor escape =>
              obtain ⟨letters, is_escape, rest_eq, escape_takes⟩ := readEscape_takes escape
              obtain ⟨body, is_string, cursor_eq, takes⟩ := induction reading
              refine ⟨'\\' :: (letters ++ body), is_escape body is_string, ?_,
                fun steps enough rest offset => ?_⟩
              · rw [show text = _ from text_eq, rest_eq, cursor_eq]
                simp only [List.cons_append, List.append_assoc]
              · cases steps with
                | zero => simp at enough
                | succ steps =>
                    obtain ⟨middle, escape_read⟩ :=
                      escape_takes (body ++ '"' :: rest) rfl (offset + 1)
                    rw [List.length_cons, List.length_append] at enough
                    obtain ⟨offset', body_read⟩ := takes steps (by omega) rest middle
                    refine ⟨offset', ?_⟩
                    rw [List.cons_append, List.append_assoc, readStringBody]
                    simp only [escape_read, body_read]
      · next character rest not_quote not_escape text_eq =>
          split at reading
          · simp [Cursor.refuseByte] at reading
          · next not_control =>
              obtain ⟨body, is_string, rest_eq, takes⟩ := induction reading
              refine ⟨character :: body, .plain not_quote not_escape (by omega) is_string, ?_,
                fun steps enough rest offset => ?_⟩
              · rw [show text = _ from text_eq, rest_eq, List.cons_append]
              · cases steps with
                | zero => simp at enough
                | succ steps =>
                    rw [List.length_cons] at enough
                    obtain ⟨offset', body_read⟩ :=
                      takes steps (by omega) rest (offset + character.utf8Size)
                    refine ⟨offset', ?_⟩
                    rw [List.cons_append, readStringBody]
                    simp only [if_neg not_control, body_read]

/-- The string is read between the quotes of the body, whatever comes after it. -/
def ReadsString (strictness : Strictness) (body : List Char) (string : String) : Prop :=
  ∀ rest offset, ∃ offset',
    readString strictness ⟨body ++ '"' :: rest, offset⟩ = .ok (string, ⟨rest, offset'⟩)

theorem readString_takes {strictness : Strictness} {text : List Char} {offset : Nat}
    {string : String} {after : Cursor}
    (reading : readString strictness ⟨text, offset⟩ = .ok (string, after)) :
    ∃ body, IsString body ∧ text = body ++ '"' :: after.rest ∧
      ReadsString strictness body string := by
  obtain ⟨body, is_string, text_eq, takes⟩ := readStringBody_takes reading
  refine ⟨body, is_string, text_eq, fun rest offset => takes _ ?_ rest offset⟩
  simp only [List.length_append, List.length_cons]
  omega

end Json
end LintBus

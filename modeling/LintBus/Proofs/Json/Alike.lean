import LintBus.Proofs.Json.Grammar

/-!
# Texts that differ in their blanks

Two texts are alike if they are equal but for the blanks between tokens: where the one has some, the
other has some.  Whatever can be derived from the one can be derived from the other, so that both
are accepted or both are refused.
-/

namespace LintBus
namespace Json

/-- Some blanks, at least one. -/
def AreBlanks (blanks : List Char) : Prop :=
  blanks ≠ [] ∧ ∀ blank ∈ blanks, isBlank blank = true

theorem areBlanks_space : AreBlanks [' '] := ⟨by simp, by simp [isBlank]⟩

/-- The texts are equal but for the number and the kind of blanks outside of strings. -/
inductive Alike : List Char → List Char → Prop
  | same (text : List Char) : Alike text text
  | character {character : Char} {text other : List Char} (not_quote : character ≠ '"')
      (alike : Alike text other) : Alike (character :: text) (character :: other)
  | string {body text other : List Char} (quoted : IsQuoted body) (alike : Alike text other) :
      Alike ('"' :: body ++ '"' :: text) ('"' :: body ++ '"' :: other)
  | blanks {blanks others text other : List Char} (are_blanks : AreBlanks blanks)
      (others_blank : AreBlanks others) (alike : Alike text other) :
      Alike (blanks ++ text) (others ++ other)

namespace Alike

variable {text other : List Char}

private theorem symm (alike : Alike text other) : Alike other text := by
  induction alike with
  | same text => exact .same text
  | character not_quote _ induction => exact .character not_quote induction
  | string quoted _ induction => exact .string quoted induction
  | blanks are_blanks others_blank _ induction => exact .blanks others_blank are_blanks induction

/-- A blank at the front stands for some blanks, or for none if others come after it. -/
theorem of_blank {blank : Char} (is_blank : isBlank blank = true)
    (alike : Alike (blank :: text) other) :
    ∃ blanks rest, (∀ character ∈ blanks, isBlank character = true) ∧ other = blanks ++ rest ∧
      Alike text rest := by
  generalize text_eq : blank :: text = front at alike
  cases alike with
  | same => exact ⟨[blank], text, by simpa using is_blank, text_eq.symm, .same text⟩
  | @character character _ rest _ alike =>
      obtain ⟨rfl, rfl⟩ := List.cons.inj text_eq
      exact ⟨[blank], rest, by simpa using is_blank, rfl, alike⟩
  | string =>
      obtain ⟨rfl, -⟩ := List.cons.inj text_eq
      simp [isBlank] at is_blank
  | @blanks blanks others middle rest are_blanks others_blank alike =>
      obtain ⟨first, blanks, rfl⟩ := List.exists_cons_of_ne_nil are_blanks.1
      obtain ⟨rfl, rfl⟩ := List.cons.inj text_eq
      cases blanks with
      | nil => exact ⟨others, rest, others_blank.2, rfl, alike⟩
      | cons second blanks =>
          have still_blanks : AreBlanks (second :: blanks) :=
            ⟨by simp, fun character found => are_blanks.2 character (List.mem_cons_of_mem _ found)⟩
          exact ⟨[], others ++ rest, by simp, rfl, .blanks still_blanks others_blank alike⟩

private theorem of_letter {letter : Char} (not_quote : letter ≠ '"')
    (not_blank : isBlank letter = false)
    (alike : Alike (letter :: text) other) : ∃ rest, other = letter :: rest ∧ Alike text rest := by
  generalize text_eq : letter :: text = front at alike
  cases alike with
  | same => exact ⟨text, text_eq.symm, .same text⟩
  | character _ alike =>
      obtain ⟨rfl, rfl⟩ := List.cons.inj text_eq
      exact ⟨_, rfl, alike⟩
  | string => exact absurd (List.cons.inj text_eq).1 not_quote
  | blanks are_blanks =>
      obtain ⟨first, blanks, rfl⟩ := List.exists_cons_of_ne_nil are_blanks.1
      obtain ⟨rfl, -⟩ := List.cons.inj text_eq
      simp [are_blanks.2 letter List.mem_cons_self] at not_blank

private theorem of_letters {letters : List Char}
    (plain : ∀ letter ∈ letters, letter ≠ '"' ∧ isBlank letter = false)
    (alike : Alike (letters ++ text) other) :
    ∃ rest, other = letters ++ rest ∧ Alike text rest := by
  induction letters generalizing other with
  | nil => exact ⟨other, rfl, alike⟩
  | cons letter letters induction =>
      obtain ⟨⟨not_quote, not_blank⟩, others_plain⟩ := List.forall_mem_cons.mp plain
      obtain ⟨rest, rfl, rest_alike⟩ := alike.of_letter not_quote not_blank
      obtain ⟨last, rfl, last_alike⟩ := induction others_plain rest_alike
      exact ⟨last, rfl, last_alike⟩

private theorem of_string {body : List Char} (quoted : IsQuoted body)
    (alike : Alike ('"' :: body ++ '"' :: text) other) :
    ∃ rest, other = '"' :: body ++ '"' :: rest ∧ Alike text rest := by
  generalize text_eq : '"' :: body ++ '"' :: text = front at alike
  cases alike with
  | same => exact ⟨text, text_eq.symm, .same text⟩
  | character not_quote => exact absurd (List.cons.inj text_eq).1.symm not_quote
  | string other_quoted alike =>
      obtain ⟨rfl, rfl⟩ := quoted.unique other_quoted (List.cons.inj text_eq).2
      exact ⟨_, rfl, alike⟩
  | blanks are_blanks =>
      obtain ⟨first, blanks, rfl⟩ := List.exists_cons_of_ne_nil are_blanks.1
      obtain ⟨rfl, -⟩ := List.cons.inj text_eq
      simpa [isBlank] using are_blanks.2 _ List.mem_cons_self

private theorem all_blank (alike : Alike text other)
    (text_blank : ∀ character ∈ text, isBlank character = true) :
    ∀ character ∈ other, isBlank character = true := by
  induction alike with
  | same => exact text_blank
  | character _ _ induction =>
      obtain ⟨is_blank, others⟩ := List.forall_mem_cons.mp text_blank
      exact List.forall_mem_cons.mpr ⟨is_blank, induction others⟩
  | string => simpa [isBlank] using text_blank '"' List.mem_cons_self
  | blanks _ others_blank _ induction =>
      have rest_blank := (List.forall_mem_append.mp text_blank).2
      exact List.forall_mem_append.mpr ⟨others_blank.2, induction rest_blank⟩

end Alike

private theorem Derives.of_blanks {tokens : Tokens} {form : Form} {depth : Nat}
    {blanks text after : List Char} (all_blank : ∀ character ∈ blanks, isBlank character = true)
    (derives : Derives tokens form depth text after) :
    Derives tokens form depth (blanks ++ text) after := by
  induction blanks with
  | nil => exact derives
  | cons blank blanks induction =>
      obtain ⟨is_blank, others⟩ := List.forall_mem_cons.mp all_blank
      exact .blank is_blank (induction others)

private theorem Alike.of_opening {brackets : Brackets} {text other : List Char}
    (alike : Alike (brackets.opening :: text) other) :
    ∃ rest, other = brackets.opening :: rest ∧ Alike text rest := by
  cases brackets with
  | square | curly => exact alike.of_letter (by decide) (by decide)

/-- What is derived from a text is derived from every text like it, up to places where they are
alike.  The induction is on the derivation. -/
theorem Derives.alike {tokens : Tokens} {form : Form} {depth : Nat} {text after other : List Char}
    (derives : Derives tokens form depth text after) (alike : Alike text other) :
    ∃ rest, Derives tokens form depth other rest ∧ Alike after rest := by
  induction derives generalizing other with
  | blank is_blank _ induction =>
      obtain ⟨blanks, rest, all_blank, rfl, rest_alike⟩ := alike.of_blank is_blank
      obtain ⟨last, derives, last_alike⟩ := induction rest_alike
      exact ⟨last, derives.of_blanks all_blank, last_alike⟩
  | @symbol character punctuation =>
      have plain : character ≠ '"' ∧ isBlank character = false := by
        rcases isPunctuation_cases punctuation with rfl | rfl | rfl | rfl <;> decide
      obtain ⟨rest, rfl, rest_alike⟩ := alike.of_letter plain.1 plain.2
      exact ⟨rest, .symbol punctuation _ _, rest_alike⟩
  | @word word known =>
      have plain : ∀ letter ∈ word, letter ≠ '"' ∧ isBlank letter = false := by
        intro letter found
        obtain ⟨not_quote, -, not_blank⟩ := letters_of_word known found
        exact ⟨not_quote, not_blank⟩
      obtain ⟨rest, rfl, rest_alike⟩ := alike.of_letters plain
      exact ⟨rest, .word known _ _, rest_alike⟩
  | @number letters number =>
      have plain : ∀ letter ∈ letters, letter ≠ '"' ∧ isBlank letter = false := by
        intro letter found
        have of_number := (tokens.isNumeral number).isNumberChar letter found
        exact ⟨ne_of_isNumberChar of_number _ (by decide), isBlank_of_isNumberChar of_number⟩
      obtain ⟨rest, rfl, rest_alike⟩ := alike.of_letters plain
      exact ⟨rest, .number number _ _, rest_alike⟩
  | string string =>
      obtain ⟨rest, rfl, rest_alike⟩ := alike.of_string (tokens.isString string).isQuoted
      exact ⟨rest, .string string _ _, rest_alike⟩
  | empty brackets _ induction =>
      obtain ⟨inner, rfl, inner_alike⟩ := alike.of_opening
      obtain ⟨rest, derives, rest_alike⟩ := induction inner_alike
      exact ⟨rest, .empty brackets derives, rest_alike⟩
  | filled brackets _ induction =>
      obtain ⟨inner, rfl, inner_alike⟩ := alike.of_opening
      obtain ⟨rest, derives, rest_alike⟩ := induction inner_alike
      exact ⟨rest, .filled brackets derives, rest_alike⟩
  | entry key _ _ colon_induction value_induction =>
      obtain ⟨middle, rfl, middle_alike⟩ := alike.of_string (tokens.isString key).isQuoted
      obtain ⟨between, colon, between_alike⟩ := colon_induction middle_alike
      obtain ⟨rest, value, rest_alike⟩ := value_induction between_alike
      exact ⟨rest, .entry key colon value, rest_alike⟩
  | last _ _ part_induction closed_induction =>
      obtain ⟨between, part, between_alike⟩ := part_induction alike
      obtain ⟨rest, closed, rest_alike⟩ := closed_induction between_alike
      exact ⟨rest, .last part closed, rest_alike⟩
  | next _ _ _ part_induction comma_induction row_induction =>
      obtain ⟨between, part, between_alike⟩ := part_induction alike
      obtain ⟨middle, comma, middle_alike⟩ := comma_induction between_alike
      obtain ⟨rest, row, rest_alike⟩ := row_induction middle_alike
      exact ⟨rest, .next part comma row, rest_alike⟩

private theorem IsText.alike {tokens : Tokens} {depth : Nat} {text other : List Char}
    (is_text : IsText tokens depth text) (alike : Alike text other) :
    IsText tokens depth other := by
  obtain ⟨blanks, derives, all_blank⟩ := is_text
  obtain ⟨rest, rest_derives, rest_alike⟩ := derives.alike alike
  exact ⟨rest, rest_derives, rest_alike.all_blank all_blank⟩

/-- Alike texts are both accepted or both refused. -/
theorem check_alike {source other : String} (alike : Alike source.toList other.toList) :
    check source = .ok () ↔ check other = .ok () := by
  rw [check_eq_ok, check_eq_ok]
  exact ⟨fun is_text => is_text.alike alike, fun is_text => is_text.alike alike.symm⟩

end Json
end LintBus

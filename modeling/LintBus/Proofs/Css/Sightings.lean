import LintBus.Proofs.Css.Derivation
import LintBus.Proofs.Css.Outline

/-!
# What a scanner sees

A scanner that knows nothing of the grammar runs over a text from left to right.  It skips blanks,
closed comments, quoted strings and characters after a backslash, and notes every other character
with its place.  What the grammar reads, the scanner runs over from one place to the other: both cut
the text at the same places, and the brackets noted on the way match.
-/

namespace LintBus
namespace Css

open Pattern

/-- What a scanner takes note of. -/
inductive Mark where
  /-- A character outside of comments and strings. -/
  | letter (character : Char)
  /-- The slash that opens a comment which is never closed. -/
  | openComment
  /-- The quote that opens a string which is never closed. -/
  | openString
deriving DecidableEq, Repr

/-- What is left of a text after the quote that ends a string; on one line only, if so required. -/
def afterQuote? (one_line : Bool) (quote : Char) : List Char → Option (List Char)
  | '\\' :: _ :: rest => afterQuote? one_line quote rest
  | character :: rest =>
      if character = quote then some rest
      else if one_line && character = '\n' then none
      else afterQuote? one_line quote rest
  | [] => none

private theorem length_afterQuote? {one_line : Bool} {quote : Char} {text rest : List Char}
    (closed : afterQuote? one_line quote text = some rest) : rest.length ≤ text.length := by
  fun_induction afterQuote? one_line quote text with
  | case1 escaped text induction =>
      have := induction closed
      simp only [List.length_cons]
      omega
  | case2 text => simp [← Option.some.inj closed]
  | case3 => simp at closed
  | case4 character text _ _ _ induction =>
      have := induction closed
      simp only [List.length_cons]
      omega
  | case5 => simp at closed

/-- What a scanner notes in a text, with the number of characters before it. -/
def sightings (one_line : Bool) (text : List Char) (offset : Nat) : List (Nat × Mark) :=
  match text with
  | [] => []
  | '\\' :: _ :: rest => sightings one_line rest (offset + 2)
  | '/' :: '*' :: rest =>
      match _closed : afterComment? rest with
      | some after => sightings one_line after (offset + (text.length - after.length))
      | none => (offset, .openComment) :: sightings one_line ('*' :: rest) (offset + 1)
  | character :: rest =>
      if isBlank character then sightings one_line rest (offset + 1)
      else if isQuote character then
        match _closed : afterQuote? one_line character rest with
        | some after => sightings one_line after (offset + (text.length - after.length))
        | none => (offset, .openString) :: sightings one_line rest (offset + 1)
      else (offset, .letter character) :: sightings one_line rest (offset + 1)
termination_by text.length
decreasing_by
  · simp only [List.length_cons]
    omega
  · have := length_afterComment? _closed
    simp only [List.length_cons]
    omega
  · simp
  · simp
  · have := length_afterQuote? _closed
    simp only [List.length_cons]
    omega
  · simp
  · simp

/-- What is wrong with the brackets of a text. -/
inductive Imbalance where
  /-- A closing bracket that does not match the innermost open one. -/
  | strayBracket (bracket : Char)
  /-- A string that is never closed. -/
  | openString
deriving DecidableEq, Repr

/-- The opening brackets. -/
def isOpening (character : Char) : Bool :=
  character = '(' || character = '[' || character = '\x7b'

/-- The opening bracket that a closing bracket matches. -/
def opener? : Char → Option Char
  | ')' => some '('
  | ']' => some '['
  | '\x7d' => some '\x7b'
  | _ => none

/-- Push opening brackets and pop them where they are closed: what is open in the end, the innermost
bracket first. -/
def balance (stack : List Char) : List Mark → Except Imbalance (List Char)
  | [] => .ok stack
  | .openString :: _ => .error .openString
  | .openComment :: marks => balance stack marks
  | .letter character :: marks =>
      if isOpening character then balance (character :: stack) marks
      else
        match opener? character, stack with
        | none, stack => balance stack marks
        | some opening, top :: outer =>
            if top = opening then balance outer marks else .error (.strayBracket character)
        | some _, [] => .error (.strayBracket character)

section Equations

variable {one_line : Bool} {text rest : List Char} {offset : Nat}

theorem sightings_escape (character : Char) (rest : List Char) (offset : Nat) :
    sightings one_line ('\\' :: character :: rest) offset =
      sightings one_line rest (offset + 2) := by
  rw [sightings]

private theorem sightings_comment (closed : afterComment? text = some rest) :
    sightings one_line ('/' :: '*' :: text) offset =
      sightings one_line rest (offset + (text.length + 2 - rest.length)) := by
  rw [sightings]
  split
  · next after after_eq =>
      obtain rfl := Option.some.inj (closed.symm.trans after_eq)
      rfl
  · next open_eq => simp [closed] at open_eq

private theorem sightings_openComment (unclosed : afterComment? text = none) :
    sightings one_line ('/' :: '*' :: text) offset =
      (offset, .openComment) :: sightings one_line ('*' :: text) (offset + 1) := by
  rw [sightings]
  split
  · next after after_eq => simp [unclosed] at after_eq
  · rfl

private theorem sightings_blank {character : Char} (blank : isBlank character = true)
    (rest : List Char)
    (offset : Nat) :
    sightings one_line (character :: rest) offset = sightings one_line rest (offset + 1) := by
  rw [sightings, if_pos blank]
  · rintro _ _ rfl
    simp [isBlank] at blank
  · rintro _ rfl
    simp [isBlank] at blank

private theorem sightings_string {quote : Char} (is_quote : isQuote quote = true)
    (closed : afterQuote? one_line quote text = some rest) :
    sightings one_line (quote :: text) offset =
      sightings one_line rest (offset + (text.length + 1 - rest.length)) := by
  have cases_quote : quote = '"' ∨ quote = '\'' := by simpa [isQuote] using is_quote
  have not_blank : isBlank quote = false := by
    rcases cases_quote with rfl | rfl
    · decide
    · decide
  rw [sightings, if_neg (by simp [not_blank]), if_pos is_quote]
  · split
    · next after after_eq =>
        obtain rfl := Option.some.inj (closed.symm.trans after_eq)
        rfl
    · next open_eq => simp [closed] at open_eq
  · rintro _ _ rfl
    simp at cases_quote
  · rintro _ rfl
    simp at cases_quote

/-- A character that is neither skipped nor begins something that is. -/
theorem sightings_letter {character : Char} (not_blank : isBlank character = false)
    (not_quote : isQuote character = false) (not_escape : character ≠ '\\')
    (not_comment : character = '/' → rest.head? ≠ some '*') :
    sightings one_line (character :: rest) offset =
      (offset, .letter character) :: sightings one_line rest (offset + 1) := by
  rw [sightings, if_neg (by simp [not_blank]), if_neg (by simp [not_quote])]
  · rintro _ _ rfl
    exact absurd rfl not_escape
  · rintro _ rfl rfl
    exact absurd rfl (not_comment rfl)

end Equations

/-- What a scanner notes from a place on. -/
def Place.sightings (one_line : Bool) (place : Place) : List (Nat × Mark) :=
  Css.sightings one_line place.rest place.offset

section Tokens

variable {one_line : Bool} {place after : Place} {nodes : List Node}

private theorem Filler.sightings {filler : List Char} (filled : Filler false filler)
    (text : List Char)
    (offset : Nat) :
    Css.sightings one_line (filler ++ text) offset =
      Css.sightings one_line text (offset + filler.length) := by
  induction filled generalizing offset with
  | nil => rfl
  | blank is_blank _ induction =>
      rw [List.cons_append, sightings_blank is_blank, induction, List.length_cons, Nat.add_assoc,
        Nat.add_comm 1]
  | @comment body rest closed _ induction =>
      rw [List.cons_append, List.cons_append, List.append_assoc,
        sightings_comment (afterComment?_append closed (rest ++ text)), List.nil_append, induction]
      congr 1
      simp only [List.length_append, List.length_cons]
      omega
  | semicolon allowed _ _ => simp at allowed

theorem Place.sightings_skip (place : Place) :
    place.skip.sightings one_line = place.sightings one_line := by
  obtain ⟨filler, ⟨rest_eq, offset_eq⟩, filled⟩ := place.skip_filler
  rw [Place.sightings, Place.sightings, rest_eq, filled.sightings, offset_eq]

theorem Place.sightings_skipUnless (place : Place) (inToken : Bool) :
    (place.skipUnless inToken).sightings one_line = place.sightings one_line := by
  cases inToken with
  | true => rfl
  | false => exact place.sightings_skip

/-- A backslash and the character after it are skipped. -/
theorem Derivation.of_escaped (derivation : Derivation true escaped place after nodes) :
    ∃ character, place.Leads after ['\\', character] ∧ nodes = [] := by
  obtain ⟨between, _, _, one, other, rfl⟩ := derivation.of_seq
  have letter : Derivation true (.text ['\\']) place between _ := one
  obtain ⟨backslash, rfl⟩ := letter.of_text
  obtain ⟨character, -, any, rfl⟩ := other.of_one
  exact ⟨character, backslash.trans any, rfl⟩

/-- A character of a string between two of the given quotes. -/
def stringChar (quote : Char) : Pattern :=
  .alt escaped (.seq (.absent (firstOf [.text [quote], literal "\\", literal "\n"])) (.one .any))

/-- A string is read up to the quote where a search for its end stops. -/
theorem Derivation.of_stringChar {quote : Char}
    (derivation : Derivation true (stringChar quote) place after nodes) :
    (∃ taken, place.Leads after taken) ∧
      afterQuote? one_line quote place.rest = afterQuote? one_line quote after.rest := by
  rcases derivation.of_alt with escape | plain
  · obtain ⟨character, leads, -⟩ := escape.of_escaped
    refine ⟨⟨_, leads⟩, ?_⟩
    rw [leads.1]
    rfl
  · obtain ⟨between, _, _, absent, any, rfl⟩ := plain.of_seq
    obtain ⟨missed, rfl, rfl⟩ := absent.of_absent
    obtain ⟨character, -, leads, rfl⟩ := any.of_one
    have rest_eq : between.rest = character :: after.rest := leads.1
    have scan_missed : scan true (.alt (.text [quote]) (.alt (.text ['\\']) (.text ['\n'])))
        (character :: after.rest) = none := by
      rw [← rest_eq, ← left_read]
      exact congrArg Css.left missed
    rw [scan_alt rfl, scan_alt rfl] at scan_missed
    obtain ⟨not_quote, not_backslash, not_feed⟩ :
        character ≠ quote ∧ character ≠ '\\' ∧ character ≠ '\n' := by
      simpa [scan_letter, afterChar?] using scan_missed
    refine ⟨⟨_, leads⟩, ?_⟩
    rw [rest_eq, afterQuote?, if_neg not_quote, if_neg (by simp [not_feed])]
    rintro _ _ rfl
    exact absurd rfl not_backslash

/-- Nothing is noted in a string between two quotes, and its end is found. -/
theorem Derivation.sightings_quoted (quote : Char) (is_quote : isQuote quote = true)
    (derivation : Derivation true
      (.seq (.text [quote]) (.seq (stringChar quote).many (.text [quote]))) place after nodes) :
    place.sightings one_line = after.sightings one_line := by
  obtain ⟨first, _, _, opening, inner, rfl⟩ := derivation.of_seq
  obtain ⟨last, _, _, characters, closing, rfl⟩ := inner.of_seq
  obtain ⟨opens, rfl⟩ := opening.of_text
  obtain ⟨closes, rfl⟩ := closing.of_text
  obtain ⟨⟨taken, leads⟩, search_eq⟩ := characters.of_many
    (motive := fun place after => (∃ taken, place.Leads after taken) ∧
      afterQuote? one_line quote place.rest = afterQuote? one_line quote after.rest)
    (fun place => ⟨⟨[], .refl place⟩, rfl⟩) fun once later => by
      obtain ⟨⟨taken, leads⟩, search_eq⟩ := once.of_stringChar
      obtain ⟨⟨others, later_leads⟩, later_eq⟩ := later
      exact ⟨⟨_, leads.trans later_leads⟩, search_eq.trans later_eq⟩
  have opens_eq : place.rest = quote :: first.rest := opens.1
  have closes_eq : last.rest = quote :: after.rest := closes.1
  have closed : afterQuote? one_line quote first.rest = some after.rest := by
    have not_backslash : quote ≠ '\\' := by
      rintro rfl
      simp [isQuote] at is_quote
    rw [Place.skipUnless, if_pos rfl] at search_eq
    rw [search_eq, closes_eq, afterQuote?, if_pos rfl]
    rintro _ _ rfl
    exact absurd rfl not_backslash
  have offset_eq := ((opens.trans leads).trans closes).2
  have length_eq := (leads.trans closes).length_eq
  rw [Place.sightings, opens_eq, Css.sightings_string is_quote closed, Place.sightings, offset_eq]
  congr 1
  simp only [Place.skipUnless, if_true, List.length_append, List.length_singleton] at length_eq ⊢
  omega

theorem Derivation.sightings_string
    (derivation : Derivation true Rule.string.pattern place after nodes) :
    place.sightings one_line = after.sightings one_line := by
  rcases derivation.of_alt with double | single
  · exact sightings_quoted '"' (by decide) double
  · exact sightings_quoted '\'' (by decide) single

/-- A delimiter is noted, and its slash as the opening of a comment if it looks like one: a closed
comment would have been skipped. -/
theorem Derivation.sightings_delimiter {inToken : Bool}
    (derivation : Derivation inToken Rule.delimiter.pattern place after nodes)
    (skipped : skipBlank place.rest = place.rest) :
    ∃ character mark, place.Leads after [character] ∧ nodes = [] ∧
      (mark = .openComment ∨ mark = .letter character) ∧ isOpening character = false ∧
      opener? character = none ∧
      place.sightings one_line = (place.offset, mark) :: after.sightings one_line := by
  obtain ⟨pattern, found, inner⟩ := derivation.of_firstOf
  obtain ⟨letters, known, rfl⟩ := List.mem_map.mp found
  obtain ⟨character, letters_eq, not_blank, not_quote, not_escape, not_opening, not_closing⟩ :
      ∃ character, letters.toList = [character] ∧ isBlank character = false ∧
        isQuote character = false ∧ character ≠ '\\' ∧ isOpening character = false ∧
        opener? character = none := by
    simp only [delimiters, List.mem_cons, List.not_mem_nil, or_false] at known
    rcases known with rfl | rfl | rfl | rfl | rfl | rfl | rfl | rfl | rfl | rfl | rfl | rfl | rfl |
      rfl | rfl | rfl
    all_goals exact ⟨_, rfl, by decide⟩
  obtain ⟨leads, rfl⟩ := inner.of_text
  rw [letters_eq] at leads
  have rest_eq : place.rest = character :: after.rest := leads.1
  have offset_eq : after.offset = place.offset + 1 := leads.2
  rw [Place.sightings, rest_eq]
  by_cases opens : character = '/' ∧ after.rest.head? = some '*'
  · obtain ⟨rfl, star⟩ := opens
    obtain ⟨rest, after_eq⟩ := List.head?_eq_some_iff.mp star
    have unclosed : afterComment? rest = none := by
      rw [Option.eq_none_iff_forall_not_mem]
      intro other closed
      have shorter := length_afterComment? closed
      have other_le := length_skipBlank_le other
      have length_eq := congrArg List.length skipped
      rw [rest_eq, after_eq, skipBlank_comment closed, List.length_cons, List.length_cons]
        at length_eq
      omega
    refine ⟨'/', .openComment, leads, rfl, .inl rfl, not_opening, not_closing, ?_⟩
    rw [after_eq, sightings_openComment unclosed, Place.sightings, after_eq, offset_eq]
  · refine ⟨character, .letter character, leads, rfl, .inr rfl, not_opening, not_closing, ?_⟩
    rw [sightings_letter not_blank not_quote not_escape fun slash star => opens ⟨slash, star⟩,
      Place.sightings, offset_eq]

end Tokens

end Css
end LintBus

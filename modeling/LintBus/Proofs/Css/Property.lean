import LintBus.Proofs.Css.Pieces

/-!
# Declarations and selectors at one place

Where a property name and a colon can be read, a run of pieces reads the same name first: a number
does not end elsewhere, because a point or a percent sign after it would stand before the colon.  So
a text with a selector before a brace has no declaration at its front.
-/

namespace LintBus
namespace Css

open Pattern

section Repetitions

variable {pattern wider : Pattern} {text rest : List Char}

private theorem scan_many_of_none (bounded : pattern.many.isBounded = true)
    (missed : scan true pattern text = none) : scan true pattern.many text = some text := by
  rw [scan_many bounded, missed]

private theorem scan_many_of_some (bounded : pattern.many.isBounded = true)
    (matched : scan true pattern text = some rest) :
    scan true pattern.many text = scan true pattern.many rest := by
  conv_lhs => rw [scan_many bounded, matched]
  simp only
  rw [scan_many bounded, scan_more bounded, if_pos rfl]

private theorem scan_many_ends (bounded : pattern.many.isBounded = true)
    (scanned : scan true pattern.many text = some rest) : scan true pattern rest = none := by
  induction length_eq : text.length using Nat.strongRecOn generalizing text with
  | ind length induction =>
      cases once : scan true pattern text with
      | none =>
          obtain rfl := Option.some.inj ((scan_many_of_none bounded once).symm.trans scanned)
          exact once
      | some after =>
          rw [scan_many_of_some bounded once] at scanned
          exact induction after.length (length_eq ▸ length_of_repeated bounded once) scanned rfl

private theorem scan_many_of_narrower (bounded : pattern.many.isBounded = true)
    (wider_bounded : wider.many.isBounded = true)
    (covers : ∀ text rest, scan true pattern text = some rest → scan true wider text = some rest)
    (scanned : scan true pattern.many text = some rest) :
    scan true wider.many text = scan true wider.many rest := by
  induction length_eq : text.length using Nat.strongRecOn generalizing text with
  | ind length induction =>
      cases once : scan true pattern text with
      | none =>
          obtain rfl := Option.some.inj ((scan_many_of_none bounded once).symm.trans scanned)
          rfl
      | some after =>
          rw [scan_many_of_some bounded once] at scanned
          rw [scan_many_of_some wider_bounded (covers text after once)]
          exact induction after.length (length_eq ▸ length_of_repeated bounded once) scanned rfl

end Repetitions

/-- The first character of a word. -/
def wordStart : Pattern := firstOf [literal "-", literal "_", escaped, .one .alphabetic]

private theorem isAlphabetic_of_isDigit {character : Char} (digit : character.isDigit = true) :
    CharClass.isAlphabetic character = false := by
  simp only [Char.isDigit, ge_iff_le, Bool.and_eq_true, decide_eq_true_eq, UInt32.le_iff_toNat_le]
    at digit
  have high : character.toNat ≤ 57 := digit.2
  have low : character.toNat < 0x80 := Nat.lt_of_le_of_lt high (by decide)
  rw [CharClass.isAlphabetic, if_pos low]
  delta Char.isAlpha Char.isUpper Char.isLower
  simp only [ge_iff_le, UInt32.le_iff_toNat_le]
  simp
  omega

private theorem scan_identifierChar (text : List Char) :
    scan true identifierChar text =
      (scan true wordStart text).or (scan true (.one .digit) text) := by
  simp (disch := decide) only [identifierChar, wordStart, firstOf, scan_alt, Option.or_assoc]

private theorem begins_wordStart_digit {character : Char} (digit : character.isDigit = true) :
    begins 5 wordStart character = false := by
  have not_dash : character ≠ '-' := by rintro rfl; simp at digit
  have not_underscore : character ≠ '_' := by rintro rfl; simp at digit
  have not_backslash : character ≠ '\\' := by rintro rfl; simp at digit
  simp [begins, wordStart, firstOf, literal, escaped, consumes, CharSet.contains,
    isAlphabetic_of_isDigit digit, not_dash.symm, not_underscore.symm, not_backslash.symm]

private theorem scan_identifierChar_digit {text rest : List Char}
    (digit : scan true (.one .digit) text = some rest) :
    scan true identifierChar text = some rest := by
  rw [scan_identifierChar, digit]
  rw [scan_set] at digit
  cases text with
  | nil => simp [afterChar?] at digit
  | cons first text =>
      have first_digit : first.isDigit = true := by
        by_contra other
        simp [afterChar?, CharSet.contains, other] at digit
      rw [scan_eq_none (by decide) (begins_wordStart_digit first_digit), Option.none_or]

private theorem scan_word (text : List Char) :
    scan true word text = (scan true wordStart text).bind (scan true identifierChar.many) := by
  rw [word, scan_seq (by decide)]
  rfl

/-- A colon follows, after blanks and comments. -/
def ColonNext (rest : List Char) : Prop := (skipBlank rest).head? = some ':'

private theorem ColonNext.head?_ne {letter : Char} {text rest : List Char} (colon : ColonNext rest)
    (munched : scan true identifierChar.many text = some rest)
    (letter_eq : letter = '.' ∨ letter = '%') : text.head? ≠ some letter := by
  intro head_eq
  obtain ⟨others, rfl⟩ := List.head?_eq_some_iff.mp head_eq
  have stays (missed : scan true identifierChar (letter :: others) = none)
      (not_blank : isBlank letter = false) (not_slash : letter ≠ '/') : letter = ':' := by
    obtain rfl := Option.some.inj ((scan_many_of_none (by decide) missed).symm.trans munched)
    rw [ColonNext, skipBlank_of_notBlank not_blank fun slash => absurd slash not_slash] at colon
    simpa using colon
  rcases letter_eq with rfl | rfl
  · exact absurd (stays (scan_fails _ (by decide) (by decide) others) (by decide)
      (by decide)) (by decide)
  · exact absurd (stays (scan_fails _ (by decide) (by decide) others) (by decide)
      (by decide)) (by decide)

private theorem scan_fraction {text rest : List Char} (colon : ColonNext rest)
    (munched : scan true identifierChar.many text = some rest) :
    scan true (.seq (literal ".") (oneOrMore (.one .digit))) text = none := by
  rw [Option.eq_none_iff_forall_not_mem]
  intro after scanned
  have point : text.head? = some '.' := head?_of_scan_letter (by decide) scanned
  exact colon.head?_ne munched (.inl rfl) point

private theorem scan_decimalDigits {text rest after : List Char} (colon : ColonNext rest)
    (munched : scan true identifierChar.many text = some rest)
    (scanned : scan true decimalDigits text = some after) :
    scan true identifierChar.many after = some rest ∧ scan true (.one .digit) after = none := by
  rw [decimalDigits, scan_alt (by decide), Option.or_eq_some_iff,
    scan_fraction colon munched] at scanned
  obtain scanned | ⟨-, scanned⟩ := scanned
  · rw [scan_seq (by decide), Option.bind_eq_some_iff] at scanned
    obtain ⟨between, digits, scanned⟩ := scanned
    rw [oneOrMore, scan_seq (by decide), Option.bind_eq_some_iff] at digits
    obtain ⟨second, digit, digits⟩ := digits
    have munched_eq : scan true identifierChar.many between = some rest := by
      rw [← munched, scan_many_of_some (by decide) (scan_identifierChar_digit digit)]
      exact (scan_many_of_narrower (by decide) (by decide)
        (fun _ _ => scan_identifierChar_digit) digits).symm
    rw [scan_optional (by decide), if_pos rfl, scan_fraction colon munched_eq] at scanned
    obtain rfl := Option.some.inj scanned
    exact ⟨munched_eq, scan_many_ends (by decide) digits⟩
  · simp at scanned

/-- The unit of a number ends where an identifier ends. -/
theorem scan_unit {text rest : List Char} (colon : ColonNext rest)
    (munched : scan true identifierChar.many text = some rest)
    (not_digit : scan true (.one .digit) text = none) :
    scan true (.optional (.alt (literal "%") (.rule .identifier))) text = some rest := by
  have not_percent : scan true (literal "%") text = none := by
    rw [Option.eq_none_iff_forall_not_mem]
    intro after scanned
    obtain rfl : text = '%' :: after := by
      rw [literal, scan_text] at scanned
      exact dropText?_eq_some.mp scanned
    exact colon.head?_ne munched (.inr rfl) rfl
  have character := scan_identifierChar text
  rw [not_digit, Option.or_none] at character
  rw [scan_optional (by decide), scan_alt (by decide), not_percent, Option.none_or,
    scan_rule_inToken, Rule.pattern, scan_word]
  cases start : scan true wordStart text with
  | none =>
      rw [start] at character
      rw [scan_many_of_none (by decide) character] at munched
      exact munched
  | some between =>
      rw [start] at character
      rw [scan_many_of_some (by decide) character] at munched
      rw [Option.bind_some, munched]
      rfl

section Heads

variable {head : Char} {text between : List Char}

private theorem begins_of_wordStart (start : scan true wordStart (head :: text) = some between) :
    begins 5 wordStart head = true := by
  by_contra differs
  rw [Bool.not_eq_true] at differs
  rw [scan_eq_none (by decide) differs] at start
  simp at start

private theorem head_ne_of_wordStart (start : scan true wordStart (head :: text) = some between)
    (character : Char) (differs : begins 5 wordStart character = false) : head ≠ character := by
  rintro rfl
  simp [begins_of_wordStart start] at differs

private theorem scan_number_of_wordStart (start : scan true wordStart (head :: text) = some between)
    (not_dash : head ≠ '-') : scan true Rule.number.pattern (head :: text) = none := by
  have excludes := head_ne_of_wordStart start
  have starts := begins_of_wordStart start
  have not_digit : head.isDigit = false := by
    by_contra digit
    rw [Bool.not_eq_false] at digit
    simp [begins_wordStart_digit digit] at starts
  have differs : begins 12 Rule.number.pattern head = false := by
    have not_blank : isBlank head = false := by
      simp [isBlank, excludes ' ' (by decide), excludes '\t' (by decide),
        excludes '\r' (by decide), excludes '\n' (by decide)]
    simp [begins, Rule.pattern, inOrder, literal, decimalDigits, oneOrMore, consumes,
      CharSet.contains, not_dash.symm, not_digit, not_blank, excludes '/' (by decide),
      (excludes '+' (by decide)).symm, (excludes '.' (by decide)).symm]
  exact scan_eq_none (by decide) differs text

end Heads

/-- A number at a word that a colon follows is this word. -/
theorem scan_number_of_word {text rest : List Char} (name : scan true word text = some rest)
    (colon : ColonNext rest) :
    scan true Rule.number.pattern text = none ∨ scan true Rule.number.pattern text = some rest := by
  rw [scan_word, Option.bind_eq_some_iff] at name
  obtain ⟨between, start, munched⟩ := name
  cases text with
  | nil => simp [scan_nil wordStart (by decide)] at start
  | cons head text =>
  by_cases dash : head = '-'
  · subst dash
    have sign : scan true (.alt (literal "+") (literal "-")) ('-' :: text) = some text := by
      simp (disch := decide) [scan_alt, literal, scan_letter, afterChar?]
    obtain rfl : text = between := by
      simpa (disch := decide) [wordStart, firstOf, scan_alt, literal, scan_letter, afterChar?]
        using start
    simp (disch := decide) only [Rule.pattern, inOrder, scan_seq, scan_optional, sign]
    cases digits : scan true decimalDigits text with
    | none => exact .inl (by simp [digits])
    | some after =>
        obtain ⟨after_munched, not_digit⟩ := scan_decimalDigits colon munched digits
        have unit := scan_unit colon after_munched not_digit
        rw [scan_optional (by decide)] at unit
        exact .inr (by simpa [digits] using unit)
  · exact .inl (scan_number_of_wordStart start dash)

/-- A piece at a word that a colon follows is this word. -/
theorem scan_piece_of_word {text rest : List Char} (name : scan true word text = some rest)
    (colon : ColonNext rest) : scan false piece text = some rest := by
  have number := scan_number_of_word name colon
  have word_eq := name
  rw [scan_word, Option.bind_eq_some_iff] at name
  obtain ⟨between, start, -⟩ := name
  cases text with
  | nil => simp [scan_nil wordStart (by decide)] at start
  | cons head text =>
  have excludes := head_ne_of_wordStart start
  have not_quote : isQuote head = false := by
    simp [isQuote, excludes '"' (by decide), excludes '\'' (by decide)]
  have not_hash : begins 3 Rule.hash.pattern head = false := by
    simp [begins, Rule.pattern, literal, consumes, (excludes '#' (by decide)).symm]
  rw [scan_piece_plain not_quote (excludes _ (by decide)) (excludes _ (by decide)), plain]
  simp (disch := decide) only [firstOf, scan_alt]
  rw [scan_eq_none (by decide) not_hash, Option.none_or, word_eq, Option.some_or]
  rcases number with missed | matched
  · rw [missed, Option.none_or]
  · rw [matched, Option.some_or]

theorem past_rule (name : Rule) (outside : name.isToken = false) (text : List Char) :
    past (.rule name) text = past name.pattern text := by
  rw [past, scan_rule, outside, past]

theorem past_word_rule (name : Rule) (token : name.isToken = true)
    (pattern_eq : name.pattern = .rule .identifier) (text : List Char) :
    past (.rule name) text = (scan true word text).map skipBlank := by
  rw [past, scan_rule, token, pattern_eq, scan_rule_inToken]
  rfl

theorem past_letter_eq_some {letter : Char} {text rest : List Char} :
    past (.text [letter]) text = some rest ↔ ∃ others, text = letter :: others ∧
      skipBlank others = rest := by
  rw [past, scan_text, Option.map_eq_some_iff]
  simp only [dropText?_eq_some, List.singleton_append]

theorem past_oneOrMore_piece {text rest : List Char} :
    past (oneOrMore piece) text = some rest ↔
      (past piece text).isSome = true ∧ past piece.many text = some rest := by
  rw [oneOrMore, past_seq (by decide), past_many (by decide) text]
  cases past piece text with
  | none => simp
  | some between => simp

/-- A declaration is a word, a colon and a run of pieces up to a semicolon or a closing brace. -/
theorem scan_declaration {text rest : List Char} :
    scan false Rule.declaration.pattern text = some rest ↔
      ∃ name others value, scan true word text = some name ∧ skipBlank name = ':' :: others ∧
        past (oneOrMore piece) (skipBlank others) = some value ∧
        scan false (.alt (literal ";") (.ahead (literal "\x7d"))) value = some rest := by
  simp (disch := decide) only [Rule.pattern, inOrder, scan_seq_past, Option.bind_eq_some_iff]
  simp only [past_word_rule .property rfl rfl, Option.map_eq_some_iff, past_rule .value rfl]
  constructor
  · rintro ⟨_, ⟨name, named, rfl⟩, _, colon, value, valued, closed⟩
    obtain ⟨others, colon_eq, rfl⟩ := past_letter_eq_some.mp colon
    exact ⟨name, others, value, named, colon_eq, valued, closed⟩
  · rintro ⟨name, others, value, named, colon_eq, valued, closed⟩
    exact ⟨_, ⟨name, named, rfl⟩, _, past_letter_eq_some.mpr ⟨others, colon_eq, rfl⟩, value, valued,
      closed⟩

/-- Where a selector is read up to a brace there is no declaration. -/
theorem scan_declaration_of_selector {text rest : List Char}
    (selector : past (oneOrMore piece) text = some ('\x7b' :: rest)) :
    scan false Rule.declaration.pattern text = none := by
  rw [Option.eq_none_iff_forall_not_mem]
  intro after declared
  obtain ⟨name, others, value, named, colon_eq, valued, closed⟩ := scan_declaration.mp declared
  have first : past piece text = some (':' :: others) := by
    have colon : ColonNext name := by
      rw [ColonNext, colon_eq]
      rfl
    rw [past, scan_piece_of_word named colon, Option.map_some, colon_eq]
  have second : past piece (':' :: others) = some (skipBlank others) := by
    rw [past, scan_piece_plain (by decide) (by decide) (by decide), plain]
    simp (disch := decide) only [firstOf, scan_alt, scan_fails, Option.none_or, Rule.pattern,
      delimiters, List.map]
    simp [literal, scan_text, dropText?]
  have selected := (past_oneOrMore_piece.mp selector).2
  rw [past_many (by decide), first] at selected
  simp only at selected
  rw [past_many (by decide), second] at selected
  have value_eq := Option.some.inj (selected.symm.trans (past_oneOrMore_piece.mp valued).2)
  rw [← value_eq] at closed
  simp (disch := decide) [scan_alt, scan_ahead, literal, scan_text, dropText?] at closed

end Css
end LintBus

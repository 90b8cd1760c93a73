import LintBus.Proofs.Css.Fork

/-!
# Tokens, groups and runs of them

What a token reads is settled before the next brace or semicolon, and so is what a run of tokens and
groups reads that goes up to one.
-/

namespace LintBus
namespace Css

open Pattern

/-! ## First characters -/

/-- The character may be the first that the pattern reads, as far as that shows in a number of
steps. -/
def begins : Nat → Pattern → Char → Bool
  | 0, _, _ => true
  | _ + 1, .text letters, character => letters.head? = some character
  | _ + 1, .one set, character => set.contains character
  | steps + 1, .seq first second, character =>
      begins steps first character ||
        !first.consumes && (begins steps second character || isBlank character || character = '/')
  | steps + 1, .alt first second, character =>
      begins steps first character || begins steps second character
  | steps + 1, .optional pattern, character => begins steps pattern character
  | steps + 1, .many pattern, character | steps + 1, .more pattern, character =>
      begins steps pattern character || isBlank character || character = '/'
  | steps + 1, .rule name, character => begins steps name.pattern character
  | _ + 1, .finish, _ | _ + 1, .absent _, _ | _ + 1, .ahead _, _ => false

/-- What is skipped begins with a blank or a slash. -/
theorem Place.skip_head {place : Place} {taken : List Char} {character : Char}
    (leads : place.Leads place.skip taken) (head : character ∈ taken.head?) :
    (isBlank character || character = '/') = true := by
  obtain ⟨taken, rfl⟩ := List.head?_eq_some_iff.mp head
  have rest_eq : place.rest = character :: (taken ++ skipBlank place.rest) := by
    rw [← place.skip_rest]
    exact leads.1
  by_contra other
  obtain ⟨not_blank, not_slash⟩ := by simpa using other
  have skipped_eq : skipBlank (character :: (taken ++ skipBlank place.rest)) = _ :=
    skipBlank_of_notBlank not_blank fun slash => absurd slash not_slash
  have length_eq := congrArg List.length skipped_eq
  rw [← rest_eq] at length_eq
  have rest_length := congrArg List.length rest_eq
  simp only [List.length_cons, List.length_append] at rest_length
  omega

theorem Place.Leads.unique {place after : Place} {taken others : List Char}
    (leads : place.Leads after taken) (leads' : place.Leads after others) : taken = others :=
  List.append_cancel_right (leads.1.symm.trans leads'.1)

private theorem mem_head?_append {character : Char} {one other : List Char}
    (head : character ∈ (one ++ other).head?) :
    character ∈ one.head? ∨ one = [] ∧ character ∈ other.head? := by
  cases one with
  | nil => exact .inr ⟨rfl, head⟩
  | cons first one => exact .inl head

private theorem Place.skipUnless_head {place : Place} {inToken : Bool} {taken : List Char}
    {character : Char} (leads : place.Leads (place.skipUnless inToken) taken)
    (head : character ∈ taken.head?) : (isBlank character || character = '/') = true := by
  cases inToken with
  | true => simp [leads.unique (.refl place)] at head
  | false => exact place.skip_head leads head

/-- What a pattern reads begins with a character that may begin it. -/
theorem Reads.begins {fuel : Nat} {inToken : Bool} {pattern : Pattern} {place after : Place}
    {nodes : List Node} {character : Char} {taken : List Char}
    (reads : Reads inToken pattern place after nodes) (leads : place.Leads after taken)
    (head : character ∈ taken.head?) : begins fuel pattern character = true := by
  induction reads generalizing fuel taken with
  | stay idle place => simp [leads.unique (.refl place)] at head
  | text rest_eq =>
      obtain rfl := leads.unique ⟨rest_eq, rfl⟩
      cases fuel with
      | zero => rfl
      | succ fuel => simpa [Css.begins] using head
  | @one _ _ first _ _ rest_eq contained =>
      obtain rfl : taken = [first] := leads.unique ⟨rest_eq, rfl⟩
      obtain rfl : first = character := by simpa using head
      cases fuel with
      | zero => rfl
      | succ fuel => exact contained
  | @seq inToken _ _ _ between _ _ _ one other one_begins other_begins =>
      obtain ⟨first, one_leads, some_first⟩ := one.leads
      obtain ⟨blank, blank_leads⟩ := between.skipUnless_leads inToken
      obtain ⟨second, other_leads, -⟩ := other.leads
      obtain rfl := leads.unique ((one_leads.trans blank_leads).trans other_leads)
      cases fuel with
      | zero => rfl
      | succ fuel =>
          rw [Css.begins, Bool.or_eq_true, Bool.and_eq_true, Bool.not_eq_true', Bool.or_assoc,
            Bool.or_eq_true]
          rw [List.append_assoc] at head
          rcases mem_head?_append head with in_first | ⟨rfl, later⟩
          · exact .inl (one_begins one_leads in_first)
          · refine .inr ⟨by simpa using some_first, ?_⟩
            rcases mem_head?_append later with in_blank | ⟨-, in_second⟩
            · exact .inr (Place.skipUnless_head blank_leads in_blank)
            · exact .inl (other_begins other_leads in_second)
  | left _ one_begins =>
      cases fuel with
      | zero => rfl
      | succ fuel => exact Bool.or_eq_true_iff.mpr (.inl (one_begins leads head))
  | right _ other_begins =>
      cases fuel with
      | zero => rfl
      | succ fuel => exact Bool.or_eq_true_iff.mpr (.inr (other_begins leads head))
  | many once later once_begins later_begins =>
      obtain ⟨first, once_leads, -⟩ := once.leads
      obtain ⟨second, later_leads, -⟩ := later.leads
      obtain rfl := leads.unique (once_leads.trans later_leads)
      cases fuel with
      | zero => rfl
      | succ fuel =>
          rcases mem_head?_append head with in_first | ⟨-, in_second⟩
          · rw [Css.begins, Bool.or_assoc, Bool.or_eq_true]
            exact .inl (once_begins once_leads in_first)
          · have begins_more : Css.begins (fuel + 1) (.more _) character = true :=
              later_begins later_leads in_second
            exact begins_more
  | @more inToken _ place _ _ _ _ once later once_begins later_begins =>
      obtain ⟨blank, blank_leads⟩ := place.skipUnless_leads inToken
      obtain ⟨first, once_leads, -⟩ := once.leads
      obtain ⟨second, later_leads, -⟩ := later.leads
      obtain rfl := leads.unique ((blank_leads.trans once_leads).trans later_leads)
      rw [List.append_assoc] at head
      cases fuel with
      | zero => rfl
      | succ fuel =>
          rcases mem_head?_append head with in_blank | ⟨-, later_head⟩
          · rw [Css.begins, Bool.or_assoc, Bool.or_eq_true]
            exact .inr (Place.skipUnless_head blank_leads in_blank)
          · rcases mem_head?_append later_head with in_first | ⟨-, in_second⟩
            · rw [Css.begins, Bool.or_assoc, Bool.or_eq_true]
              exact .inl (once_begins once_leads in_first)
            · exact later_begins later_leads in_second
  | optional _ inner_begins | silent _ inner_begins | node _ inner_begins =>
      cases fuel with
      | zero => rfl
      | succ fuel => exact inner_begins leads head

/-- A pattern that consumes does not match before a character that does not begin it. -/
theorem scan_eq_none {inToken : Bool} {pattern : Pattern} {character : Char} {fuel : Nat}
    (consumes : pattern.consumes = true) (differs : begins fuel pattern character = false)
    (rest : List Char) : scan inToken pattern (character :: rest) = none := by
  rw [scan, Option.map_eq_none_iff, Option.eq_none_iff_forall_not_mem]
  rintro ⟨after, nodes⟩ reading
  obtain ⟨taken, leads, some_taken⟩ := readIn_leads reading
  obtain ⟨head, taken, rfl⟩ := List.exists_cons_of_ne_nil (some_taken consumes)
  obtain ⟨rfl, -⟩ := List.cons.inj leads.1
  rw [(reads_of_readIn reading).begins leads rfl] at differs
  simp at differs

/-- Whether a pattern may begin with a character shows in a few steps. -/
theorem scan_fails {inToken : Bool} (pattern : Pattern) {character : Char}
    (consumes : pattern.consumes = true) (differs : begins 30 pattern character = false)
    (rest : List Char) : scan inToken pattern (character :: rest) = none :=
  scan_eq_none consumes differs rest

theorem scan_nil {inToken : Bool} (pattern : Pattern) (consumes : pattern.consumes = true) :
    scan inToken pattern [] = none := by
  rw [Option.eq_none_iff_forall_not_mem]
  intro rest scanned
  obtain ⟨taken, nil_eq, some_taken⟩ := scan_suffix scanned
  exact some_taken consumes (List.append_eq_nil_iff.mp nil_eq.symm).1

theorem head?_of_scan_letter {inToken : Bool} {letter : Char} {pattern : Pattern}
    {text rest : List Char} (bounded : ((Pattern.text [letter]).seq pattern).isBounded = true)
    (scanned : scan inToken ((Pattern.text [letter]).seq pattern) text = some rest) :
    text.head? = some letter := by
  rw [scan_seq bounded, scan_letter] at scanned
  cases text with
  | nil => simp [afterChar?] at scanned
  | cons first text =>
      by_contra differs
      have other : first ≠ letter := by simpa using differs
      simp [afterChar?, other] at scanned

/-! ## Kinds of pieces -/

/-- What is no string and no group. -/
def plain : Pattern :=
  firstOf [Rule.number.pattern, Rule.hash.pattern, word, Rule.delimiter.pattern]

private theorem scan_piece (text : List Char) :
    scan false piece text =
      (scan true Rule.string.pattern text).or
        ((scan false Rule.parenGroup.pattern text).or
          ((scan false Rule.bracketGroup.pattern text).or (scan true plain text))) := by
  have delimiter_eq :
      scan false Rule.delimiter.pattern text = scan true Rule.delimiter.pattern text := by
    simp (disch := decide) only [Rule.pattern, delimiters, literal, firstOf, List.map, scan_alt,
      scan_text]
  simp (disch := decide) only [piece, firstOf, scan_alt, scan_rule, plain]
  rw [← delimiter_eq]
  rfl

/-- The quotes. -/
def isQuote (character : Char) : Bool := character = '"' || character = '\''

private theorem scan_piece_quote {quote : Char} (is_quote : isQuote quote = true)
    (rest : List Char) :
    scan false piece (quote :: rest) = scan true Rule.string.pattern (quote :: rest) := by
  have cases_quote : quote = '"' ∨ quote = '\'' := by simpa [isQuote] using is_quote
  have others {inToken : Bool} (pattern : Pattern) (consumes : pattern.consumes = true)
      (double : begins 30 pattern '"' = false) (single : begins 30 pattern '\'' = false) :
      scan inToken pattern (quote :: rest) = none := by
    rcases cases_quote with rfl | rfl
    · exact scan_fails pattern consumes double rest
    · exact scan_fails pattern consumes single rest
  rw [scan_piece, others Rule.parenGroup.pattern (by decide) (by decide) (by decide),
    others Rule.bracketGroup.pattern (by decide) (by decide) (by decide),
    others plain (by decide) (by decide) (by decide)]
  simp

private theorem scan_piece_paren (rest : List Char) :
    scan false piece ('(' :: rest) = scan false Rule.parenGroup.pattern ('(' :: rest) := by
  rw [scan_piece, scan_fails Rule.string.pattern (by decide) (by decide),
    scan_fails Rule.bracketGroup.pattern (by decide) (by decide),
    scan_fails plain (by decide) (by decide)]
  simp

private theorem scan_piece_bracket (rest : List Char) :
    scan false piece ('[' :: rest) = scan false Rule.bracketGroup.pattern ('[' :: rest) := by
  rw [scan_piece, scan_fails Rule.string.pattern (by decide) (by decide),
    scan_fails Rule.parenGroup.pattern (by decide) (by decide),
    scan_fails plain (by decide) (by decide)]
  simp

theorem scan_piece_plain {character : Char} (not_quote : isQuote character = false)
    (not_paren : character ≠ '(') (not_bracket : character ≠ '[') (rest : List Char) :
    scan false piece (character :: rest) = scan true plain (character :: rest) := by
  obtain ⟨not_double, not_single⟩ : character ≠ '"' ∧ character ≠ '\'' := by
    simpa [isQuote] using not_quote
  have not_string : begins 5 Rule.string.pattern character = false := by
    simp [begins, Rule.pattern, quoted, inOrder, literal, consumes, not_double.symm,
      not_single.symm]
  have not_paren_group : begins 5 Rule.parenGroup.pattern character = false := by
    simp [begins, Rule.pattern, inOrder, literal, consumes, not_paren.symm]
  have not_bracket_group : begins 5 Rule.bracketGroup.pattern character = false := by
    simp [begins, Rule.pattern, inOrder, literal, consumes, not_bracket.symm]
  rw [scan_piece, scan_eq_none (by decide) not_string, scan_eq_none (by decide) not_paren_group,
    scan_eq_none (by decide) not_bracket_group]
  simp

namespace Fork

variable {fork : Fork} {text text' rest : List Char}

private theorem mark_cases {kind : Char → Bool} (opening : kind '\x7b' = false)
    (closing : kind '\x7d' = false) (semicolon : kind ';' = false) (fork : Fork) :
    kind fork.mark = false := by
  rcases fork.marks with eq | eq | eq
  · exact eq ▸ opening
  · exact eq ▸ closing
  · exact eq ▸ semicolon

private theorem halts_letter (fork : Fork) {letter : Char}
    (differs : letter ≠ '\x7b' ∧ letter ≠ '\x7d' ∧ letter ≠ ';') :
    fork.Halts (.text [letter]) :=
  halts_char (scan_letter letter) (by simpa using fork.mark_ne differs)

private theorem halts_digit (fork : Fork) : fork.Halts (.one .digit) :=
  halts_char (scan_set .digit) (mark_cases (by decide) (by decide) (by decide) fork)

private theorem halts_alphabetic (fork : Fork) : fork.Halts (.one .alphabetic) :=
  halts_char (scan_set .alphabetic) (mark_cases (by decide) (by decide) (by decide) fork)

private theorem settles_escaped (fork : Fork) : fork.Settles escaped :=
  settles_seq (by decide) (fork.halts_letter (by decide)).toSettles settles_any
    (.inl (fork.halts_letter (by decide)))

private theorem settles_identifierChar (fork : Fork) : fork.Settles identifierChar :=
  settles_alt (by decide) (fork.halts_letter (by decide)).toSettles
    (settles_alt (by decide) (fork.halts_letter (by decide)).toSettles
      (settles_alt (by decide) fork.settles_escaped
        (settles_alt (by decide) fork.halts_alphabetic.toSettles fork.halts_digit.toSettles)))

theorem settles_word (fork : Fork) : fork.Settles word := by
  have start : fork.Settles (firstOf [literal "-", literal "_", escaped, .one .alphabetic]) :=
    settles_alt (by decide) (fork.halts_letter (by decide)).toSettles
      (settles_alt (by decide) (fork.halts_letter (by decide)).toSettles
        (settles_alt (by decide) fork.settles_escaped fork.halts_alphabetic.toSettles))
  exact settles_seq (by decide) start (settles_many (by decide) fork.settles_identifierChar)
    (.inr (scan_many_isSome (by decide)))

private theorem settles_rule {name : Rule} (settles : fork.Settles name.pattern) :
    fork.Settles (.rule name) := by
  refine ⟨fun parts scanned ahead => ?_, fun parts missed => ?_⟩
  · rw [scan_rule_inToken] at scanned ⊢
    exact settles.carries parts scanned ahead
  · rw [scan_rule_inToken] at missed ⊢
    exact settles.fails parts missed

private theorem halts_firstOf (patterns : List Pattern)
    (halts : ∀ pattern ∈ patterns, fork.Halts pattern)
    (bounded : (firstOf patterns).isBounded = true) (some_pattern : patterns ≠ []) :
    fork.Halts (firstOf patterns) := by
  induction patterns with
  | nil => exact absurd rfl some_pattern
  | cons first others induction =>
      cases others with
      | nil => exact halts first (by simp)
      | cons second others =>
          have others_bounded : (firstOf (second :: others)).isBounded = true :=
            (Bool.and_eq_true_iff.mp bounded).2
          exact halts_alt bounded (halts first (by simp))
            (induction (fun pattern found => halts pattern (List.mem_cons_of_mem _ found))
              others_bounded (by simp))

private theorem halts_delimiter (fork : Fork) : fork.Halts Rule.delimiter.pattern := by
  refine halts_firstOf (delimiters.map literal) (fun pattern found => ?_) (by decide) (by decide)
  obtain ⟨letters, known, rfl⟩ := List.mem_map.mp found
  have letter : ∃ letter, letters.toList = [letter] ∧
      (letter ≠ '\x7b' ∧ letter ≠ '\x7d' ∧ letter ≠ ';') := by
    simp only [delimiters, List.mem_cons, List.not_mem_nil, or_false] at known
    rcases known with rfl | rfl | rfl | rfl | rfl | rfl | rfl | rfl | rfl | rfl | rfl | rfl | rfl |
      rfl | rfl | rfl
    all_goals exact ⟨_, rfl, by decide⟩
  obtain ⟨letter, letters_eq, differs⟩ := letter
  rw [literal, letters_eq]
  exact fork.halts_letter differs

private theorem settles_number (fork : Fork) : fork.Settles Rule.number.pattern := by
  have digits : fork.Halts (oneOrMore (.one .digit)) :=
    halts_seq (by decide) fork.halts_digit (halts_many (by decide) fork.halts_digit)
  have fraction : fork.Halts (.seq (literal ".") (oneOrMore (.one .digit))) :=
    halts_seq (by decide) (fork.halts_letter (by decide)) digits
  have decimal : fork.Halts decimalDigits :=
    halts_alt (by decide)
      (halts_seq (by decide) digits (halts_optional (by decide) fraction)) fraction
  have sign : fork.Halts (.optional (.alt (literal "+") (literal "-"))) :=
    halts_optional (by decide) (halts_alt (by decide) (fork.halts_letter (by decide))
      (fork.halts_letter (by decide)))
  have identifier : fork.Settles (.rule .identifier) := settles_rule fork.settles_word
  have unit : fork.Settles (.optional (.alt (literal "%") (.rule .identifier))) :=
    settles_optional (by decide) (settles_alt (by decide)
      (fork.halts_letter (by decide)).toSettles identifier)
  exact settles_seq (by decide) sign.toSettles
    (settles_seq (by decide) decimal.toSettles unit (.inl decimal)) (.inl sign)

private theorem settles_hash (fork : Fork) : fork.Settles Rule.hash.pattern := by
  have characters : fork.Settles (oneOrMore identifierChar) :=
    settles_seq (by decide) fork.settles_identifierChar
      (settles_many (by decide) fork.settles_identifierChar)
      (.inr (scan_many_isSome (by decide)))
  have sign : fork.Halts (literal "#") := fork.halts_letter (by decide)
  exact settles_seq (by decide) sign.toSettles characters (.inl sign)

private theorem settles_plain (fork : Fork) : fork.Settles plain :=
  settles_alt (by decide) fork.settles_number (settles_alt (by decide) fork.settles_hash
    (settles_alt (by decide) fork.settles_word fork.halts_delimiter.toSettles))

private theorem carries_quoted {quote : String} (letter : Char)
    (letter_eq : literal quote = .text [letter])
    (differs : letter ≠ '\x7b' ∧ letter ≠ '\x7d' ∧ letter ≠ ';') :
    fork.Carries true (quoted quote) := by
  have quote_halts : fork.Halts (.text [letter]) := fork.halts_letter differs
  have closing : fork.Halts (firstOf [.text [letter], literal "\\", literal "\n"]) :=
    halts_alt rfl quote_halts
      (halts_alt (by decide) (fork.halts_letter (by decide)) (fork.halts_letter (by decide)))
  have inner : fork.Halts (.absent (firstOf [.text [letter], literal "\\", literal "\n"])) :=
    halts_absent rfl closing
  have character : fork.Settles (.alt escaped
      (.seq (.absent (firstOf [.text [letter], literal "\\", literal "\n"])) (.one .any))) :=
    settles_alt rfl fork.settles_escaped
      (settles_seq rfl inner.toSettles settles_any (.inl inner))
  intro text text' rest parts scanned ahead
  simp only [quoted, letter_eq, inOrder] at scanned ⊢
  exact carries_seq rfl quote_halts.carries
    (carries_seq rfl (settles_many rfl character).carries quote_halts.carries) parts scanned ahead

private theorem carries_string (fork : Fork) : fork.Carries true Rule.string.pattern := by
  intro text text' rest parts scanned ahead
  have double : fork.Carries true (quoted "\"") :=
    carries_quoted '"' rfl (by decide)
  have single : fork.Carries true (quoted "'") :=
    carries_quoted '\'' rfl (by decide)
  simp (disch := decide) only [Rule.pattern, scan_alt, Option.or_eq_some_iff] at scanned ⊢
  rcases scanned with scanned | ⟨-, scanned⟩
  · obtain ⟨rest', scanned', rest_parts⟩ := double parts scanned ahead
    exact ⟨rest', .inl scanned', rest_parts⟩
  · obtain ⟨rest', scanned', rest_parts⟩ := single parts scanned ahead
    refine ⟨rest', .inr ⟨?_, scanned'⟩, rest_parts⟩
    have head_eq : text.head? = some '\'' := head?_of_scan_letter (by decide) scanned
    rw [parts.head?_eq] at head_eq
    obtain ⟨others, rfl⟩ := List.head?_eq_some_iff.mp head_eq
    exact scan_fails (quoted "\"") (by decide) (by decide) others

/-! ## Runs of pieces -/

/-- What the pattern reads of a text shorter than the limit is the same in both texts. -/
def CarriesBelow (fork : Fork) (limit : Nat) (pattern : Pattern) : Prop :=
  ∀ {text text' rest}, text.length < limit → fork.Parts text text' →
    scan false pattern text = some rest → fork.Ahead rest →
      ∃ rest', scan false pattern text' = some rest' ∧ fork.Parts rest rest'

/-- A repetition up to a character that the pattern does not read goes equally far in both texts. -/
theorem CarriesBelow.past_many {limit : Nat} {pattern : Pattern}
    (carries : fork.CarriesBelow limit pattern) (bounded : pattern.many.isBounded = true)
    (below : text.length < limit) (parts : fork.Parts text text')
    (skipped : Css.skipBlank text = text) (passed : past pattern.many text = some rest)
    (ahead : fork.Ahead rest)
    (closed : ∀ character ∈ rest.head?, ∀ others, scan false pattern (character :: others) = none) :
    ∃ rest', past pattern.many text' = some rest' ∧ fork.Parts rest rest' := by
  induction length_eq : text.length using Nat.strongRecOn generalizing text text' with
  | ind length induction =>
      rw [Css.past_many bounded] at passed ⊢
      cases once : scan false pattern text with
      | none =>
          obtain rfl : text = rest := by simpa [past, once, skipped] using passed
          have missed : scan false pattern text' = none := by
            obtain ⟨character, others, text_eq⟩ := List.exists_cons_of_ne_nil
              (List.ne_nil_of_length_pos (Nat.zero_lt_of_lt ahead))
            have head_eq := parts.head?_eq
            rw [text_eq] at head_eq
            obtain ⟨others', rfl⟩ := List.head?_eq_some_iff.mp head_eq.symm
            exact closed character (by simp [text_eq]) others'
          refine ⟨Css.skipBlank text', by simp [past, missed], ?_⟩
          have skipped_parts := parts.skipBlank (by rwa [skipped])
          rwa [skipped] at skipped_parts
      | some after =>
          have passed_once : past pattern text = some (Css.skipBlank after) := by
            rw [past, once, Option.map_some]
          simp only [passed_once] at passed
          have after_ahead : fork.Ahead (Css.skipBlank after) := ahead.of_le (length_past_le passed)
          obtain ⟨after', once', after_parts⟩ :=
            carries below parts once (after_ahead.of_le (length_skipBlank_le after))
          have shorter : (Css.skipBlank after).length < length :=
            Nat.lt_of_le_of_lt (length_skipBlank_le after)
              (length_eq ▸ length_of_repeated bounded once)
          have passed_once' : past pattern text' = some (Css.skipBlank after') := by
            rw [past, once', Option.map_some]
          simp only [passed_once']
          exact induction _ shorter (by omega) (after_parts.skipBlank after_ahead)
            (skipBlank_skipBlank after) passed rfl

/-- A group up to its closing character goes equally far in both texts. -/
theorem CarriesBelow.group {opening closing : Char} {pattern : Pattern}
    (carries : fork.CarriesBelow text.length pattern) (bounded : pattern.many.isBounded = true)
    (group_bounded : (Pattern.seq (.text [opening])
      (.seq (.many pattern) (.text [closing]))).isBounded = true)
    (closed : ∀ others, scan false pattern (closing :: others) = none)
    (parts : fork.Parts text text')
    (scanned : scan false (.seq (.text [opening]) (.seq (.many pattern) (.text [closing]))) text =
      some rest) (ahead : fork.Ahead rest) :
    ∃ rest', scan false (.seq (.text [opening]) (.seq (.many pattern) (.text [closing]))) text' =
      some rest' ∧ fork.Parts rest rest' := by
  have group_eq (first : Char) (inner : List Char) :
      scan false (.seq (.text [opening]) (.seq (.many pattern) (.text [closing])))
          (first :: inner) =
        if first = opening then
          (past pattern.many (Css.skipBlank inner)).bind (scan false (.text [closing]))
        else none := by
    have inner_bounded := (Bool.and_eq_true_iff.mp group_bounded).2
    rw [scan_seq_past group_bounded, past, scan_letter, afterChar?]
    by_cases same : first = opening
    · rw [if_pos (decide_eq_true same), if_pos same, Option.map_some, Option.bind_some,
        scan_seq_past inner_bounded]
    · rw [if_neg (by simpa using same), if_neg same]
      rfl
  obtain ⟨first, inner, rfl⟩ := List.exists_cons_of_ne_nil
    (List.ne_nil_of_length_pos (Nat.zero_lt_of_lt parts.ahead))
  rw [group_eq] at scanned
  by_cases same : first = opening
  · rw [if_pos same, Option.bind_eq_some_iff] at scanned
    obtain ⟨after, passed, scanned⟩ := scanned
    obtain rfl : after = closing :: rest := by
      rw [scan_text] at scanned
      exact dropText?_eq_some.mp scanned
    have after_ahead : fork.Ahead (closing :: rest) := ahead.of_le (by simp)
    have skipped_ahead : fork.Ahead (Css.skipBlank inner) :=
      after_ahead.of_le (length_past_le passed)
    have inner_le := length_skipBlank_le inner
    obtain ⟨inner', rfl, inner_parts⟩ := parts.tail (skipped_ahead.of_le inner_le)
    obtain ⟨after', passed', after_parts⟩ :=
      carries.past_many bounded (by simp only [List.length_cons]; omega)
        (inner_parts.skipBlank skipped_ahead) (skipBlank_skipBlank inner) passed after_ahead
        (by simpa using closed)
    obtain ⟨rest', rfl, rest_parts⟩ := after_parts.tail ahead
    refine ⟨rest', ?_, rest_parts⟩
    rw [group_eq, if_pos same, passed', Option.bind_some, scan_text]
    exact dropText?_eq_some.mpr rfl
  · simp [same] at scanned

private theorem CarriesBelow.orSemicolon {limit : Nat} (carries : fork.CarriesBelow limit piece) :
    fork.CarriesBelow limit (.alt piece (literal ";")) := by
  intro text text' rest below parts scanned ahead
  rw [scan_alt (by decide)] at scanned ⊢
  rcases Option.or_eq_some_iff.mp scanned with scanned | ⟨-, scanned⟩
  · obtain ⟨rest', scanned', rest_parts⟩ := carries below parts scanned ahead
    exact ⟨rest', by rw [scanned', Option.some_or], rest_parts⟩
  · obtain rfl : text = ';' :: rest := by
      rw [literal, scan_text] at scanned
      exact dropText?_eq_some.mp scanned
    obtain ⟨rest', rfl, rest_parts⟩ := parts.tail ahead
    refine ⟨rest', ?_, rest_parts⟩
    rw [scan_fails piece (by decide) (by decide), Option.none_or,
      literal, scan_text]
    exact dropText?_eq_some.mpr rfl

/-- A piece that ends before the mark is the same in both texts. -/
theorem carries_piece (fork : Fork) : fork.Carries false piece := by
  intro text text' rest parts scanned ahead
  induction length_eq : text.length using Nat.strongRecOn generalizing text text' rest with
  | ind length induction =>
      have below : fork.CarriesBelow text.length piece := fun shorter parts scanned ahead =>
        induction _ (length_eq ▸ shorter) parts scanned ahead rfl
      obtain ⟨head, others, text_eq⟩ := List.exists_cons_of_ne_nil
        (List.ne_nil_of_length_pos (Nat.zero_lt_of_lt parts.ahead))
      obtain ⟨others', text_eq'⟩ :=
        List.head?_eq_some_iff.mp ((text_eq ▸ parts.head?_eq).symm : text'.head? = some head)
      by_cases is_quote : isQuote head = true
      · rw [text_eq, scan_piece_quote is_quote, ← text_eq] at scanned
        rw [text_eq', scan_piece_quote is_quote, ← text_eq']
        exact fork.carries_string parts scanned ahead
      by_cases is_paren : head = '('
      · subst is_paren
        rw [text_eq, scan_piece_paren, ← text_eq] at scanned
        rw [text_eq', scan_piece_paren, ← text_eq']
        exact CarriesBelow.group (CarriesBelow.orSemicolon below) (by decide) (by decide)
          (scan_fails _ (by decide) (by decide)) parts scanned ahead
      by_cases is_bracket : head = '['
      · subst is_bracket
        rw [text_eq, scan_piece_bracket, ← text_eq] at scanned
        rw [text_eq', scan_piece_bracket, ← text_eq']
        exact CarriesBelow.group below (by decide) (by decide)
          (scan_fails _ (by decide) (by decide)) parts scanned ahead
      rw [Bool.not_eq_true] at is_quote
      rw [text_eq, scan_piece_plain is_quote is_paren is_bracket, ← text_eq] at scanned
      rw [text_eq', scan_piece_plain is_quote is_paren is_bracket, ← text_eq']
      exact fork.settles_plain.carries parts scanned ahead

end Fork
end Css
end LintBus

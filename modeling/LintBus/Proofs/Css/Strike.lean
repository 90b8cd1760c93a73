import LintBus.Proofs.Css.Outline

/-!
# Striking empty rulesets

A text without its empty rulesets is read as before: every other part of it is read again, whatever
the parts after it and the blocks inside it have become.
-/

namespace LintBus
namespace Css

open Pattern

/-! ## Parts up to a mark -/

private theorem past_atHead {text rest : List Char} :
    past atHead text = some rest ↔
      ∃ keyword name, text = '@' :: keyword ∧ scan true word (skipBlank keyword) = some name ∧
        past piece.many (skipBlank name) = some rest := by
  simp (disch := decide) only [atHead, inOrder, past_seq, Option.bind_eq_some_iff]
  simp only [past_word_rule .atKeyword rfl rfl, Option.map_eq_some_iff, past_rule .prelude rfl]
  constructor
  · rintro ⟨_, sign, _, ⟨name, named, rfl⟩, passed⟩
    obtain ⟨keyword, rfl, rfl⟩ := past_letter_eq_some.mp sign
    exact ⟨keyword, name, rfl, named, passed⟩
  · rintro ⟨keyword, name, rfl, named, passed⟩
    exact ⟨_, past_letter_eq_some.mpr ⟨keyword, rfl, rfl⟩, _, ⟨name, named, rfl⟩, passed⟩

namespace Fork.Parts

variable {fork : Fork} {text text' : List Char}

private theorem unique {other : List Char} (parts : fork.Parts text text')
    (others : fork.Parts text other) : text' = other := by
  obtain ⟨common, rfl, rfl⟩ := parts
  obtain ⟨common', text_eq, rfl⟩ := others
  rw [List.append_cancel_right text_eq]

private theorem eq_of_mark (parts : fork.Parts (fork.mark :: fork.tail) text') :
    text' = fork.mark :: fork.other :=
  parts.unique fork.parts_mark

private theorem skipped (parts : fork.Parts text text') (skipped : Css.skipBlank text = text) :
    Css.skipBlank text' = text' := by
  have skipped_parts := parts.skipBlank (by rw [skipped]; exact parts.ahead)
  rw [skipped] at skipped_parts
  exact skipped_parts.unique parts

private theorem mark_ahead (fork : Fork) : fork.Ahead (fork.mark :: fork.tail) := Nat.lt_succ_self _

private theorem scan_piece_mark (fork : Fork) (others : List Char) :
    scan false piece (fork.mark :: others) = none := by
  rcases fork.marks with eq | eq | eq
  · exact eq ▸ scan_fails piece (by decide) (by decide) others
  · exact eq ▸ scan_fails piece (by decide) (by decide) others
  · exact eq ▸ scan_fails piece (by decide) (by decide) others

private theorem past_pieces (parts : fork.Parts text text') (skipped : Css.skipBlank text = text)
    (passed : past piece.many text = some (fork.mark :: fork.tail)) :
    past piece.many text' = some (fork.mark :: fork.other) := by
  have carries : fork.CarriesBelow (text.length + 1) piece := fun _ parts scanned ahead =>
    fork.carries_piece parts scanned ahead
  obtain ⟨rest', passed', rest_parts⟩ := CarriesBelow.past_many carries (by decide)
    (Nat.lt_succ_self _) parts skipped passed (mark_ahead fork)
    (by simpa using scan_piece_mark fork)
  rw [passed', rest_parts.eq_of_mark]

private theorem past_oneOrMore (parts : fork.Parts text text') (skipped : Css.skipBlank text = text)
    (passed : past (oneOrMore piece) text = some (fork.mark :: fork.tail)) :
    past (oneOrMore piece) text' = some (fork.mark :: fork.other) := by
  obtain ⟨first, passed⟩ := past_oneOrMore_piece.mp passed
  refine past_oneOrMore_piece.mpr ⟨?_, parts.past_pieces skipped passed⟩
  obtain ⟨between, first_passed⟩ := Option.isSome_iff_exists.mp first
  rw [Css.past_many (by decide), first_passed] at passed
  have between_ahead := (mark_ahead fork).of_le (length_past_le passed)
  obtain ⟨after, scanned, rfl⟩ := Option.map_eq_some_iff.mp first_passed
  obtain ⟨after', scanned', -⟩ :=
    fork.carries_piece parts scanned (between_ahead.of_le (length_skipBlank_le after))
  simp [past, scanned']

private theorem past_word {name : List Char} (parts : fork.Parts text text')
    (named : scan true word text = some name) (ahead : fork.Ahead (Css.skipBlank name)) :
    ∃ name', scan true word text' = some name' ∧
      fork.Parts (Css.skipBlank name) (Css.skipBlank name') := by
  obtain ⟨name', named', name_parts⟩ :=
    fork.settles_word.carries parts named (ahead.of_le (length_skipBlank_le name))
  exact ⟨name', named', name_parts.skipBlank ahead⟩

private theorem declaration {name others : List Char} (parts : fork.Parts text text')
    (named : scan true word text = some name) (colon : Css.skipBlank name = ':' :: others)
    (valued : past (oneOrMore piece) (Css.skipBlank others) = some (fork.mark :: fork.tail)) :
    ∃ name' others', scan true word text' = some name' ∧ Css.skipBlank name' = ':' :: others' ∧
      past (oneOrMore piece) (Css.skipBlank others') = some (fork.mark :: fork.other) := by
  have value_ahead : fork.Ahead (Css.skipBlank others) :=
    (mark_ahead fork).of_le (length_past_le valued)
  have others_ahead := value_ahead.of_le (length_skipBlank_le others)
  obtain ⟨name', named', name_parts⟩ :=
    parts.past_word named (others_ahead.of_le (by simp [colon]))
  rw [colon] at name_parts
  obtain ⟨others', colon', others_parts⟩ := name_parts.tail others_ahead
  exact ⟨name', others', named', colon', (others_parts.skipBlank value_ahead).past_oneOrMore
    (skipBlank_skipBlank others) valued⟩

private theorem past_atHead (parts : fork.Parts text text')
    (passed : past atHead text = some (fork.mark :: fork.tail)) :
    past atHead text' = some (fork.mark :: fork.other) := by
  obtain ⟨keyword, name, rfl, named, passed⟩ := Css.past_atHead.mp passed
  have name_ahead : fork.Ahead (Css.skipBlank name) :=
    (mark_ahead fork).of_le (length_past_le passed)
  have keyword_ahead : fork.Ahead (Css.skipBlank keyword) :=
    name_ahead.of_le (Nat.le_trans (length_skipBlank_le name) (length_of_scan named))
  obtain ⟨keyword', rfl, keyword_parts⟩ :=
    parts.tail (keyword_ahead.of_le (length_skipBlank_le keyword))
  obtain ⟨name', named', name_parts⟩ :=
    (keyword_parts.skipBlank keyword_ahead).past_word named name_ahead
  exact Css.past_atHead.mpr ⟨keyword', name', rfl, named',
    name_parts.past_pieces (skipBlank_skipBlank name) passed⟩

end Fork.Parts

/-! ## What is kept of a text -/

/-- What is kept of a text that begins at an offset without the characters that are gone. -/
def keep (gone : Nat → Bool) (offset : Nat) : List Char → List Char
  | [] => []
  | character :: rest =>
      if gone offset then keep gone (offset + 1) rest
      else character :: keep gone (offset + 1) rest

section Keep

variable {gone : Nat → Bool} {offset : Nat} {taken rest : List Char}

private theorem keep_append (gone : Nat → Bool) (offset : Nat) (taken rest : List Char) :
    keep gone offset (taken ++ rest) =
      keep gone offset taken ++ keep gone (offset + taken.length) rest := by
  induction taken generalizing offset with
  | nil => rfl
  | cons character taken induction =>
      rw [List.cons_append, keep, keep, induction, List.length_cons, Nat.add_assoc, Nat.add_comm 1]
      split
      · rfl
      · rfl

private theorem keep_of_not_gone
    (not_gone : ∀ other, offset ≤ other → other < offset + taken.length → gone other = false) :
    keep gone offset taken = taken := by
  induction taken generalizing offset with
  | nil => rfl
  | cons character taken induction =>
      rw [List.length_cons] at not_gone
      rw [keep, if_neg (by simp [not_gone offset (by omega) (by omega)]),
        induction fun other le lt => not_gone other (by omega) (by omega)]

private theorem keep_of_gone
    (all_gone : ∀ other, offset ≤ other → other < offset + taken.length → gone other = true) :
    keep gone offset taken = [] := by
  induction taken generalizing offset with
  | nil => rfl
  | cons character taken induction =>
      rw [List.length_cons] at all_gone
      rw [keep, if_pos (all_gone offset (by omega) (by omega)),
        induction fun other le lt => all_gone other (by omega) (by omega)]

theorem length_keep_le (gone : Nat → Bool) (offset : Nat) (text : List Char) :
    (keep gone offset text).length ≤ text.length := by
  induction text generalizing offset with
  | nil => exact Nat.le_refl _
  | cons character text induction =>
      have := induction (offset + 1)
      rw [keep]
      split
      · simp only [List.length_cons]
        omega
      · simp only [List.length_cons]
        omega

end Keep

/-- What is kept of the text after a place. -/
def Place.kept (gone : Nat → Bool) (place : Place) : List Char := keep gone place.offset place.rest

section Kept

variable {gone : Nat → Bool} {place after : Place} {taken : List Char}

private theorem Place.Leads.kept_eq (leads : place.Leads after taken)
    (not_gone : ∀ offset, place.offset ≤ offset → offset < after.offset → gone offset = false) :
    place.kept gone = taken ++ after.kept gone := by
  rw [Place.kept, leads.1, keep_append, ← leads.2, keep_of_not_gone, Place.kept]
  rwa [← leads.2]

private theorem Place.Leads.kept_gone (leads : place.Leads after taken)
    (all_gone : ∀ offset, place.offset ≤ offset → offset < after.offset → gone offset = true) :
    place.kept gone = after.kept gone := by
  rw [Place.kept, leads.1, keep_append, ← leads.2, keep_of_gone, Place.kept, List.nil_append]
  rwa [← leads.2]

private theorem Place.kept_cons {character : Char} {rest : List Char}
    (rest_eq : place.rest = character :: rest) (not_gone : gone place.offset = false) :
    place.kept gone = character :: Place.kept gone ⟨rest, place.offset + 1⟩ := by
  rw [Place.kept, rest_eq, keep, if_neg (by simp [not_gone]), Place.kept]

/-- What is kept after a place closes no comment and no block that the text does not close. -/
structure Fits (gone : Nat → Bool) (place : Place) : Prop where
  unclosed : Unclosed place.rest (place.kept gone)
  closing : place.rest.head? = some '\x7d' → (place.kept gone).head? = some '\x7d'

private theorem Fits.of_letter {letter : Char} {rest : List Char}
    (fits : Fits gone ⟨rest, place.offset + 1⟩) (rest_eq : place.rest = letter :: rest)
    (not_gone : gone place.offset = false) (not_star : letter ≠ '*') : Fits gone place := by
  have kept_eq := Place.kept_cons rest_eq not_gone
  constructor
  · rw [rest_eq, kept_eq]
    exact fits.unclosed.append [letter] (by simpa using not_star)
  · rw [rest_eq, kept_eq]
    exact id

/-- The blanks before a place may be kept. -/
theorem Fits.of_skip (fits : Fits gone place.skip)
    (not_gone : ∀ offset, place.offset ≤ offset → offset < place.skip.offset →
      gone offset = false) :
    Fits gone place ∧ skipBlank (place.kept gone) = skipBlank (place.skip.kept gone) := by
  obtain ⟨filler, leads, filled⟩ := place.skip_filler
  have kept_eq := leads.kept_eq not_gone
  refine ⟨⟨?_, fun head => ?_⟩, by rw [kept_eq, filled.skipBlank_append]⟩
  · rw [leads.1, kept_eq]
    exact fits.unclosed.append filler filled.getLast?_ne
  · cases filler with
    | nil =>
        rw [leads.eq_of_nil] at fits
        exact fits.closing head
    | cons first filler =>
        have brace : first = '\x7d' := by
          rw [leads.1] at head
          simpa using head
        subst brace
        have blank := Place.skip_head leads rfl
        simp [isBlank] at blank

end Kept

/-! ## Parts of a row -/

/-- After what is kept of a part or a row the rest is read as it would be without it. -/
def Level.Resumes : Level → List Char → List Char → Prop
  | .row nested, kept, rest | .part nested, kept, rest =>
      past (statement nested).many (skipBlank kept) = past (statement nested).many (skipBlank rest)
  | .block, kept, rest => scan false (.rule .block) kept = some rest

private theorem resumes_of_scan {nested : Bool} {text rest : List Char}
    (skipped : skipBlank text = text)
    (scanned : scan false (statement nested) text = some rest) :
    (Level.part nested).Resumes text rest := by
  have bounded : (statement nested).many.isBounded = true := by
    cases nested <;> decide
  rw [Level.Resumes, skipped, past_many bounded, past, scanned]
  rfl

private theorem scan_statement_of_atRule {text rest : List Char} (nested : Bool)
    (scanned : scan false (.rule .atRule) ('@' :: text) = some rest) :
    scan false (statement nested) ('@' :: text) = some rest := by
  cases nested with
  | false =>
      rw [statement, if_neg Bool.false_ne_true, scan_alt (by decide), scanned, Option.some_or]
  | true =>
      rw [statement, if_pos rfl]
      simp (disch := decide) only [blockPart, firstOf, scan_alt]
      rw [scan_fails (.rule .declaration) (by decide) (by decide), scanned, Option.none_or,
        Option.some_or]

private theorem scan_statement_of_ruleset {text selected rest : List Char} (nested : Bool)
    (selector : past (oneOrMore piece) text = some ('\x7b' :: selected))
    (scanned : scan false (.rule .ruleset) text = some rest) :
    scan false (statement nested) text = some rest := by
  have not_declaration : scan false (.rule .declaration) text = none := by
    rw [scan_rule]
    exact scan_declaration_of_selector selector
  have not_at_rule : scan false (.rule .atRule) text = none := by
    cases text with
    | nil => exact scan_nil _ (by decide)
    | cons head text =>
        have not_sign : head ≠ '@' := by
          rintro rfl
          rw [past, scan_fails _ (by decide) (by decide)] at selector
          simp at selector
        have differs : begins 3 (.rule .atRule) head = false := by
          simp [begins, Rule.pattern, inOrder, literal, consumes, not_sign.symm]
        exact scan_eq_none (by decide) differs text
  cases nested with
  | false =>
      rw [statement, if_neg Bool.false_ne_true, scan_alt (by decide), not_at_rule, Option.none_or,
        scanned]
  | true =>
      rw [statement, if_pos rfl]
      simp (disch := decide) only [blockPart, firstOf, scan_alt]
      rw [not_declaration, not_at_rule, scanned, Option.none_or, Option.none_or, Option.some_or]

section Parts

variable {gone : Nat → Bool} {place between after : Place} {taken : List Char}

/-- Where a mark is kept, the text and what is kept of it part. -/
def Fits.fork {mark : Char} {tail other : List Char} (fits : Fits gone place)
    (rest_eq : place.rest = mark :: tail) (kept_eq : place.kept gone = mark :: other)
    (marks : mark = '\x7b' ∨ mark = '\x7d' ∨ mark = ';') : Fork where
  mark := mark
  tail := tail
  other := other
  marks := marks
  unclosed := by
    have not_star : mark ≠ '*' := by
      rcases marks with rfl | rfl | rfl
      all_goals decide
    have unclosed := fits.unclosed
    rw [rest_eq, kept_eq] at unclosed
    intro none_eq
    have none_after := unclosed (by
      rw [afterComment?_cons, if_neg fun closes => not_star closes.1, none_eq])
    rwa [afterComment?_cons, if_neg fun closes => not_star closes.1] at none_after

private theorem Fork.Parts.fits {fork : Fork} (parts : fork.Parts place.rest (place.kept gone)) :
    Fits gone place :=
  ⟨parts.unclosed, fun head => parts.head?_eq ▸ head⟩

private theorem Place.Leads.parts {fork : Fork} (leads : place.Leads between taken)
    (not_gone : ∀ offset, place.offset ≤ offset → offset < between.offset → gone offset = false)
    (rest_eq : between.rest = fork.mark :: fork.tail)
    (kept_eq : between.kept gone = fork.mark :: fork.other) :
    fork.Parts place.rest (place.kept gone) :=
  ⟨taken, by rw [leads.1, rest_eq], by rw [leads.kept_eq not_gone, kept_eq]⟩

private theorem resumes_semicolon {rest : List Char} {offset : Nat} (not_gone : gone offset = false)
    (fits : Fits gone ⟨rest, offset + 1⟩) :
    Fits gone ⟨';' :: rest, offset⟩ ∧
      (Level.part true).Resumes (Place.kept gone ⟨';' :: rest, offset⟩)
        (Place.kept gone ⟨rest, offset + 1⟩) := by
  refine ⟨fits.of_letter rfl not_gone (by decide), ?_⟩
  rw [Place.kept_cons rfl not_gone]
  refine resumes_of_scan (skipBlank_of_notBlank (by decide) (by simp)) ?_
  rw [statement, if_pos rfl]
  simp (disch := decide) only [blockPart, firstOf, scan_alt, scan_fails, Option.none_or]
  rw [literal, scan_text]
  exact dropText?_eq_some.mpr rfl

private theorem scan_declarationEnd {value rest : List Char} :
    scan false (.alt (literal ";") (.ahead (literal "\x7d"))) value = some rest ↔
      value = ';' :: rest ∨ value = rest ∧ rest.head? = some '\x7d' := by
  rw [scan_alt (by decide), scan_ahead (by decide), Option.or_eq_some_iff, literal, literal,
    scan_text, scan_text, dropText?_eq_some]
  refine or_congr_right ⟨?_, ?_⟩
  · rintro ⟨-, ahead⟩
    split at ahead
    · next matched =>
        obtain rfl := Option.some.inj ahead
        obtain ⟨others, brace⟩ := Option.isSome_iff_exists.mp matched
        obtain rfl := dropText?_eq_some.mp brace
        exact ⟨rfl, rfl⟩
    · simp at ahead
  · rintro ⟨rfl, head⟩
    obtain ⟨others, rfl⟩ := List.head?_eq_some_iff.mp head
    exact ⟨rfl, rfl⟩

private theorem resumes_declaration {nodes : List Node}
    (reading : read false (.rule .declaration) place = some (after, nodes))
    (skipped : skipBlank place.rest = place.rest)
    (not_gone : ∀ offset, place.offset ≤ offset → offset < after.offset → gone offset = false)
    (fits : Fits gone after) :
    Fits gone place ∧ (Level.part true).Resumes (place.kept gone) (after.kept gone) := by
  have scanned := scan_eq_some reading
  rw [scan_rule] at scanned
  obtain ⟨name, others, value, named, colon, valued, ended⟩ := scan_declaration.mp scanned
  obtain ⟨taken, leads, -⟩ := readIn_leads reading
  have read_again (fork : Fork) (parts : fork.Parts place.rest (place.kept gone))
      (value_eq : value = fork.mark :: fork.tail)
      (ends : scan false (.alt (literal ";") (.ahead (literal "\x7d"))) (fork.mark :: fork.other) =
        some (after.kept gone)) :
      Fits gone place ∧ (Level.part true).Resumes (place.kept gone) (after.kept gone) := by
    refine ⟨parts.fits, resumes_of_scan (parts.skipped skipped) ?_⟩
    obtain ⟨name', others', named', colon', valued'⟩ :=
      parts.declaration named colon (value_eq ▸ valued)
    have declared := scan_declaration.mpr ⟨name', others', _, named', colon', valued', ends⟩
    rw [statement, if_pos rfl, blockPart, firstOf, scan_alt (by decide), scan_rule]
    · rw [show Rule.declaration.isToken = false from rfl, declared, Option.some_or]
    · simp
  rcases scan_declarationEnd.mp ended with value_eq | ⟨value_eq, head⟩
  · obtain ⟨before, rest_eq⟩ : value <:+ place.rest := by
      obtain ⟨_, rest_eq, -⟩ := scan_suffix named
      have name_suffix : skipBlank name <:+ place.rest :=
        (skipBlank_isSuffix name).trans ⟨_, rest_eq.symm⟩
      rw [colon] at name_suffix
      exact (past_isSuffix valued).trans ((skipBlank_isSuffix others).trans
        ((List.suffix_cons ':' others).trans name_suffix))
    rw [value_eq] at rest_eq
    have taken_eq : taken = before ++ [';'] := by
      have both := leads.1
      rw [← rest_eq] at both
      exact (List.append_cancel_right (by simpa using both)).symm
    obtain ⟨rest, offset⟩ := after
    obtain rfl : offset = place.offset + before.length + 1 := by
      have offset_eq := leads.2
      rw [taken_eq, List.length_append] at offset_eq
      exact offset_eq
    have up_to : place.Leads ⟨';' :: rest, place.offset + before.length⟩ before :=
      ⟨rest_eq.symm, rfl⟩
    have semicolon_kept := not_gone (place.offset + before.length) (by omega) (Nat.lt_succ_self _)
    have kept_eq : Place.kept gone ⟨';' :: rest, place.offset + before.length⟩ =
        ';' :: Place.kept gone ⟨rest, place.offset + before.length + 1⟩ :=
      Place.kept_cons rfl semicolon_kept
    have mark_fits : Fits gone ⟨';' :: rest, place.offset + before.length⟩ :=
      fits.of_letter rfl semicolon_kept (by decide)
    refine read_again (mark_fits.fork rfl kept_eq (.inr (.inr rfl)))
      (up_to.parts (fun other le lt => not_gone other le (Nat.lt_succ_of_lt lt)) rfl kept_eq)
      value_eq (scan_declarationEnd.mpr (.inl rfl))
  · obtain ⟨tail, rest_eq⟩ := List.head?_eq_some_iff.mp head
    obtain ⟨other, kept_eq⟩ := List.head?_eq_some_iff.mp (fits.closing head)
    refine read_again (fits.fork rest_eq kept_eq (.inr (.inl rfl)))
      (leads.parts not_gone rest_eq kept_eq) (value_eq.trans rest_eq) ?_
    exact scan_declarationEnd.mpr (.inr ⟨kept_eq.symm, by rw [kept_eq]; rfl⟩)

/-- The head of an at-rule or a ruleset up to a mark parts from what is kept of it. -/
theorem fork_of_head {pattern : Pattern} {heads : List Node} {mark : Char} {tail : List Char}
    (head : read false pattern place = some (between, heads))
    (rest_eq : between.skip.rest = mark :: tail)
    (marks : mark = '\x7b' ∨ mark = '\x7d' ∨ mark = ';')
    (not_gone : ∀ offset, place.offset ≤ offset → offset ≤ between.skip.offset →
      gone offset = false)
    (fits : Fits gone between.skip) :
    ∃ fork : Fork, fork.mark = mark ∧ between.skip.kept gone = fork.mark :: fork.other ∧
      fork.other = Place.kept gone ⟨tail, between.skip.offset + 1⟩ ∧
      fork.Parts place.rest (place.kept gone) ∧
      past pattern place.rest = some (fork.mark :: fork.tail) := by
  obtain ⟨taken, head_leads, -⟩ := readIn_leads head
  obtain ⟨blank, blank_leads⟩ := between.skip_leads
  have leads := head_leads.trans blank_leads
  have kept_eq : between.skip.kept gone =
      mark :: Place.kept gone ⟨tail, between.skip.offset + 1⟩ := by
    have offset_eq := leads.2
    exact Place.kept_cons rest_eq (not_gone between.skip.offset (by omega) (Nat.le_refl _))
  refine ⟨fits.fork rest_eq kept_eq marks, rfl, kept_eq, rfl,
    leads.parts (fun offset le lt => not_gone offset le (Nat.le_of_lt lt)) rest_eq kept_eq, ?_⟩
  rw [past, scan_eq_some head, Option.map_some, ← Place.skip_rest, rest_eq]
  rfl

private theorem scan_atRule (text : List Char) :
    scan false (.rule .atRule) text =
      (past atHead text).bind (scan false (.alt (.rule .block) (literal ";"))) := by
  rw [scan_rule, Rule.isToken, Rule.pattern, inOrder, inOrder, inOrder, inOrder, atHead, inOrder,
    inOrder, inOrder]
  · rw [scan_seq_past (by decide), past_seq (by decide), Option.bind_assoc]
    refine Option.bind_congr fun keyword _ => ?_
    rw [scan_seq_past (by decide), past_seq (by decide), Option.bind_assoc]
    refine Option.bind_congr fun name _ => ?_
    rw [scan_seq_past (by decide)]
  all_goals simp

private theorem resumes_of_atHead {nested : Bool} {fork : Fork} {rest : List Char}
    (parts : fork.Parts place.rest (place.kept gone)) (skipped : skipBlank place.rest = place.rest)
    (passed : past atHead place.rest = some (fork.mark :: fork.tail))
    (ends : scan false (.alt (.rule .block) (literal ";")) (fork.mark :: fork.other) = some rest) :
    Fits gone place ∧ (Level.part nested).Resumes (place.kept gone) rest := by
  refine ⟨parts.fits, resumes_of_scan (parts.skipped skipped) ?_⟩
  have passed' := parts.past_atHead passed
  have scanned : scan false (.rule .atRule) (place.kept gone) = some rest := by
    rw [scan_atRule, passed', Option.bind_some, ends]
  obtain ⟨keyword, name, kept_eq, -, -⟩ := past_atHead.mp passed'
  rw [kept_eq] at scanned ⊢
  exact scan_statement_of_atRule nested scanned

private theorem resumes_atStatement {nested : Bool} {heads : List Node} {rest : List Char}
    (head : read false atHead place = some (between, heads))
    (semicolon : between.skip.rest = ';' :: rest)
    (skipped : skipBlank place.rest = place.rest)
    (not_gone : ∀ offset, place.offset ≤ offset → offset < between.skip.offset + 1 →
      gone offset = false)
    (fits : Fits gone ⟨rest, between.skip.offset + 1⟩) :
    Fits gone place ∧ (Level.part nested).Resumes (place.kept gone)
      (Place.kept gone ⟨rest, between.skip.offset + 1⟩) := by
  have head_le := offset_le_of_head head
  have mark_fits : Fits gone between.skip :=
    fits.of_letter semicolon (not_gone between.skip.offset (by omega) (by omega)) (by decide)
  obtain ⟨fork, mark_eq, -, other_eq, parts, passed⟩ := fork_of_head head semicolon
    (.inr (.inr rfl)) (fun offset le lt => not_gone offset le (Nat.lt_succ_of_le lt)) mark_fits
  refine resumes_of_atHead parts skipped passed ?_
  rw [mark_eq, other_eq, scan_alt (by decide),
    scan_fails (.rule .block) (by decide) (by decide), Option.none_or, literal, scan_text]
  exact dropText?_eq_some.mpr rfl

private theorem resumes_atBlock {nested : Bool} {heads : List Node} {rest : List Char}
    (head : read false atHead place = some (between, heads))
    (opens : between.skip.rest = '\x7b' :: rest)
    (skipped : skipBlank place.rest = place.rest)
    (not_gone : ∀ offset, place.offset ≤ offset → offset ≤ between.skip.offset →
      gone offset = false)
    (fits : Fits gone between.skip)
    (resumes : Level.block.Resumes (between.skip.kept gone) (after.kept gone)) :
    Fits gone place ∧ (Level.part nested).Resumes (place.kept gone) (after.kept gone) := by
  obtain ⟨fork, -, kept_eq, -, parts, passed⟩ :=
    fork_of_head head opens (.inl rfl) not_gone fits
  refine resumes_of_atHead parts skipped passed ?_
  rw [← kept_eq, scan_alt (by decide), resumes, Option.some_or]

private theorem resumes_ruleset {nested : Bool} {heads : List Node} {rest : List Char}
    (head : read false (.rule .selector) place = some (between, heads))
    (opens : between.skip.rest = '\x7b' :: rest)
    (skipped : skipBlank place.rest = place.rest)
    (not_gone : ∀ offset, place.offset ≤ offset → offset ≤ between.skip.offset →
      gone offset = false)
    (fits : Fits gone between.skip)
    (resumes : Level.block.Resumes (between.skip.kept gone) (after.kept gone)) :
    Fits gone place ∧ (Level.part nested).Resumes (place.kept gone) (after.kept gone) := by
  obtain ⟨fork, mark_eq, kept_eq, -, parts, passed⟩ :=
    fork_of_head head opens (.inl rfl) not_gone fits
  refine ⟨parts.fits, resumes_of_scan (parts.skipped skipped) ?_⟩
  rw [past_rule _ rfl] at passed
  have selected := parts.past_oneOrMore skipped passed
  refine scan_statement_of_ruleset nested (mark_eq ▸ selected) ?_
  have pattern_eq : Rule.ruleset.pattern = .seq (.rule .selector) (.rule .block) := rfl
  rw [scan_rule, pattern_eq]
  change scan false _ _ = _
  rw [scan_seq_past (by decide), past_rule _ rfl]
  change (past (oneOrMore piece) _).bind _ = _
  rw [selected, Option.bind_some, ← kept_eq, resumes]

private theorem resumes_block {rest : List Char} {last : Place}
    (opens : place.rest = '\x7b' :: rest) (closes : last.rest = '\x7d' :: after.rest)
    (after_offset : after.offset = last.offset + 1)
    (opening_kept : gone place.offset = false) (closing_kept : gone last.offset = false)
    (gap_kept : ∀ offset, place.offset + 1 ≤ offset →
      offset < (Place.skip ⟨rest, place.offset + 1⟩).offset → gone offset = false)
    (fits : Fits gone (Place.skip ⟨rest, place.offset + 1⟩))
    (resumes : (Level.row true).Resumes ((Place.skip ⟨rest, place.offset + 1⟩).kept gone)
      (last.kept gone)) :
    Fits gone place ∧ Level.block.Resumes (place.kept gone) (after.kept gone) := by
  obtain ⟨rest_fits, skip_eq⟩ := fits.of_skip gap_kept
  refine ⟨rest_fits.of_letter opens opening_kept (by decide), ?_⟩
  have last_kept : last.kept gone = '\x7d' :: after.kept gone := by
    rw [Place.kept_cons closes closing_kept, ← after_offset]
  have opening : past (literal "\x7b") (place.kept gone) =
      some (skipBlank (Place.kept gone ⟨rest, place.offset + 1⟩)) :=
    past_letter_eq_some.mpr ⟨_, Place.kept_cons opens opening_kept, rfl⟩
  have ended :
      past blockPart.many ('\x7d' :: after.kept gone) = some ('\x7d' :: after.kept gone) := by
    rw [past_many (by decide), past, scan_fails _ (by decide) (by decide)]
    exact congrArg some (skipBlank_of_notBlank (by decide) (by simp))
  have row : past blockPart.many (skipBlank ((Place.skip ⟨rest, place.offset + 1⟩).kept gone)) =
      some ('\x7d' :: after.kept gone) := by
    have same : past blockPart.many _ = past blockPart.many _ := resumes
    rw [same, last_kept, skipBlank_of_notBlank (by decide) (by simp), ended]
  have pattern_eq : Rule.block.pattern =
      .seq (literal "\x7b") (.seq (.many blockPart) (literal "\x7d")) := rfl
  rw [Level.Resumes, scan_rule, pattern_eq]
  change scan false _ _ = _
  rw [scan_seq_past (by decide), opening, Option.bind_some, skip_eq, scan_seq_past (by decide), row,
    Option.bind_some, literal, scan_text]
  exact dropText?_eq_some.mpr rfl

end Parts

/-! ## Striking what is reported -/

/-- The offset lies in a reported node. -/
def covered (nodes : List Node) (offset : Nat) : Bool :=
  (reported nodes).any fun node => node.start ≤ offset && offset < node.stop

private theorem covered_append (nodes others : List Node) (offset : Nat) :
    covered (nodes ++ others) offset = (covered nodes offset || covered others offset) := by
  rw [covered, reported_append, List.any_append, covered, covered]

theorem Outline.not_covered {level : Level} {place after : Place} {nodes : List Node}
    (outline : Outline level place after nodes) {offset : Nat}
    (outside : offset < place.offset ∨ after.offset ≤ offset) : covered nodes offset = false := by
  rw [covered, List.any_eq_false]
  intro node found
  have := outline.reported_spans.1 node found
  simp only [Bool.and_eq_true, decide_eq_true_eq]
  omega

private theorem Outline.not_covered_head {place after : Place} {nodes : List Node}
    (outline : Outline .block place after nodes) {offset : Nat} (le : offset ≤ place.offset) :
    offset < after.offset ∧ covered nodes offset = false := by
  obtain ⟨rest, last, inner, -, row, -, offset_eq, rfl⟩ := outline.block_cases
  have skip_le := Place.offset_le_skip ⟨rest, place.offset + 1⟩
  have row_le := row.offset_le
  simp only at skip_le
  have not_covered : covered inner offset = false := row.not_covered (.inl (by omega))
  rw [covered] at not_covered
  exact ⟨by omega, by rwa [covered, reported_node_of_ne (by decide)]⟩

/-- Between two places exactly what is reported is gone. -/
def Agrees (gone : Nat → Bool) (place after : Place) (nodes : List Node) : Prop :=
  ∀ offset, place.offset ≤ offset → offset < after.offset → gone offset = covered nodes offset

private theorem resumes_struck {gone : Nat → Bool} {nested : Bool} {place after : Place}
    {nodes : List Node} (outline : Outline (.part nested) place after nodes)
    (not_brace : place.rest.head? ≠ some '\x7d')
    (is_gone : ∀ offset, place.offset ≤ offset → offset < after.offset → gone offset = true)
    (fits : Fits gone after) :
    Fits gone place ∧ (Level.part nested).Resumes (place.kept gone) (after.kept gone) := by
  obtain ⟨taken, leads⟩ := outline.leads
  have kept_eq : place.kept gone = after.kept gone := leads.kept_gone is_gone
  refine ⟨⟨?_, fun brace => absurd brace not_brace⟩, by rw [Level.Resumes, kept_eq]⟩
  rw [kept_eq, leads.1]
  exact fits.unclosed.prepend taken

/-- Without what is reported in it, an outline is read again, and so is the text before it. -/
theorem Outline.resumes {gone : Nat → Bool} {level : Level} {place after : Place}
    {nodes : List Node} (outline : Outline level place after nodes)
    (skipped : skipBlank place.rest = place.rest) (agrees : Agrees gone place after nodes)
    (fits : Fits gone after) :
    Fits gone place ∧ level.Resumes (place.kept gone) (after.kept gone) := by
  have skipped_skip (between : Place) : skipBlank between.skip.rest = between.skip.rest := by
    rw [Place.skip_rest, skipBlank_skipBlank]
  induction outline with
  | stop nested place => exact ⟨fits, rfl⟩
  | @next nested place between after nodes others part row part_resumes row_resumes =>
      have part_le := part.offset_le
      have gap_le := between.offset_le_skip
      have row_le := row.offset_le
      have part_agrees : Agrees gone place between nodes := fun offset le lt => by
        rw [agrees offset le (by omega), covered_append, row.not_covered (.inl (by omega)),
          Bool.or_false]
      have row_agrees : Agrees gone between.skip after others := fun offset le lt => by
        rw [agrees offset (by omega) lt, covered_append, part.not_covered (.inr (by omega)),
          Bool.false_or]
      obtain ⟨skip_fits, row_again⟩ := row_resumes (skipped_skip between) row_agrees fits
      obtain ⟨between_fits, skip_eq⟩ := skip_fits.of_skip fun offset le lt => by
        rw [agrees offset (by omega) (by omega), covered_append, part.not_covered (.inr le),
          row.not_covered (.inl lt), Bool.or_false]
      obtain ⟨place_fits, part_again⟩ := part_resumes skipped part_agrees between_fits
      exact ⟨place_fits,
        (part_again.trans (congrArg (past (statement nested).many) skip_eq)).trans row_again⟩
  | @semicolon rest offset =>
      refine resumes_semicolon ?_ fits
      exact agrees offset (Nat.le_refl _) (Nat.lt_succ_self _)
  | @declaration place after nodes reading =>
      refine resumes_declaration reading skipped (fun offset le lt => ?_) fits
      rw [agrees offset le lt, covered, reported_of_inline (by decide) reading, List.any_nil]
  | @atStatement nested place between heads rest head semicolon =>
      refine resumes_atStatement head semicolon skipped (fun offset le lt => ?_) fits
      rw [agrees offset le lt, covered, reported_node_of_ne (by decide),
        reported_of_inline (by decide) head, List.any_nil]
  | @atBlock nested place between after heads nodes head block block_resumes =>
      have head_le := offset_le_of_head head
      have covered_eq : covered [.node .atRule place.offset after.offset (heads ++ nodes)] =
          covered nodes := by
        funext offset
        rw [covered, reported_node_of_ne (by decide), reported_headed (by decide) head, covered]
      rw [Agrees, covered_eq] at agrees
      obtain ⟨rest, last, inner, opens, -⟩ := block.block_cases
      obtain ⟨block_fits, block_again⟩ := block_resumes (skipped_skip between)
        (fun offset le lt => agrees offset (Nat.le_trans head_le le) lt) fits
      refine resumes_atBlock head opens skipped (fun offset le lt => ?_) block_fits block_again
      obtain ⟨within, not_covered⟩ := block.not_covered_head lt
      rw [agrees offset le within, not_covered]
  | @ruleset nested place between after heads nodes head block block_resumes =>
      have head_le := offset_le_of_head head
      by_cases empty : (Node.node .ruleset place.offset after.offset
        (heads ++ nodes)).isEmptyRuleset = true
      · refine resumes_struck (.ruleset head block) (fun brace => ?_) (fun offset le lt => ?_) fits
        · obtain ⟨others, rest_eq⟩ := List.head?_eq_some_iff.mp brace
          have scanned := scan_eq_some head
          rw [rest_eq, scan_fails _ (by decide) (by decide)] at scanned
          simp at scanned
        · rw [agrees offset le lt, covered, reported_node, if_pos empty]
          simp [Node.start, Node.stop, le, lt]
      · have covered_eq : covered [.node .ruleset place.offset after.offset (heads ++ nodes)] =
            covered nodes := by
          funext offset
          rw [covered, reported_node, if_neg empty, reported_headed (by decide) head, covered]
        rw [Agrees, covered_eq] at agrees
        obtain ⟨rest, last, inner, opens, -⟩ := block.block_cases
        obtain ⟨block_fits, block_again⟩ := block_resumes (skipped_skip between)
          (fun offset le lt => agrees offset (Nat.le_trans head_le le) lt) fits
        refine resumes_ruleset head opens skipped (fun offset le lt => ?_) block_fits block_again
        obtain ⟨within, not_covered⟩ := block.not_covered_head lt
        rw [agrees offset le within, not_covered]
  | @block rest rest' offset last inner row closes row_resumes =>
      have skip_le := Place.offset_le_skip ⟨rest, offset + 1⟩
      have row_le := row.offset_le
      simp only at skip_le
      have covered_eq : covered [.node .block offset (last.offset + 1) inner] = covered inner := by
        funext offset
        rw [covered, reported_node_of_ne (by decide), covered]
      rw [Agrees, covered_eq] at agrees
      have closing_kept : gone last.offset = false := by
        rw [agrees last.offset (by simp only; omega) (Nat.lt_succ_self _),
          row.not_covered (.inr (Nat.le_refl _))]
      obtain ⟨row_fits, row_again⟩ := row_resumes (skipped_skip ⟨rest, offset + 1⟩)
        (fun other le lt => agrees other (by simp only; omega) (Nat.lt_succ_of_lt lt))
        (fits.of_letter closes closing_kept (by decide))
      refine resumes_block rfl closes rfl ?_ closing_kept (fun other le lt => ?_) row_fits row_again
      · rw [agrees offset (Nat.le_refl _) (by simp only; omega), row.not_covered (.inl (by omega))]
      · rw [agrees other (by simp only at le ⊢; omega) (by simp only at lt ⊢; omega),
          row.not_covered (.inl lt)]

end Css
end LintBus

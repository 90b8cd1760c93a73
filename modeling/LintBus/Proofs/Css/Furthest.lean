import LintBus.Proofs.Css.Warnings
import LintBus.Proofs.Text.Lines

/-!
# Where findings begin and end

A rule is tried at the start of the text or where blanks and comments have been skipped, so no rule
is remembered in the middle of a line end.  A ruleset begins with a piece and ends with a brace.
-/

namespace LintBus
namespace Css

open Pattern

variable {text : List Char}

/-- A rule may be tried at the offset: it is the start of the text, or nothing is skipped there. -/
def Tried (text : List Char) (offset : Nat) : Prop :=
  offset = 0 ∨ skipBlank (text.drop offset) = text.drop offset

/-- No rule is tried between a carriage return and a line feed. -/
theorem Tried.not_splitsEnd {offset : Nat} (tried : Tried text offset) :
    ¬ SplitsEnd text offset := by
  rintro ⟨before, head⟩
  rcases tried with rfl | skipped
  · simp at before
  · obtain ⟨rest, rest_eq⟩ := List.head?_eq_some_iff.mp head
    have shorter := length_skipBlank_le rest
    rw [rest_eq, skipBlank_blank (by decide)] at skipped
    rw [skipped, List.length_cons] at shorter
    omega

private theorem tried_skip {place : Place} (on : place.skip.On text) :
    Tried text place.skip.offset := by
  right
  rw [on, Place.skip_rest, skipBlank_skipBlank]

/-- Wherever the pattern tries a rule, blanks and comments have been skipped. -/
def Settled (text : List Char) (inToken : Bool) (pattern : Pattern) (place : Place) : Prop :=
  inToken = true ∨ (∃ inner, pattern = .more inner) ∨ Tried text place.offset

private theorem Settled.part {inToken : Bool} {pattern : Pattern} {place : Place}
    (settled : Settled text inToken pattern place) (not_more : ∀ inner, pattern ≠ .more inner)
    (inner : Pattern) : Settled text inToken inner place := by
  rcases settled with token | ⟨repeated, more⟩ | tried
  · exact .inl token
  · exact absurd more (not_more repeated)
  · exact .inr (.inr tried)

private theorem settled_skipUnless {inToken : Bool} {place : Place}
    (on : (place.skipUnless inToken).On text) (pattern : Pattern) :
    Settled text inToken pattern (place.skipUnless inToken) := by
  cases inToken with
  | true => exact .inl rfl
  | false => exact .inr (.inr (tried_skip on))

private theorem Place.On.skipUnless {place : Place} (on : place.On text) (inToken : Bool) :
    (place.skipUnless inToken).On text := by
  obtain ⟨blank, leads⟩ := place.skipUnless_leads inToken
  exact leads.on on

private theorem tried_failed {attempts : Attempts} {offset : Nat} (here : Tried text offset)
    (tried : Tried text attempts.offset) (rule : Rule) (before : Nat) :
    Tried text (attempts.failed rule offset before).offset := by
  rw [Attempts.failed]
  split
  · exact tried
  · split
    · exact tried
    · split
      · exact here
      · exact here

/-- The place of a matcher that goes on. -/
def Progress.place (progress : Progress) : Place := ⟨progress.rest, progress.offset⟩

/-- The matcher misses, or it goes on at a place of the text.  What it remembers is the same
either way. -/
theorem matchPattern_cases {steps : Nat} {inToken : Bool} {pattern : Pattern} {progress : Progress}
    {attempts : Attempts} (on : progress.place.On text)
    (tried : Tried text (matchPattern steps inToken pattern progress attempts).2.offset) :
    (∃ later, matchPattern steps inToken pattern progress attempts = (none, later) ∧
        Tried text later.offset) ∨
      ∃ after later, matchPattern steps inToken pattern progress attempts = (some after, later) ∧
        after.place.On text ∧ Tried text later.offset := by
  rcases agree_cases (matchPattern_eq_readIn steps inToken pattern progress attempts) with
    ⟨later, missed, -⟩ | ⟨after, nodes, later, reading, matched⟩
  · exact .inl ⟨later, missed, by rwa [missed] at tried⟩
  · obtain ⟨taken, leads, -⟩ := readIn_leads reading
    exact .inr ⟨_, later, matched, leads.on on, by rwa [matched] at tried⟩

private theorem Progress.place_skipUnless (progress : Progress) (inToken : Bool) :
    (progress.skipUnless inToken).place = progress.place.skipUnless inToken := by
  rw [Progress.skipUnless_eq]
  rfl

/-- What is remembered is remembered for a place where a rule was tried.  The induction is on the
steps; a repetition comes to places where blanks are still to be skipped, but tries nothing there.
-/
theorem tried_matchPattern {steps : Nat} {inToken : Bool} {pattern : Pattern} {progress : Progress}
    {attempts : Attempts} (on : progress.place.On text)
    (settled : Settled text inToken pattern progress.place) (tried : Tried text attempts.offset) :
    Tried text (matchPattern steps inToken pattern progress attempts).2.offset := by
  induction steps generalizing inToken pattern progress attempts with
  | zero => exact tried
  | succ steps induction =>
      have skipped_on {progress : Progress} (on : progress.place.On text) :
          (progress.skipUnless inToken).place.On text := by
        rw [Progress.place_skipUnless]
        exact on.skipUnless inToken
      have skipped_settled {progress : Progress} (on : progress.place.On text) (pattern : Pattern) :
          Settled text inToken pattern (progress.skipUnless inToken).place := by
        rw [Progress.place_skipUnless]
        exact settled_skipUnless (on.skipUnless inToken) pattern
      cases pattern with
      | text letters =>
          rw [matchPattern]
          split
          · exact tried
          · exact tried
      | one set =>
          rw [matchPattern]
          split
          · exact tried
          · split
            · exact tried
            · exact tried
      | finish => exact tried
      | seq first second =>
          have first_tried := induction on (settled.part (by simp) first) tried
          rw [matchPattern]
          rcases matchPattern_cases on first_tried with
            ⟨later, missed, later_tried⟩ | ⟨between, later, matched, between_on, later_tried⟩
          · rw [missed]
            exact later_tried
          · rw [matched]
            exact induction (skipped_on between_on) (skipped_settled between_on second) later_tried
      | alt first second =>
          have first_tried := induction on (settled.part (by simp) first) tried
          rw [matchPattern]
          rcases matchPattern_cases on first_tried with
            ⟨later, missed, later_tried⟩ | ⟨after, later, matched, -, later_tried⟩
          · rw [missed]
            exact induction on (settled.part (by simp) second) later_tried
          · rw [matched]
            exact later_tried
      | optional inner | absent inner | ahead inner =>
          have inner_tried := induction on (settled.part (by simp) inner) tried
          rw [matchPattern]
          rcases matchPattern_cases on inner_tried with
            ⟨later, missed, later_tried⟩ | ⟨after, later, matched, -, later_tried⟩
          · rw [missed]
            exact later_tried
          · rw [matched]
            exact later_tried
      | many inner =>
          have once_tried := induction on (settled.part (by simp) inner) tried
          rw [matchPattern]
          rcases matchPattern_cases on once_tried with
            ⟨later, missed, later_tried⟩ | ⟨between, later, matched, between_on, later_tried⟩
          · rw [missed]
            exact later_tried
          · rw [matched]
            exact induction between_on (.inr (.inl ⟨inner, rfl⟩)) later_tried
      | more inner =>
          have once_tried := induction (skipped_on on) (skipped_settled on inner) tried
          rw [matchPattern]
          rcases matchPattern_cases (skipped_on on) once_tried with
            ⟨later, missed, later_tried⟩ | ⟨between, later, matched, between_on, later_tried⟩
          · rw [missed]
            exact later_tried
          · rw [matched]
            exact induction between_on (.inr (.inl ⟨inner, rfl⟩)) later_tried
      | rule name =>
          rw [matchPattern]
          cases inToken with
          | true => exact induction on (.inl rfl) tried
          | false =>
              have here : Tried text progress.place.offset := by simpa [Settled] using settled
              have opened_on : (⟨progress.rest, progress.offset, []⟩ : Progress).place.On text := on
              have inner_tried := @induction name.isToken name.pattern _ attempts opened_on
                (.inr (.inr here)) tried
              rw [if_neg Bool.false_ne_true]
              rcases matchPattern_cases opened_on inner_tried with
                ⟨later, missed, later_tried⟩ | ⟨after, later, matched, -, later_tried⟩
              · simp only [missed]
                exact tried_failed here later_tried name _
              · simp only [matched]
                exact later_tried

/-- The problem of a text that is no stylesheet is at a place where a rule was tried. -/
theorem tried_of_parse {attempts : Attempts} (refused : parse text = .error attempts) :
    Tried text attempts.offset := by
  have tried : Tried text
      (matchPattern (stepsFor text) false (.rule .stylesheet) ⟨text, 0, []⟩ .empty).2.offset :=
    tried_matchPattern rfl (.inr (.inr (.inl rfl))) (.inl rfl)
  rw [parse] at refused
  split at refused
  · simp at refused
  · next matched _ matched_eq =>
      obtain rfl := Except.error.inj refused
      rw [matched_eq] at tried
      exact tried

private theorem scan_piece_feed (rest : List Char) : scan false piece ('\n' :: rest) = none := by
  have no_number : scan true Rule.number.pattern ('\n' :: rest) = none := by
    have no_sign : scan true (.alt (literal "+") (literal "-")) ('\n' :: rest) = none :=
      scan_fails _ (by decide) (by decide) rest
    have no_digit : scan true decimalDigits ('\n' :: rest) = none :=
      scan_fails _ (by decide) (by decide) rest
    simp (disch := decide) only [Rule.pattern, inOrder, scan_seq, scan_optional, no_sign, no_digit,
      Option.getD_none, Option.bind_some, Option.bind_none, if_true]
  simp (disch := decide) only [scan_piece_plain, plain, firstOf, scan_alt, no_number, scan_fails,
    Option.none_or]

private theorem RulesetAt.not_splitsEnd_start {node : Node} (ruleset : RulesetAt text node) :
    ¬ SplitsEnd text node.start := by
  obtain ⟨place, between, after, heads, nodes, rfl, on, head, -⟩ := ruleset
  rintro ⟨-, feed⟩
  rw [Node.start, on] at feed
  obtain ⟨rest, rest_eq⟩ := List.head?_eq_some_iff.mp feed
  have missed : scan false (oneOrMore piece) ('\n' :: rest) = none := by
    rw [oneOrMore, scan_seq (by decide), scan_piece_feed, Option.bind_none]
  have scanned := scan_eq_some head
  rw [rest_eq, scan_rule] at scanned
  exact Option.some_ne_none _ (scanned.symm.trans missed)

private theorem RulesetAt.not_splitsEnd_stop {node : Node} (ruleset : RulesetAt text node) :
    ¬ SplitsEnd text node.stop := by
  obtain ⟨selector, block, inner, stands⟩ := ruleset.stands
  rintro ⟨last, -⟩
  have block_text := stands.block_text
  rw [List.extract] at block_text
  have nonempty : block.start ≤ block.stop := by
    by_contra reversed
    have nothing : block.stop - block.start = 0 := by omega
    simp [nothing] at block_text
  rw [← stands.block_stop, ← Nat.add_sub_of_le nonempty, List.take_add, block_text,
    ← List.cons_append, ← List.append_assoc, List.getLast?_concat] at last
  simp at last

/-- The ends of a ruleset stand in its text. -/
theorem RulesetAt.standsIn {node : Node} (ruleset : RulesetAt text node) :
    (Position.ofOffset text node.start).StandsIn text ∧
      (Position.ofOffset text node.stop).StandsIn text :=
  ⟨Position.standsIn_ofOffset ruleset.not_splitsEnd_start,
    Position.standsIn_ofOffset ruleset.not_splitsEnd_stop⟩

end Css
end LintBus

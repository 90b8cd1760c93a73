import LintBus.Proofs.Css.Sightings

/-!
# Brackets of a stylesheet

In a stylesheet every bracket outside of comments and strings is matched.  Each pattern of the
grammar has an effect on the brackets that are open: it leaves them as they are, opens one more or
closes the innermost one.  The effects of the parts of a pattern add up to its own, and those of the
rules to nothing.
-/

namespace LintBus
namespace Css

open Pattern

/-- What reading a pattern does to the brackets that are open. -/
inductive Effect where
  | nothing
  | opens (bracket : Char)
  | closes (bracket : Char)
deriving DecidableEq

namespace Effect

/-- The brackets on top of the stack before. -/
def before : Effect → List Char
  | .closes bracket => [bracket]
  | _ => []

/-- The brackets on top of the stack afterwards. -/
def after : Effect → List Char
  | .opens bracket => [bracket]
  | _ => []

/-- One effect after the other, if that is an effect again. -/
def andThen : Effect → Effect → Option Effect
  | .nothing, effect | effect, .nothing => some effect
  | .opens bracket, .closes other => if bracket = other then some .nothing else none
  | _, _ => none

/-- What is noted between two places moves the stack by the effect, and each star and each opening
of a comment among it is a delimiter of the nodes read there. -/
structure Accounts (effect : Effect) (nodes : List Node) (news : List (Nat × Mark)) : Prop where
  balanced : ∀ stack later,
    balance (effect.before ++ stack) (news.map Prod.snd ++ later) =
      balance (effect.after ++ stack) later
  delimited : ∀ offset, (offset, .openComment) ∈ news ∨ (offset, .letter '*') ∈ news →
    .node .delimiter offset (offset + 1) [] ∈ Node.flattenAll nodes

namespace Accounts

variable {effect first second : Effect} {nodes others : List Node} {news more : List (Nat × Mark)}

private theorem empty (nodes : List Node) : Effect.nothing.Accounts nodes [] :=
  ⟨fun _ _ => rfl, by simp⟩

private theorem append (one : first.Accounts nodes news) (other : second.Accounts others more)
    (together : first.andThen second = some effect) :
    effect.Accounts (nodes ++ others) (news ++ more) := by
  constructor
  · intro stack later
    rw [List.map_append, List.append_assoc]
    have first_balanced := one.balanced
    have second_balanced := other.balanced
    cases first with
    | nothing =>
        obtain rfl : second = effect := by
          cases second <;> simpa [andThen] using together
        exact (first_balanced _ _).trans (second_balanced _ _)
    | opens bracket =>
        cases second with
        | nothing =>
            obtain rfl : .opens bracket = effect := by simpa [andThen] using together
            exact (first_balanced _ _).trans (second_balanced _ _)
        | opens inner => simp [andThen] at together
        | closes closing =>
            obtain ⟨rfl, rfl⟩ : bracket = closing ∧ .nothing = effect := by
              simpa [andThen] using together
            exact (first_balanced _ _).trans (second_balanced _ _)
    | closes bracket =>
        cases second with
        | nothing =>
            obtain rfl : .closes bracket = effect := by simpa [andThen] using together
            exact (first_balanced _ _).trans (second_balanced _ _)
        | opens inner | closes inner => simp [andThen] at together
  · intro offset found
    rw [Node.flattenAll_append, List.mem_append]
    simp only [List.mem_append] at found
    rcases found with (found | found) | found | found
    · exact .inl (one.delimited offset (.inl found))
    · exact .inr (other.delimited offset (.inl found))
    · exact .inl (one.delimited offset (.inr found))
    · exact .inr (other.delimited offset (.inr found))

private theorem below (accounts : effect.Accounts nodes news) (rule : Rule) (start stop : Nat) :
    effect.Accounts [.node rule start stop nodes] news := by
  refine ⟨accounts.balanced, fun offset found => ?_⟩
  simp [Node.flattenAll, Node.flatten, accounts.delimited offset found]

end Accounts

end Effect

/-- A character that is noted as a letter and is neither a bracket nor part of a comment sign. -/
def isOrdinary (character : Char) : Bool :=
  character ∉ [' ', '\t', '\r', '\n', '"', '\'', '\\', '/', '*', '(', ')', '[', ']', '\x7b', '\x7d']

private theorem CharSet.isOrdinary_of_contains {set : CharSet} (named : set ≠ .any)
    {character : Char}
    (contained : set.contains character = true) : isOrdinary character = true := by
  have outside : [' ', '\t', '\r', '\n', '"', '\'', '\\', '/', '*', '(', ')', '[', ']', '\x7b',
      '\x7d'].all (fun special => !set.contains special) = true := by
    cases set with
    | any => exact absurd rfl named
    | digit | alphabetic => decide
  rw [isOrdinary, decide_eq_true_iff]
  intro special
  have not_contained := List.all_eq_true.mp outside character special
  simp [contained] at not_contained

/-- The effect of a letter of the grammar. -/
def letterEffect (letter : Char) : Option Effect :=
  if isOrdinary letter then some .nothing
  else if isOpening letter then some (.opens letter)
  else (opener? letter).map .closes

/-- The effect of a pattern, if it has one that shows in its parts. -/
def Pattern.effect (inToken : Bool) : Pattern → Option Effect
  | .text [] => some .nothing
  | .text [letter] => letterEffect letter
  | .text _ => none
  | .one .any => none
  | .one _ => some .nothing
  | .finish | .absent _ | .ahead _ => some .nothing
  | .seq first second =>
      if Pattern.seq first second = escaped then if inToken then some .nothing else none
      else
        match first.effect inToken, second.effect inToken with
        | some effect, some other => effect.andThen other
        | _, _ => none
  | .alt first second =>
      if first.effect inToken = second.effect inToken then first.effect inToken else none
  | .optional pattern | .many pattern | .more pattern =>
      if pattern.effect inToken = some .nothing then some .nothing else none
  | .rule name => if inToken && name ≠ .identifier then none else some .nothing

private theorem Rule.effect_pattern {name : Rule} (not_string : name ≠ .string)
    (not_delimiter : name ≠ .delimiter) :
    name.pattern.effect name.isToken = some .nothing := by
  revert not_string not_delimiter
  cases name <;> decide

section Reading

variable {one_line : Bool} {place after : Place} {nodes : List Node}

private theorem Place.sightings_letter {letter : Char} {effect : Effect}
    (effect_eq : letterEffect letter = some effect) (leads : place.Leads after [letter]) :
    place.sightings one_line = (place.offset, .letter letter) :: after.sightings one_line := by
  have unlike (special : Char) (no_effect : letterEffect special = none) : letter ≠ special := by
    rintro rfl
    simp [no_effect] at effect_eq
  have rest_eq : place.rest = letter :: after.rest := leads.1
  have offset_eq : after.offset = place.offset + 1 := leads.2
  rw [Place.sightings, rest_eq, Css.sightings_letter, Place.sightings, offset_eq]
  · simp [isBlank, unlike ' ' (by decide), unlike '\t' (by decide),
      unlike '\r' (by decide), unlike '\n' (by decide)]
  · simp [isQuote, unlike '"' (by decide), unlike '\'' (by decide)]
  · exact unlike '\\' (by decide)
  · exact fun slash => absurd slash (unlike '/' (by decide))

/-- A letter of the grammar does to the brackets what its effect says. -/
theorem accounts_letter {letter : Char} {effect : Effect}
    (effect_eq : letterEffect letter = some effect) (offset : Nat) :
    effect.Accounts [] [(offset, .letter letter)] := by
  constructor
  · intro stack later
    rw [letterEffect] at effect_eq
    split at effect_eq
    · next ordinary =>
        have unlike (special : Char) (not_ordinary : isOrdinary special = false) :
            letter ≠ special := by
          rintro rfl
          simp [not_ordinary] at ordinary
        obtain rfl := Option.some.inj effect_eq
        have not_opening : isOpening letter = false := by
          simp [isOpening, unlike '(' (by decide),
            unlike '[' (by decide), unlike '\x7b' (by decide)]
        have not_closing : opener? letter = none := by
          unfold opener?
          split
          · exact absurd rfl (unlike ')' (by decide))
          · exact absurd rfl (unlike ']' (by decide))
          · exact absurd rfl (unlike '\x7d' (by decide))
          · rfl
        simp [balance, not_opening, not_closing, Effect.before, Effect.after]
    · split at effect_eq
      · next opening =>
          obtain rfl := Option.some.inj effect_eq
          simp [balance, opening, Effect.before, Effect.after]
      · next not_opening =>
          obtain ⟨opening, opener_eq, rfl⟩ := Option.map_eq_some_iff.mp effect_eq
          simp [balance, not_opening, opener_eq, Effect.before, Effect.after]
  · intro offset' found
    have not_star : letter ≠ '*' := by
      rintro rfl
      simp [letterEffect, isOrdinary, isOpening, opener?] at effect_eq
    simp [not_star.symm] at found

private theorem accounts_delimiter {offset : Nat} {mark : Mark} {character : Char}
    (mark_eq : mark = .openComment ∨ mark = .letter character)
    (not_opening : isOpening character = false) (not_closing : opener? character = none) :
    Effect.nothing.Accounts [.node .delimiter offset (offset + 1) []] [(offset, mark)] := by
  constructor
  · intro stack later
    rcases mark_eq with rfl | rfl
    · rfl
    · simp [balance, not_opening, not_closing, Effect.before, Effect.after]
  · intro offset' found
    obtain rfl : offset' = offset := by
      rcases found with found | found
      · exact (Prod.mk.inj (List.mem_singleton.mp found)).1
      · exact (Prod.mk.inj (List.mem_singleton.mp found)).1
    simp [Node.flattenAll, Node.flatten]

/-- A comment at the place has been skipped, or will be before anything is read. -/
def Ready (inToken : Bool) (pattern : Pattern) (place : Place) : Prop :=
  inToken = true ∨ (∃ inner, pattern = .more inner) ∨ skipBlank place.rest = place.rest

private theorem Ready.part {inToken : Bool} {pattern : Pattern}
    (ready : Ready inToken pattern place)
    (not_more : ∀ inner, pattern ≠ .more inner) (inner : Pattern) : Ready inToken inner place := by
  rcases ready with token | ⟨repeated, more⟩ | skipped
  · exact .inl token
  · exact absurd more (not_more repeated)
  · exact .inr (.inr skipped)

private theorem ready_skipUnless (inToken : Bool) (pattern : Pattern) (place : Place) :
    Ready inToken pattern (place.skipUnless inToken) := by
  cases inToken with
  | true => exact .inl rfl
  | false =>
      refine .inr (.inr ?_)
      rw [Place.skipUnless, if_neg Bool.false_ne_true, Place.skip_rest, skipBlank_skipBlank]

/-- The scanner runs from the one place to the other, and what it notes on the way is accounted
for. -/
def Runs (one_line : Bool) (effect : Effect) (nodes : List Node) (place after : Place) : Prop :=
  ∃ news, place.sightings one_line = news ++ after.sightings one_line ∧ effect.Accounts nodes news

namespace Runs

variable {effect first second : Effect} {between : Place} {others : List Node}

private theorem silent (nodes : List Node)
    (sightings_eq : place.sightings one_line = after.sightings one_line) :
    Runs one_line .nothing nodes place after := ⟨[], sightings_eq, .empty nodes⟩

private theorem letter {letter : Char} (effect_eq : letterEffect letter = some effect)
    (leads : place.Leads after [letter]) : Runs one_line effect [] place after :=
  ⟨[(place.offset, .letter letter)], Place.sightings_letter effect_eq leads,
    accounts_letter effect_eq place.offset⟩

private theorem append (one : Runs one_line first nodes place between)
    (other : Runs one_line second others between after)
    (together : first.andThen second = some effect) :
    Runs one_line effect (nodes ++ others) place after := by
  obtain ⟨news, news_eq, accounts⟩ := one
  obtain ⟨more, more_eq, more_accounts⟩ := other
  refine ⟨news ++ more, ?_, accounts.append more_accounts together⟩
  rw [news_eq, more_eq, List.append_assoc]

private theorem of_skipped {inToken : Bool}
    (runs : Runs one_line effect nodes (place.skipUnless inToken) after) :
    Runs one_line effect nodes place after := by
  obtain ⟨news, news_eq, accounts⟩ := runs
  rw [place.sightings_skipUnless inToken] at news_eq
  exact ⟨news, news_eq, accounts⟩

private theorem below (runs : Runs one_line effect nodes place after) (rule : Rule)
    (start stop : Nat) :
    Runs one_line effect [.node rule start stop nodes] place after := by
  obtain ⟨news, news_eq, accounts⟩ := runs
  exact ⟨news, news_eq, accounts.below rule start stop⟩

end Runs

private theorem Derivation.runs_escaped (derivation : Derivation true escaped place after nodes) :
    Runs one_line .nothing nodes place after := by
  obtain ⟨character, ⟨rest_eq, offset_eq⟩, -⟩ := derivation.of_escaped
  apply Runs.silent
  rw [Place.sightings, rest_eq, Place.sightings, offset_eq]
  exact sightings_escape character after.rest place.offset

private theorem Derivation.runs_node {name : Rule}
    (inner : Derivation name.isToken name.pattern place after nodes)
    (skipped : skipBlank place.rest = place.rest)
    (inner_runs : name.pattern.effect name.isToken = some .nothing →
      Runs one_line .nothing nodes place after) :
    Runs one_line .nothing [.node name place.offset after.offset nodes] place after := by
  by_cases is_string : name = .string
  · subst is_string
    exact .silent _ inner.sightings_string
  · by_cases is_delimiter : name = .delimiter
    · subst is_delimiter
      obtain ⟨character, mark, ⟨-, offset_eq⟩, nodes_eq, mark_eq, not_opening, not_closing,
        noted⟩ := inner.sightings_delimiter skipped
      rw [offset_eq, nodes_eq]
      exact ⟨_, noted, accounts_delimiter mark_eq not_opening not_closing⟩
    · exact (inner_runs (Rule.effect_pattern is_string is_delimiter)).below _ _ _

/-- Whatever is read, the scanner runs from one place to the other, and what it notes on the way is
accounted for.  The induction is on the derivation.  Where a token may begin, blanks and comments
have been skipped, so a slash there does not open a closed comment. -/
theorem Derivation.runs {inToken : Bool} {pattern : Pattern} {effect : Effect}
    (derivation : Derivation inToken pattern place after nodes)
    (effect_eq : pattern.effect inToken = some effect) (ready : Ready inToken pattern place) :
    Runs one_line effect nodes place after := by
  induction derivation generalizing effect with
  | @stay _ pattern idle place =>
      obtain rfl : .nothing = effect := by
        cases pattern <;> simp_all [Pattern.isIdle, Pattern.effect]
      exact .silent [] rfl
  | absent missed =>
      obtain rfl := Option.some.inj effect_eq
      exact .silent [] rfl
  | @text _ letters rest place rest_eq =>
      cases letters with
      | nil =>
          obtain rfl := Option.some.inj effect_eq
          apply Runs.silent
          rw [Place.sightings, rest_eq]
          rfl
      | cons letter letters =>
          cases letters with
          | nil => exact .letter effect_eq ⟨rest_eq, rfl⟩
          | cons second letters => simp [Pattern.effect] at effect_eq
  | @one _ set character rest place rest_eq contained =>
      have named : set ≠ .any := by
        rintro rfl
        simp [Pattern.effect] at effect_eq
      obtain rfl : .nothing = effect := by
        cases set <;> simp_all [Pattern.effect]
      have letter_eq : letterEffect character = some .nothing :=
        if_pos (CharSet.isOrdinary_of_contains named contained)
      exact .letter letter_eq ⟨rest_eq, rfl⟩
  | @seq inToken first second place between after nodes others one other one_ih other_ih =>
      rw [Pattern.effect] at effect_eq
      split at effect_eq
      · next is_escaped =>
          obtain ⟨rfl, rfl⟩ : inToken = true ∧ .nothing = effect := by simpa using effect_eq
          have escape := Derivation.seq one other
          rw [is_escaped] at escape
          exact escape.runs_escaped
      · split at effect_eq
        · next one_effect other_effect one_eq other_eq =>
            have one_runs := one_ih one_eq (ready.part (by simp) _)
            have other_runs := other_ih other_eq (ready_skipUnless inToken _ between)
            exact one_runs.append other_runs.of_skipped effect_eq
        · simp at effect_eq
  | left one one_ih =>
      obtain ⟨-, one_eq⟩ := Option.ite_none_right_eq_some.mp effect_eq
      exact one_ih one_eq (ready.part (by simp) _)
  | right other other_ih =>
      obtain ⟨same, one_eq⟩ := Option.ite_none_right_eq_some.mp effect_eq
      exact other_ih (same ▸ one_eq) (ready.part (by simp) _)
  | optional once once_ih =>
      obtain ⟨once_eq, nothing_eq⟩ := Option.ite_none_right_eq_some.mp effect_eq
      exact once_ih (once_eq.trans nothing_eq) (ready.part (by simp) _)
  | @many inToken pattern place between after nodes others once later once_ih later_ih =>
      have more_eq : pattern.more.effect inToken = some effect := effect_eq
      obtain ⟨once_eq, nothing_eq⟩ := Option.ite_none_right_eq_some.mp effect_eq
      obtain rfl := Option.some.inj nothing_eq
      have once_runs := once_ih once_eq (ready.part (by simp) _)
      exact once_runs.append (later_ih more_eq (.inr (.inl ⟨pattern, rfl⟩))) rfl
  | @more inToken pattern place between after nodes others once later once_ih later_ih =>
      have more_eq := effect_eq
      obtain ⟨once_eq, nothing_eq⟩ := Option.ite_none_right_eq_some.mp effect_eq
      obtain rfl := Option.some.inj nothing_eq
      have once_runs := once_ih once_eq (ready_skipUnless inToken _ place)
      exact once_runs.of_skipped.append (later_ih more_eq (.inr (.inl ⟨pattern, rfl⟩))) rfl
  | @silent name place after nodes inner inner_ih =>
      obtain rfl : name = .identifier := by
        by_contra other
        simp [Pattern.effect, other] at effect_eq
      obtain rfl : .nothing = effect := by simpa [Pattern.effect] using effect_eq
      exact inner_ih (by decide) (.inl rfl)
  | @node name place after nodes inner inner_ih =>
      obtain rfl : .nothing = effect := by simpa [Pattern.effect] using effect_eq
      have skipped : skipBlank place.rest = place.rest := by simpa [Ready] using ready
      exact inner.runs_node skipped fun nothing => inner_ih nothing (.inr (.inr skipped))

/-- Everything that is noted in a stylesheet is accounted for by its tree. -/
theorem accounts_of_parse {text : List Char} {stylesheet : Node}
    (parsed : parse text = .ok stylesheet) :
    Effect.nothing.Accounts [stylesheet] (sightings one_line text 0) := by
  obtain ⟨last, nodes, many_read, at_end, rfl⟩ := read_statements_of_parse parsed
  have idle : (statement false).many.effect false = some .nothing := by decide
  have runs : Runs one_line .nothing nodes (Place.skip ⟨text, 0⟩) last :=
    (derivation_of_read (by decide) many_read).runs idle (ready_skipUnless false _ ⟨text, 0⟩)
  obtain ⟨news, noted, accounts⟩ := runs
  have noted_eq : sightings one_line text 0 = news := by
    have skipped : Place.sightings one_line ⟨text, 0⟩ = news ++ last.skip.sightings one_line := by
      rw [← Place.sightings_skip, noted, last.sightings_skip]
    have finished : last.skip.sightings one_line = [] := by
      rw [Place.sightings, at_end, sightings]
    rwa [finished, List.append_nil] at skipped
  have ended : Effect.nothing.Accounts
      [.node .endOfInput last.skip.offset last.skip.offset []] [] := .empty _
  have together : Effect.nothing.Accounts _ (news ++ []) := accounts.append ended rfl
  rw [noted_eq, ← List.append_nil news]
  exact together.below _ _ _

/-- The brackets of an accepted stylesheet match, whether or not the scanner lets a string go on in
the next line: it finds no stray bracket and no open string, and nothing is open in the end. -/
theorem balance_of_lint {source : String} {diagnostics : List Diagnostic}
    (linted : lint source = .ok diagnostics) (one_line : Bool) :
    balance [] ((sightings one_line source.toList 0).map Prod.snd) = .ok [] := by
  rw [lint] at linted
  split at linted
  · simp at linted
  · next stylesheet parsed =>
      have accounts : Effect.nothing.Accounts [stylesheet] (sightings one_line source.toList 0) :=
        accounts_of_parse parsed
      simpa [Effect.before, Effect.after, balance] using accounts.balanced [] []

theorem balance_of_lint_nested :
    ∃ source diagnostics,
      source = "@a(b[\"\\\"\x7d\"])/*)*/\x7bc\\\x7b\x7bd:(e;'(')\x7d f\x7b\x7d\x7d" ∧
      lint source = .ok diagnostics ∧
      balance [] ((sightings true source.toList 0).map Prod.snd) = .ok [] := by
  have one_warning :
      (lint "@a(b[\"\\\"\x7d\"])/*)*/\x7bc\\\x7b\x7bd:(e;'(')\x7d f\x7b\x7d\x7d").toOption.map
        List.length = some 1 := by
    decide +kernel
  cases linted : lint "@a(b[\"\\\"\x7d\"])/*)*/\x7bc\\\x7b\x7bd:(e;'(')\x7d f\x7b\x7d\x7d" with
  | error problem => simp [linted, Except.toOption] at one_warning
  | ok diagnostics => exact ⟨_, diagnostics, rfl, linted, balance_of_lint linted true⟩

end Reading

end Css
end LintBus

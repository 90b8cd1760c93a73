import LintBus.Proofs.Css.Reading

/-!
# Derivations

What is read by the equations of the grammar has a derivation.  Other than the steps of the reader
it also tells what does not stand at a place: where a pattern has to be absent, it was tried there
with enough steps and did not match.
-/

namespace LintBus
namespace Css

open Pattern

/-- The pattern may match without reading anything, whatever stands at the place. -/
def Pattern.isIdle : Pattern → Bool
  | .finish | .optional _ | .many _ | .more _ | .ahead _ => true
  | _ => false

/-- A reading of a pattern between two places, with one constructor for each way to read. -/
inductive Derivation : Bool → Pattern → Place → Place → List Node → Prop
  /-- The pattern matches and reads nothing. -/
  | stay {inToken : Bool} {pattern : Pattern} (idle : pattern.isIdle = true) (place : Place) :
      Derivation inToken pattern place place []
  | absent {inToken : Bool} {pattern : Pattern} {place : Place}
      (missed : read inToken pattern place = none) :
      Derivation inToken (.absent pattern) place place []
  | text {inToken : Bool} {letters rest : List Char} {place : Place}
      (rest_eq : place.rest = letters ++ rest) :
      Derivation inToken (.text letters) place ⟨rest, place.offset + letters.length⟩ []
  | one {inToken : Bool} {set : CharSet} {character : Char} {rest : List Char} {place : Place}
      (rest_eq : place.rest = character :: rest) (contained : set.contains character = true) :
      Derivation inToken (.one set) place ⟨rest, place.offset + 1⟩ []
  | seq {inToken : Bool} {first second : Pattern} {place between after : Place}
      {nodes others : List Node} (one : Derivation inToken first place between nodes)
      (other : Derivation inToken second (between.skipUnless inToken) after others) :
      Derivation inToken (.seq first second) place after (nodes ++ others)
  | left {inToken : Bool} {first second : Pattern} {place after : Place} {nodes : List Node}
      (one : Derivation inToken first place after nodes) :
      Derivation inToken (.alt first second) place after nodes
  | right {inToken : Bool} {first second : Pattern} {place after : Place} {nodes : List Node}
      (other : Derivation inToken second place after nodes) :
      Derivation inToken (.alt first second) place after nodes
  | optional {inToken : Bool} {pattern : Pattern} {place after : Place} {nodes : List Node}
      (once : Derivation inToken pattern place after nodes) :
      Derivation inToken (.optional pattern) place after nodes
  | many {inToken : Bool} {pattern : Pattern} {place between after : Place}
      {nodes others : List Node} (once : Derivation inToken pattern place between nodes)
      (later : Derivation inToken (.more pattern) between after others) :
      Derivation inToken (.many pattern) place after (nodes ++ others)
  | more {inToken : Bool} {pattern : Pattern} {place between after : Place}
      {nodes others : List Node}
      (once : Derivation inToken pattern (place.skipUnless inToken) between nodes)
      (later : Derivation inToken (.more pattern) between after others) :
      Derivation inToken (.more pattern) place after (nodes ++ others)
  | silent {name : Rule} {place after : Place} {nodes : List Node}
      (inner : Derivation true name.pattern place after nodes) :
      Derivation true (.rule name) place after nodes
  | node {name : Rule} {place after : Place} {nodes : List Node}
      (inner : Derivation name.isToken name.pattern place after nodes) :
      Derivation false (.rule name) place after [.node name place.offset after.offset nodes]

/-- Every reading has a derivation.  The induction is on the number of steps that are enough for
it: what is read later has fewer characters left or nests less deeply. -/
theorem derivation_of_read {inToken : Bool} {pattern : Pattern} {place after : Place}
    {nodes : List Node} (bounded : pattern.isBounded = true)
    (reading : read inToken pattern place = some (after, nodes)) :
    Derivation inToken pattern place after nodes := by
  induction enough : 64 * place.rest.length + pattern.depth using Nat.strongRecOn
    generalizing inToken pattern place after nodes with
  | ind enough induction =>
      cases pattern with
      | text letters =>
          simp only [read_text, Option.map_eq_some_iff, dropText?_eq_some, Prod.mk.injEq] at reading
          obtain ⟨rest, rest_eq, rfl, rfl⟩ := reading
          exact .text rest_eq
      | one set =>
          rw [read_one] at reading
          split at reading
          · simp at reading
          · next character rest rest_eq =>
              split at reading
              · next contained =>
                  obtain ⟨rfl, rfl⟩ := Prod.mk.inj (Option.some.inj reading)
                  exact .one rest_eq contained
              · simp at reading
      | finish =>
          rw [read_finish] at reading
          split at reading
          · obtain ⟨rfl, rfl⟩ := Prod.mk.inj (Option.some.inj reading)
            exact .stay rfl place
          · simp at reading
      | seq first second =>
          rw [read_seq bounded] at reading
          simp only [Option.bind_eq_some_iff, Option.map_eq_some_iff] at reading
          obtain ⟨⟨between, news⟩, first_read, ⟨_, others⟩, second_read, ⟨rfl, rfl⟩⟩ := reading
          obtain ⟨first_bounded, second_bounded⟩ := Pattern.isBounded_of_seq bounded
          have first_depth := Pattern.depth_lt_seq first second
          have second_less := steps_after_first second_bounded first_read
          rw [enough] at second_less
          exact .seq (induction _ (by omega) first_bounded first_read rfl)
            (induction _ second_less second_bounded second_read rfl)
      | alt first second =>
          rw [read_alt bounded, Option.or_eq_some_iff] at reading
          obtain ⟨first_bounded, second_bounded⟩ := Pattern.isBounded_of_alt bounded
          rw [Pattern.depth] at enough
          rcases reading with first_read | ⟨-, second_read⟩
          · exact .left (induction _ (by omega) first_bounded first_read rfl)
          · exact .right (induction _ (by omega) second_bounded second_read rfl)
      | optional pattern =>
          rw [read_optional bounded, Option.some.injEq] at reading
          have inner_bounded := Pattern.isBounded_of_optional bounded
          rw [Pattern.depth] at enough
          cases once : read inToken pattern place with
          | none =>
              obtain ⟨rfl, rfl⟩ : place = after ∧ [] = nodes := by simpa [once] using reading
              exact .stay rfl place
          | some inner =>
              obtain rfl : inner = (after, nodes) := by simpa [once] using reading
              exact .optional (induction _ (by omega) inner_bounded once rfl)
      | absent pattern =>
          rw [read_absent bounded] at reading
          split at reading
          · next missed =>
              obtain ⟨rfl, rfl⟩ := Prod.mk.inj (Option.some.inj reading)
              exact .absent (Option.isNone_iff_eq_none.mp missed)
          · simp at reading
      | ahead pattern =>
          rw [read_ahead bounded] at reading
          split at reading
          · obtain ⟨rfl, rfl⟩ := Prod.mk.inj (Option.some.inj reading)
            exact .stay rfl place
          · simp at reading
      | many pattern =>
          have more_bounded : pattern.more.isBounded = true := bounded
          rw [read_many bounded] at reading
          rw [Pattern.depth] at enough
          split at reading
          · obtain ⟨rfl, rfl⟩ := Prod.mk.inj (Option.some.inj reading)
            exact .stay rfl place
          · next between news once =>
              obtain ⟨⟨_, others⟩, later_read, ⟨rfl, rfl⟩⟩ := Option.map_eq_some_iff.mp reading
              have later_less := steps_after_repeated bounded once
              exact .many (induction _ (by omega) (Pattern.isBounded_of_many bounded).1 once rfl)
                (induction _ (by omega) more_bounded later_read rfl)
      | more pattern =>
          rw [read_more bounded] at reading
          rw [Pattern.depth] at enough
          obtain ⟨blank, blank_leads⟩ := place.skipUnless_leads inToken
          have skipped_length := blank_leads.length_eq
          split at reading
          · obtain ⟨rfl, rfl⟩ := Prod.mk.inj (Option.some.inj reading)
            exact .stay rfl place
          · next between news once =>
              obtain ⟨⟨_, others⟩, later_read, ⟨rfl, rfl⟩⟩ := Option.map_eq_some_iff.mp reading
              have later_less := steps_after_repeated bounded once
              exact .more (induction _ (by omega) (Pattern.isBounded_of_many bounded).1 once rfl)
                (induction _ (by omega) bounded later_read rfl)
      | rule name =>
          obtain ⟨pattern_bounded, deeper, -⟩ := Rule.pattern_isBounded name
          rw [Pattern.depth] at enough
          cases inToken with
          | true =>
              rw [read_rule_inToken] at reading
              exact .silent (induction _ (by omega) pattern_bounded reading rfl)
          | false =>
              rw [read_rule] at reading
              obtain ⟨⟨_, inner⟩, inner_read, ⟨rfl, rfl⟩⟩ := Option.map_eq_some_iff.mp reading
              exact .node (induction _ (by omega) pattern_bounded inner_read rfl)

namespace Derivation

variable {inToken : Bool} {first second pattern : Pattern} {place after : Place} {nodes : List Node}

theorem of_text {letters : List Char}
    (derivation : Derivation inToken (.text letters) place after nodes) :
    place.Leads after letters ∧ nodes = [] := by
  cases derivation with
  | stay idle => simp [Pattern.isIdle] at idle
  | text rest_eq => exact ⟨⟨rest_eq, rfl⟩, rfl⟩

theorem of_one {set : CharSet} (derivation : Derivation inToken (.one set) place after nodes) :
    ∃ character, set.contains character = true ∧ place.Leads after [character] ∧ nodes = [] := by
  cases derivation with
  | stay idle => simp [Pattern.isIdle] at idle
  | @one _ _ character rest _ rest_eq contained =>
      exact ⟨character, contained, ⟨rest_eq, rfl⟩, rfl⟩

theorem of_seq (derivation : Derivation inToken (.seq first second) place after nodes) :
    ∃ between news others, Derivation inToken first place between news ∧
      Derivation inToken second (between.skipUnless inToken) after others ∧
      nodes = news ++ others := by
  cases derivation with
  | stay idle => simp [Pattern.isIdle] at idle
  | seq one other => exact ⟨_, _, _, one, other, rfl⟩

theorem of_alt (derivation : Derivation inToken (.alt first second) place after nodes) :
    Derivation inToken first place after nodes ∨ Derivation inToken second place after nodes := by
  cases derivation with
  | stay idle => simp [Pattern.isIdle] at idle
  | left one => exact .inl one
  | right other => exact .inr other

theorem of_absent (derivation : Derivation inToken (.absent pattern) place after nodes) :
    read inToken pattern place = none ∧ after = place ∧ nodes = [] := by
  cases derivation with
  | stay idle => simp [Pattern.isIdle] at idle
  | absent missed => exact ⟨missed, rfl, rfl⟩

theorem of_firstOf {patterns : List Pattern}
    (derivation : Derivation inToken (firstOf patterns) place after nodes) :
    ∃ pattern ∈ patterns, Derivation inToken pattern place after nodes := by
  induction patterns with
  | nil =>
      obtain ⟨missed, -⟩ := of_absent derivation
      simp [read_text, dropText?] at missed
  | cons first others induction =>
      cases others with
      | nil => exact ⟨first, by simp, derivation⟩
      | cons second others =>
          rcases of_alt derivation with one | other
          · exact ⟨first, by simp, one⟩
          · obtain ⟨pattern, found, inner⟩ := induction other
            exact ⟨pattern, List.mem_cons_of_mem _ found, inner⟩

/-- What holds from place to place along the repetitions in a token holds from end to end. -/
theorem of_many {motive : Place → Place → Prop} (refl : ∀ place, motive place place)
    (step : ∀ {place between after nodes}, Derivation true pattern place between nodes →
      motive between after → motive place after)
    (derivation : Derivation true pattern.many place after nodes) : motive place after := by
  have of_more {place after : Place} {nodes : List Node}
      (derivation : Derivation true pattern.more place after nodes) : motive place after := by
    generalize token_eq : true = inToken at derivation
    generalize pattern_eq : pattern.more = repeated at derivation
    induction derivation with
    | stay idle place => exact refl place
    | more once later _ later_holds =>
        subst token_eq
        obtain rfl := Pattern.more.inj pattern_eq
        exact step once (later_holds rfl pattern_eq)
    | _ => simp at pattern_eq
  cases derivation with
  | stay idle => exact refl place
  | many once later => exact step once (of_more later)

end Derivation

end Css
end LintBus

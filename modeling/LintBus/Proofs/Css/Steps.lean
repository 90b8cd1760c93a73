import LintBus.Css.Grammar
import Mathlib.Data.List.Basic

/-!
# Steps of the matcher

The rules of the grammar nest to a bounded depth before a character is read, and what is repeated
reads at least one character each time.  So a bounded number of steps for each character is enough:
with enough steps the outcome of a match does not depend on their number.
-/

namespace LintBus
namespace Css

namespace Rule

/-- Whenever the rule matches, it reads a character. -/
def consumes : Rule → Bool
  | .endOfInput | .stylesheet | .prelude => false
  | _ => true

/-- More than the depth to which patterns nest in the rule before a character is read. -/
def depth : Rule → Nat
  | .endOfInput => 2
  | .stylesheet => 50
  | .atRule | .block | .parenGroup | .bracketGroup | .hash => 3
  | .atKeyword | .property => 9
  | .prelude => 40
  | .ruleset => 45
  | .selector => 40
  | .declaration => 11
  | .value => 40
  | .number => 12
  | .identifier => 8
  | .string => 5
  | .delimiter => 20

end Rule

namespace Pattern

/-- Whenever the pattern matches, it reads a character. -/
def consumes : Pattern → Bool
  | .text letters => !letters.isEmpty
  | .one _ => true
  | .seq first second => first.consumes || second.consumes
  | .alt first second => first.consumes && second.consumes
  | .rule name => name.consumes
  | .finish | .optional _ | .many _ | .more _ | .absent _ | .ahead _ => false

/-- The depth to which patterns nest before a character is read. -/
def depth : Pattern → Nat
  | .text _ | .one _ | .finish => 1
  | .seq first second => 1 + max first.depth (if first.consumes then 0 else second.depth)
  | .alt first second => 1 + max first.depth second.depth
  | .optional pattern | .many pattern | .more pattern | .absent pattern | .ahead pattern =>
      1 + pattern.depth
  | .rule name => name.depth

/-- What is repeated reads a character each time, and patterns do not nest deeper than the number of
steps for a character. -/
def isBounded : Pattern → Bool
  | .text _ | .one _ | .finish => true
  | .rule name => name.depth ≤ 64
  | .seq first second =>
      depth (.seq first second) ≤ 64 && first.isBounded && second.isBounded
  | .alt first second => depth (.alt first second) ≤ 64 && first.isBounded && second.isBounded
  | .many pattern | .more pattern => pattern.depth < 64 && pattern.isBounded && pattern.consumes
  | .optional pattern | .absent pattern | .ahead pattern => pattern.depth < 64 && pattern.isBounded

theorem depth_le_of_isBounded {pattern : Pattern} (bounded : pattern.isBounded = true) :
    pattern.depth ≤ 64 := by
  cases pattern with
  | text _ | one _ | finish => simp [depth]
  | rule name => simpa [isBounded, depth] using bounded
  | seq first second | alt first second =>
      simp only [isBounded, Bool.and_eq_true, decide_eq_true_eq] at bounded
      exact bounded.1.1
  | many pattern | more pattern =>
      simp only [isBounded, Bool.and_eq_true, decide_eq_true_eq] at bounded
      simp only [depth]
      omega
  | optional pattern | absent pattern | ahead pattern =>
      simp only [isBounded, Bool.and_eq_true, decide_eq_true_eq] at bounded
      simp only [depth]
      omega

section Parts

variable {first second pattern : Pattern}

theorem isBounded_of_seq (bounded : (seq first second).isBounded = true) :
    first.isBounded = true ∧ second.isBounded = true := by
  rw [isBounded, Bool.and_eq_true, Bool.and_eq_true] at bounded
  exact ⟨bounded.1.2, bounded.2⟩

theorem isBounded_of_alt (bounded : (alt first second).isBounded = true) :
    first.isBounded = true ∧ second.isBounded = true := by
  rw [isBounded, Bool.and_eq_true, Bool.and_eq_true] at bounded
  exact ⟨bounded.1.2, bounded.2⟩

theorem isBounded_of_optional (bounded : pattern.optional.isBounded = true) :
    pattern.isBounded = true := by
  rw [isBounded, Bool.and_eq_true] at bounded
  exact bounded.2

/-- What is repeated reads a character each time. -/
theorem isBounded_of_many (bounded : pattern.many.isBounded = true) :
    pattern.isBounded = true ∧ pattern.consumes = true := by
  rw [isBounded, Bool.and_eq_true, Bool.and_eq_true] at bounded
  exact ⟨bounded.1.2, bounded.2⟩

theorem depth_lt_seq (first second : Pattern) : first.depth < (seq first second).depth := by
  rw [depth]
  omega

end Parts

end Pattern

/-- The patterns of all rules are bounded. -/
theorem Rule.pattern_isBounded (name : Rule) :
    name.pattern.isBounded = true ∧ name.pattern.depth < name.depth ∧ name.depth ≤ 64 ∧
      (name.consumes = true → name.pattern.consumes = true) := by
  cases name <;> decide

/-! ## Reading without a record of attempts -/

/-- A place in a text. -/
structure Place where
  /-- What is left of the text. -/
  rest : List Char
  /-- Number of characters before. -/
  offset : Nat

namespace Place

/-- Skip blanks and comments. -/
def skip (place : Place) : Place :=
  let (rest, offset) := dropBlank place.rest place.offset
  ⟨rest, offset⟩

/-- Skip blanks and comments, unless a token is being read. -/
def skipUnless (place : Place) (inToken : Bool) : Place :=
  if inToken then place else place.skip

end Place

/-- Read a pattern at a place in a number of steps: the place after it and the nodes read, if it
matches. -/
def readIn : Nat → Bool → Pattern → Place → Option (Place × List Node)
  | 0, _, _, _ => none
  | steps + 1, inToken, pattern, place =>
      match pattern with
      | .text letters =>
          (dropText? letters place.rest).map fun rest =>
            (⟨rest, place.offset + letters.length⟩, [])
      | .one set =>
          match place.rest with
          | [] => none
          | character :: rest =>
              if set.contains character then some (⟨rest, place.offset + 1⟩, []) else none
      | .finish => if place.rest.isEmpty then some (place, []) else none
      | .seq first second =>
          (readIn steps inToken first place).bind fun (between, nodes) =>
            (readIn steps inToken second (between.skipUnless inToken)).map fun (after, others) =>
              (after, nodes ++ others)
      | .alt first second =>
          (readIn steps inToken first place).or (readIn steps inToken second place)
      | .optional pattern => some ((readIn steps inToken pattern place).getD (place, []))
      | .many pattern =>
          match readIn steps inToken pattern place with
          | none => some (place, [])
          | some (between, nodes) =>
              (readIn steps inToken (.more pattern) between).map fun (after, others) =>
                (after, nodes ++ others)
      | .more pattern =>
          match readIn steps inToken pattern (place.skipUnless inToken) with
          | none => some (place, [])
          | some (between, nodes) =>
              (readIn steps inToken (.more pattern) between).map fun (after, others) =>
                (after, nodes ++ others)
      | .absent pattern =>
          if (readIn steps inToken pattern place).isNone then some (place, []) else none
      | .ahead pattern =>
          if (readIn steps inToken pattern place).isSome then some (place, []) else none
      | .rule name =>
          if inToken then readIn steps true name.pattern place
          else
            (readIn steps name.isToken name.pattern place).map fun (after, nodes) =>
              (after, [.node name place.offset after.offset nodes])

theorem Progress.skipUnless_eq (progress : Progress) (inToken : Bool) :
    progress.skipUnless inToken =
      ⟨(Place.skipUnless ⟨progress.rest, progress.offset⟩ inToken).rest,
        (Place.skipUnless ⟨progress.rest, progress.offset⟩ inToken).offset, progress.nodes⟩ := by
  cases inToken with
  | true => rfl
  | false => rfl

/-- Where the matcher and the reader agree, both fail or both read the same nodes. -/
theorem agree_cases {outcome : Option Progress × Attempts}
    {reading : Option (Place × List Node)} {before : List Node}
    (agree : outcome.1 = reading.map fun (after, nodes) =>
      ⟨after.rest, after.offset, nodes.reverse ++ before⟩) :
    (∃ attempts, outcome = (none, attempts) ∧ reading = none) ∨
      ∃ after nodes attempts, reading = some (after, nodes) ∧
        outcome = (some ⟨after.rest, after.offset, nodes.reverse ++ before⟩, attempts) := by
  obtain ⟨matched, attempts⟩ := outcome
  cases reading with
  | none => exact .inl ⟨attempts, Prod.ext agree rfl, rfl⟩
  | some reading => exact .inr ⟨reading.1, reading.2, attempts, rfl, Prod.ext agree rfl⟩

/-- The matcher reads what can be read in as many steps, and puts the nodes on top of those read
before. -/
theorem matchPattern_eq_readIn (steps : Nat) (inToken : Bool) (pattern : Pattern)
    (progress : Progress) (attempts : Attempts) :
    (matchPattern steps inToken pattern progress attempts).1 =
      (readIn steps inToken pattern ⟨progress.rest, progress.offset⟩).map fun (after, nodes) =>
        ⟨after.rest, after.offset, nodes.reverse ++ progress.nodes⟩ := by
  induction steps generalizing inToken pattern progress attempts with
  | zero => rfl
  | succ steps induction =>
      obtain ⟨rest, offset, before⟩ := progress
      cases pattern with
      | text letters =>
          simp only [matchPattern, readIn]
          cases dropText? letters rest with
          | none => rfl
          | some rest => rfl
      | one set =>
          simp only [matchPattern, readIn]
          cases rest with
          | nil => rfl
          | cons character rest =>
              simp only
              split
              · rfl
              · rfl
      | finish =>
          simp only [matchPattern, readIn]
          split
          · rfl
          · rfl
      | seq first second =>
          rcases agree_cases (induction inToken first ⟨rest, offset, before⟩ attempts) with
            ⟨later, missed, not_read⟩ | ⟨between, nodes, later, first_read, matched⟩
          · simp [matchPattern, readIn, missed, not_read]
          · simp [matchPattern, readIn, matched, first_read, induction, Progress.skipUnless_eq,
              Function.comp_def]
      | alt first second =>
          rcases agree_cases (induction inToken first ⟨rest, offset, before⟩ attempts) with
            ⟨later, missed, not_read⟩ | ⟨between, nodes, later, first_read, matched⟩
          · simp [matchPattern, readIn, missed, not_read, induction]
          · simp [matchPattern, readIn, matched, first_read]
      | optional pattern | absent pattern | ahead pattern =>
          rcases agree_cases (induction inToken pattern ⟨rest, offset, before⟩ attempts) with
            ⟨later, missed, not_read⟩ | ⟨between, nodes, later, once, matched⟩
          · simp [matchPattern, readIn, missed, not_read]
          · simp [matchPattern, readIn, matched, once]
      | many pattern =>
          rcases agree_cases (induction inToken pattern ⟨rest, offset, before⟩ attempts) with
            ⟨later, missed, not_read⟩ | ⟨between, nodes, later, once, matched⟩
          · simp [matchPattern, readIn, missed, not_read]
          · simp [matchPattern, readIn, matched, once, induction, Function.comp_def]
      | more pattern =>
          let skipped : Place := Place.skipUnless ⟨rest, offset⟩ inToken
          have skip_eq : Progress.skipUnless ⟨rest, offset, before⟩ inToken =
              ⟨skipped.rest, skipped.offset, before⟩ := Progress.skipUnless_eq _ inToken
          rcases agree_cases (induction inToken pattern ⟨skipped.rest, skipped.offset, before⟩
            attempts) with ⟨later, missed, not_read⟩ | ⟨between, nodes, later, once, matched⟩
          · simp [matchPattern, readIn, skip_eq, missed, skipped, not_read]
          · simp [matchPattern, readIn, skip_eq, matched, skipped, once, induction,
              Function.comp_def]
      | rule name =>
          cases inToken with
          | true => simp [matchPattern, readIn, induction]
          | false =>
              rcases agree_cases (induction name.isToken name.pattern ⟨rest, offset, []⟩ attempts)
                with ⟨later, missed, not_read⟩ | ⟨between, nodes, later, inner, matched⟩
              · simp [matchPattern, readIn, missed, not_read]
              · simp [matchPattern, readIn, matched, inner]

/-! ## What is read -/

/-- The text between two places leads from the first to the second. -/
def Place.Leads (place after : Place) (taken : List Char) : Prop :=
  place.rest = taken ++ after.rest ∧ after.offset = place.offset + taken.length

namespace Place.Leads

variable {place between after : Place} {taken others : List Char}

theorem refl (place : Place) : place.Leads place [] := ⟨rfl, rfl⟩

theorem trans (first : place.Leads between taken) (second : between.Leads after others) :
    place.Leads after (taken ++ others) := by
  obtain ⟨rest_eq, offset_eq⟩ := first
  obtain ⟨later_rest_eq, later_offset_eq⟩ := second
  refine ⟨by rw [rest_eq, later_rest_eq, List.append_assoc], ?_⟩
  rw [later_offset_eq, offset_eq, List.length_append, Nat.add_assoc]

theorem length_eq (leads : place.Leads after taken) :
    place.rest.length = taken.length + after.rest.length := by
  rw [leads.1, List.length_append]

end Place.Leads

theorem dropText?_eq_some {letters text rest : List Char} :
    dropText? letters text = some rest ↔ text = letters ++ rest := by
  fun_induction dropText? letters text with
  | case1 text => simp
  | case2 => simp
  | case3 letters character text induction => simpa using induction
  | case4 letter letters character text differs => simp [Ne.symm differs]

private theorem closeComment_taken {text rest : List Char} {count total : Nat}
    (closed : closeComment text count = some (rest, total)) :
    ∃ taken, text = taken ++ rest ∧ total = count + taken.length := by
  fun_induction closeComment text count with
  | case1 tail count =>
      obtain ⟨rfl, rfl⟩ := by simpa using closed
      exact ⟨['*', '/'], rfl, rfl⟩
  | case2 head tail count not_close induction =>
      obtain ⟨taken, rfl, rfl⟩ := induction closed
      exact ⟨head :: taken, rfl, by simp only [List.length_cons]; omega⟩
  | case3 count => simp at closed

private theorem dropBlank_taken (text : List Char) (count : Nat) :
    ∃ taken, text = taken ++ (dropBlank text count).1 ∧
      (dropBlank text count).2 = count + taken.length := by
  fun_induction dropBlank text count with
  | case1 count rest after closed_count closed induction =>
      obtain ⟨comment, rfl, rfl⟩ := closeComment_taken closed
      obtain ⟨taken, taken_eq, count_eq⟩ := induction
      refine ⟨'/' :: '*' :: (comment ++ taken), by simp [← taken_eq], ?_⟩
      simp only [List.length_cons, List.length_append, count_eq]
      omega
  | case2 => exact ⟨[], rfl, rfl⟩
  | case3 count character rest _ blank induction =>
      obtain ⟨taken, taken_eq, count_eq⟩ := induction
      refine ⟨character :: taken, by simp [← taken_eq], ?_⟩
      simp only [List.length_cons, count_eq]
      omega
  | case4 => exact ⟨[], rfl, rfl⟩
  | case5 => exact ⟨[], rfl, rfl⟩

theorem Place.skip_leads (place : Place) : ∃ taken, place.Leads place.skip taken :=
  dropBlank_taken place.rest place.offset

theorem Place.skipUnless_leads (place : Place) (inToken : Bool) :
    ∃ taken, place.Leads (place.skipUnless inToken) taken := by
  cases inToken with
  | true => exact ⟨[], .refl place⟩
  | false => exact place.skip_leads

/-- What a pattern reads between two places, with one constructor for each way to read. -/
inductive Reads : Bool → Pattern → Place → Place → List Node → Prop
  /-- The pattern matches and reads nothing. -/
  | stay {inToken : Bool} {pattern : Pattern} (idle : pattern.consumes = false) (place : Place) :
      Reads inToken pattern place place []
  | text {inToken : Bool} {letters rest : List Char} {place : Place}
      (rest_eq : place.rest = letters ++ rest) :
      Reads inToken (.text letters) place ⟨rest, place.offset + letters.length⟩ []
  | one {inToken : Bool} {set : CharSet} {character : Char} {rest : List Char} {place : Place}
      (rest_eq : place.rest = character :: rest) (contained : set.contains character = true) :
      Reads inToken (.one set) place ⟨rest, place.offset + 1⟩ []
  | seq {inToken : Bool} {first second : Pattern} {place between after : Place}
      {nodes others : List Node} (one : Reads inToken first place between nodes)
      (other : Reads inToken second (between.skipUnless inToken) after others) :
      Reads inToken (.seq first second) place after (nodes ++ others)
  | left {inToken : Bool} {first second : Pattern} {place after : Place} {nodes : List Node}
      (one : Reads inToken first place after nodes) :
      Reads inToken (.alt first second) place after nodes
  | right {inToken : Bool} {first second : Pattern} {place after : Place} {nodes : List Node}
      (other : Reads inToken second place after nodes) :
      Reads inToken (.alt first second) place after nodes
  | optional {inToken : Bool} {pattern : Pattern} {place after : Place} {nodes : List Node}
      (once : Reads inToken pattern place after nodes) :
      Reads inToken (.optional pattern) place after nodes
  | many {inToken : Bool} {pattern : Pattern} {place between after : Place}
      {nodes others : List Node} (once : Reads inToken pattern place between nodes)
      (later : Reads inToken (.more pattern) between after others) :
      Reads inToken (.many pattern) place after (nodes ++ others)
  | more {inToken : Bool} {pattern : Pattern} {place between after : Place}
      {nodes others : List Node}
      (once : Reads inToken pattern (place.skipUnless inToken) between nodes)
      (later : Reads inToken (.more pattern) between after others) :
      Reads inToken (.more pattern) place after (nodes ++ others)
  | silent {name : Rule} {place after : Place} {nodes : List Node}
      (inner : Reads true name.pattern place after nodes) :
      Reads true (.rule name) place after nodes
  | node {name : Rule} {place after : Place} {nodes : List Node}
      (inner : Reads name.isToken name.pattern place after nodes) :
      Reads false (.rule name) place after [.node name place.offset after.offset nodes]

theorem reads_of_readIn {steps : Nat} {inToken : Bool} {pattern : Pattern} {place after : Place}
    {nodes : List Node} (read : readIn steps inToken pattern place = some (after, nodes)) :
    Reads inToken pattern place after nodes := by
  induction steps generalizing inToken pattern place after nodes with
  | zero => simp [readIn] at read
  | succ steps induction =>
      cases pattern with
      | text letters =>
          simp only [readIn, Option.map_eq_some_iff, dropText?_eq_some, Prod.mk.injEq] at read
          obtain ⟨rest, rest_eq, rfl, rfl⟩ := read
          exact .text rest_eq
      | one set =>
          rw [readIn] at read
          split at read
          · simp at read
          · next character rest rest_eq =>
              split at read
              · next contained =>
                  obtain ⟨rfl, rfl⟩ := Prod.mk.inj (Option.some.inj read)
                  exact .one rest_eq contained
              · simp at read
      | seq first second =>
          simp only [readIn, Option.bind_eq_some_iff, Option.map_eq_some_iff] at read
          obtain ⟨⟨between, news⟩, first_read, ⟨_, others⟩, second_read, ⟨rfl, rfl⟩⟩ := read
          exact .seq (induction first_read) (induction second_read)
      | alt first second =>
          rw [readIn, Option.or_eq_some_iff] at read
          rcases read with first_read | ⟨-, second_read⟩
          · exact .left (induction first_read)
          · exact .right (induction second_read)
      | optional pattern =>
          rw [readIn, Option.some.injEq] at read
          cases once : readIn steps inToken pattern place with
          | none =>
              obtain ⟨rfl, rfl⟩ : place = after ∧ [] = nodes := by simpa [once] using read
              exact .stay rfl place
          | some reading =>
              obtain rfl : reading = (after, nodes) := by simpa [once] using read
              exact .optional (induction once)
      | many pattern =>
          rw [readIn] at read
          split at read
          · obtain ⟨rfl, rfl⟩ := Prod.mk.inj (Option.some.inj read)
            exact .stay rfl place
          · next between news once =>
              obtain ⟨⟨_, others⟩, later, ⟨rfl, rfl⟩⟩ := Option.map_eq_some_iff.mp read
              exact .many (induction once) (induction later)
      | more pattern =>
          rw [readIn] at read
          split at read
          · obtain ⟨rfl, rfl⟩ := Prod.mk.inj (Option.some.inj read)
            exact .stay rfl place
          · next between news once =>
              obtain ⟨⟨_, others⟩, later, ⟨rfl, rfl⟩⟩ := Option.map_eq_some_iff.mp read
              exact .more (induction once) (induction later)
      | finish | absent pattern | ahead pattern =>
          rw [readIn] at read
          split at read
          · obtain ⟨rfl, rfl⟩ := Prod.mk.inj (Option.some.inj read)
            exact .stay rfl place
          · simp at read
      | rule name =>
          cases inToken with
          | true =>
              rw [readIn, if_pos rfl] at read
              exact .silent (induction read)
          | false =>
              rw [readIn, if_neg Bool.false_ne_true] at read
              obtain ⟨⟨_, inner⟩, inner_read, ⟨rfl, rfl⟩⟩ := Option.map_eq_some_iff.mp read
              exact .node (induction inner_read)

/-- What is read lies between two places, and a pattern that consumes reads a character. -/
theorem Reads.leads {inToken : Bool} {pattern : Pattern} {place after : Place} {nodes : List Node}
    (reads : Reads inToken pattern place after nodes) :
    ∃ taken, place.Leads after taken ∧ (pattern.consumes = true → taken ≠ []) := by
  induction reads with
  | stay idle place => exact ⟨[], .refl place, by simp [idle]⟩
  | @text _ letters rest place rest_eq =>
      exact ⟨letters, ⟨rest_eq, rfl⟩, by simp [Pattern.consumes]⟩
  | @one _ _ character _ _ rest_eq => exact ⟨[character], ⟨rest_eq, rfl⟩, by simp⟩
  | @seq inToken _ _ _ between _ _ _ _ _ one_leads other_leads =>
      obtain ⟨one, one_leads, one_some⟩ := one_leads
      obtain ⟨blank, blank_leads⟩ := between.skipUnless_leads inToken
      obtain ⟨other, other_leads, other_some⟩ := other_leads
      refine ⟨_, (one_leads.trans blank_leads).trans other_leads, fun either => ?_⟩
      rw [Pattern.consumes, Bool.or_eq_true] at either
      rcases either with some_one | some_other
      · simp [one_some some_one]
      · simp [other_some some_other]
  | left _ leads =>
      obtain ⟨taken, leads, some_taken⟩ := leads
      exact ⟨taken, leads, fun both => some_taken (Bool.and_eq_true_iff.mp both).1⟩
  | right _ leads =>
      obtain ⟨taken, leads, some_taken⟩ := leads
      exact ⟨taken, leads, fun both => some_taken (Bool.and_eq_true_iff.mp both).2⟩
  | optional _ leads =>
      obtain ⟨taken, leads, -⟩ := leads
      exact ⟨taken, leads, by simp [Pattern.consumes]⟩
  | many _ _ once_leads later_leads =>
      obtain ⟨one, once_leads, -⟩ := once_leads
      obtain ⟨other, later_leads, -⟩ := later_leads
      exact ⟨_, once_leads.trans later_leads, by simp [Pattern.consumes]⟩
  | @more inToken _ place _ _ _ _ _ _ once_leads later_leads =>
      obtain ⟨blank, blank_leads⟩ := place.skipUnless_leads inToken
      obtain ⟨one, once_leads, -⟩ := once_leads
      obtain ⟨other, later_leads, -⟩ := later_leads
      exact ⟨_, (blank_leads.trans once_leads).trans later_leads, by simp [Pattern.consumes]⟩
  | @silent name _ _ _ _ leads | @node name _ _ _ _ leads =>
      obtain ⟨taken, leads, some_taken⟩ := leads
      have consuming := (Rule.pattern_isBounded name).2.2.2
      exact ⟨taken, leads, fun consumes => some_taken (consuming consumes)⟩

theorem readIn_leads {steps : Nat} {inToken : Bool} {pattern : Pattern} {place after : Place}
    {nodes : List Node} (read : readIn steps inToken pattern place = some (after, nodes)) :
    ∃ taken, place.Leads after taken ∧ (pattern.consumes = true → taken ≠ []) :=
  (reads_of_readIn read).leads

/-! ## Enough steps -/

private theorem Pattern.depth_pos (pattern : Pattern) : 0 < pattern.depth := by
  cases pattern with
  | rule name => cases name <;> decide
  | _ =>
      rw [depth]
      omega

theorem readIn_length {steps : Nat} {inToken : Bool} {pattern : Pattern} {place after : Place}
    {nodes : List Node} (read : readIn steps inToken pattern place = some (after, nodes)) :
    (after.skipUnless inToken).rest.length ≤ place.rest.length ∧
      (pattern.consumes = true → (after.skipUnless inToken).rest.length < place.rest.length) := by
  obtain ⟨taken, leads, some_taken⟩ := readIn_leads read
  obtain ⟨blank, blank_leads⟩ := after.skipUnless_leads inToken
  have length_eq := (leads.trans blank_leads).length_eq
  rw [List.length_append] at length_eq
  refine ⟨by omega, fun consumes => ?_⟩
  have := List.length_pos_iff.mpr (some_taken consumes)
  omega

/-- After the first part fewer characters are left, or the second part nests less deeply. -/
theorem steps_after_first {steps : Nat} {inToken : Bool} {first second : Pattern}
    {place between : Place} {nodes : List Node} (bounded : second.isBounded = true)
    (once : readIn steps inToken first place = some (between, nodes)) :
    64 * (between.skipUnless inToken).rest.length + second.depth <
      64 * place.rest.length + (first.seq second).depth := by
  obtain ⟨shorter, consumed⟩ := readIn_length once
  have second_depth := Pattern.depth_le_of_isBounded bounded
  rw [Pattern.depth]
  by_cases consumes : first.consumes = true
  · have := consumed consumes
    omega
  · rw [if_neg consumes]
    omega

/-- After a repetition fewer characters are left. -/
theorem steps_after_repeated {steps : Nat} {inToken : Bool} {pattern : Pattern}
    {place between : Place} {nodes : List Node} (bounded : pattern.many.isBounded = true)
    (once : readIn steps inToken pattern place = some (between, nodes)) :
    64 * between.rest.length + pattern.more.depth ≤ 64 * place.rest.length := by
  have more_depth : pattern.more.depth ≤ 64 := Pattern.depth_le_of_isBounded bounded
  obtain ⟨taken, leads, some_taken⟩ := readIn_leads once
  have length_eq := leads.length_eq
  have := List.length_pos_iff.mpr (some_taken (Pattern.isBounded_of_many bounded).2)
  omega

/-- With enough steps for the characters left and the depth of the pattern, the number of steps does
not matter. -/
theorem readIn_enough {steps others : Nat} {inToken : Bool} {pattern : Pattern} {place : Place}
    (bounded : pattern.isBounded = true) (enough : 64 * place.rest.length + pattern.depth ≤ steps)
    (others_enough : 64 * place.rest.length + pattern.depth ≤ others) :
    readIn steps inToken pattern place = readIn others inToken pattern place := by
  induction steps generalizing others inToken pattern place with
  | zero =>
      have := pattern.depth_pos
      omega
  | succ steps induction =>
      obtain ⟨others, rfl⟩ : ∃ less, others = less + 1 := by
        have := pattern.depth_pos
        exact ⟨others - 1, by omega⟩
      cases pattern with
      | text letters => rfl
      | one set => rfl
      | finish => rfl
      | seq first second =>
          obtain ⟨first_bounded, second_bounded⟩ := Pattern.isBounded_of_seq bounded
          have first_depth := Pattern.depth_lt_seq first second
          have first_eq : readIn steps inToken first place = readIn others inToken first place :=
            induction first_bounded (by omega) (by omega)
          rw [readIn, readIn, ← first_eq]
          refine Option.bind_congr fun outcome once => ?_
          have second_less := steps_after_first second_bounded once
          have second_eq : readIn steps inToken second (outcome.1.skipUnless inToken) =
              readIn others inToken second (outcome.1.skipUnless inToken) :=
            induction second_bounded (by omega) (by omega)
          simp only [second_eq]
      | alt first second =>
          obtain ⟨first_bounded, second_bounded⟩ := Pattern.isBounded_of_alt bounded
          rw [Pattern.depth] at enough others_enough
          have first_eq : readIn steps inToken first place = readIn others inToken first place :=
            induction first_bounded (by omega) (by omega)
          have second_eq : readIn steps inToken second place = readIn others inToken second place :=
            induction second_bounded (by omega) (by omega)
          rw [readIn, readIn, first_eq, second_eq]
      | optional pattern | absent pattern | ahead pattern =>
          rw [Pattern.depth] at enough others_enough
          have inner_eq :
              readIn steps inToken pattern place = readIn others inToken pattern place :=
            induction (Pattern.isBounded_of_optional bounded) (by omega) (by omega)
          rw [readIn, readIn, inner_eq]
      | many pattern =>
          have more_bounded : pattern.more.isBounded = true := bounded
          rw [Pattern.depth] at enough others_enough
          have once_eq :
              readIn steps inToken pattern place = readIn others inToken pattern place :=
            induction (Pattern.isBounded_of_many bounded).1 (by omega) (by omega)
          rw [readIn, readIn, ← once_eq]
          cases once : readIn steps inToken pattern place with
          | none => rfl
          | some reading =>
              have later_less := steps_after_repeated bounded once
              have later_eq : readIn steps inToken pattern.more reading.1 =
                  readIn others inToken pattern.more reading.1 :=
                induction more_bounded (by omega) (by omega)
              simp only [later_eq]
      | more pattern =>
          rw [Pattern.depth] at enough others_enough
          obtain ⟨blank, blank_leads⟩ := place.skipUnless_leads inToken
          have skipped_length := blank_leads.length_eq
          have once_eq : readIn steps inToken pattern (place.skipUnless inToken) =
              readIn others inToken pattern (place.skipUnless inToken) :=
            induction (Pattern.isBounded_of_many bounded).1 (by omega) (by omega)
          rw [readIn, readIn, ← once_eq]
          cases once : readIn steps inToken pattern (place.skipUnless inToken) with
          | none => rfl
          | some reading =>
              have later_less := steps_after_repeated bounded once
              have later_eq : readIn steps inToken pattern.more reading.1 =
                  readIn others inToken pattern.more reading.1 :=
                induction bounded (by omega) (by omega)
              simp only [later_eq]
      | rule name =>
          obtain ⟨pattern_bounded, deeper, -⟩ := Rule.pattern_isBounded name
          rw [Pattern.depth] at enough others_enough
          have inner_eq (token : Bool) :
              readIn steps token name.pattern place = readIn others token name.pattern place :=
            induction pattern_bounded (by omega) (by omega)
          rw [readIn, readIn, inner_eq, inner_eq]

end Css
end LintBus

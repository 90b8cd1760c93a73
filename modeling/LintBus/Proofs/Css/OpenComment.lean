import LintBus.Proofs.Css.Balance
import LintBus.Proofs.Css.Warnings

/-!
# Comments that are never closed

What opens a comment that is never closed is no comment to the grammar.  Its slash and its star are
then delimiters, which stand in selectors, preludes and values only: there the stylesheet may be
accepted, everywhere else it is refused.
-/

namespace LintBus
namespace Css

open Pattern

private theorem afterComment?_eq_none {text : List Char} :
    afterComment? text = none ↔ ¬ ['*', '/'] <:+: text := by
  induction text with
  | nil => simp [afterComment?]
  | cons character rest induction =>
      rw [afterComment?_cons, List.infix_cons_iff]
      split
      · next closes =>
          obtain ⟨rfl, slash⟩ := closes
          obtain ⟨rest, rfl⟩ := List.head?_eq_some_iff.mp slash
          simp
      · next not_close =>
          have not_prefix : ¬ ['*', '/'] <+: character :: rest := by
            rintro ⟨others, eq⟩
            obtain ⟨rfl, rfl⟩ := List.cons.inj eq
            exact not_close ⟨rfl, rfl⟩
          rw [induction]
          tauto

/-- A comment that is never closed is opened at the offset, if the text begins at the start. -/
def OpensComment (text : List Char) (start offset : Nat) : Prop :=
  ∃ before tail, text = before ++ '/' :: '*' :: tail ∧ offset = start + before.length ∧
    ¬ ['*', '/'] <:+: tail

private theorem OpensComment.prepend {text : List Char} {start offset : Nat} (front : List Char)
    (opens : OpensComment text (start + front.length) offset) :
    OpensComment (front ++ text) start offset := by
  obtain ⟨before, tail, rfl, offset_eq, unclosed⟩ := opens
  refine ⟨front ++ before, tail, (List.append_assoc front before _).symm, ?_, unclosed⟩
  rw [List.length_append, offset_eq, Nat.add_assoc]

private theorem OpensComment.skip {text : List Char} {start offset : Nat} (front : List Char)
    (opens : OpensComment text (start + ((front ++ text).length - text.length)) offset) :
    OpensComment (front ++ text) start offset := by
  rw [List.length_append, Nat.add_sub_cancel_right] at opens
  exact opens.prepend front

private theorem afterQuote?_suffix {one_line : Bool} {quote : Char} {text rest : List Char}
    (closed : afterQuote? one_line quote text = some rest) : rest <:+ text := by
  fun_induction afterQuote? one_line quote text with
  | case1 escaped text induction => exact (induction closed).trans ⟨['\\', escaped], rfl⟩
  | case2 text => exact Option.some.inj closed ▸ List.suffix_cons _ _
  | case3 => simp at closed
  | case4 character text _ _ _ induction => exact (induction closed).trans (List.suffix_cons _ _)
  | case5 => simp at closed

/-- Where the opening of a comment is noted, the comment is never closed, and its star is noted as
well. -/
theorem sightings_of_openComment {one_line : Bool} {text : List Char} {start offset : Nat}
    (met : (offset, .openComment) ∈ sightings one_line text start) :
    OpensComment text start offset ∧ (offset + 1, .letter '*') ∈ sightings one_line text start := by
  fun_induction sightings one_line text start with
  | case1 => simp at met
  | case2 start escaped rest induction =>
      obtain ⟨opens, star⟩ := induction met
      exact ⟨.prepend ['\\', escaped] opens, star⟩
  | case3 start rest after closed induction =>
      obtain ⟨opens, star⟩ := induction met
      obtain ⟨taken, rfl, -⟩ := afterComment?_taken closed
      exact ⟨.skip ('/' :: '*' :: taken) opens, star⟩
  | case4 start rest unclosed induction =>
      have star_eq : sightings one_line ('*' :: rest) (start + 1) =
          (start + 1, .letter '*') :: sightings one_line rest (start + 2) :=
        sightings_letter (by decide) (by decide) (by decide) (by simp)
      rcases List.mem_cons.mp met with met | met
      · obtain rfl : offset = start := (Prod.mk.inj met).1
        refine ⟨⟨[], rest, rfl, rfl, afterComment?_eq_none.mp unclosed⟩, ?_⟩
        simp [star_eq]
      · obtain ⟨opens, star⟩ := induction met
        exact ⟨.prepend ['/'] opens, List.mem_cons_of_mem _ star⟩
  | case5 start character rest _ _ _ induction =>
      obtain ⟨opens, star⟩ := induction met
      exact ⟨.prepend [character] opens, star⟩
  | case6 start character rest _ _ _ _ after closed induction =>
      obtain ⟨opens, star⟩ := induction met
      obtain ⟨taken, rfl⟩ := afterQuote?_suffix closed
      exact ⟨.skip (character :: taken) opens, star⟩
  | case7 start character rest _ _ _ _ _ induction | case8 start character rest _ _ _ _ induction =>
      obtain ⟨opens, star⟩ := induction (by simpa using met)
      exact ⟨.prepend [character] opens, List.mem_cons_of_mem _ star⟩

/-- The rule reads a run of tokens and groups. -/
def Rule.isRun : Rule → Bool
  | .selector | .prelude | .value => true
  | _ => false

/-- Delimiters in the pattern stand in runs: it names neither them nor the groups that hold them. -/
def Pattern.isSheltered : Pattern → Bool
  | .text _ | .one _ | .finish => true
  | .seq first second | .alt first second => first.isSheltered && second.isSheltered
  | .optional pattern | .many pattern | .more pattern | .absent pattern | .ahead pattern =>
      pattern.isSheltered
  | .rule name => name ≠ .delimiter && name ≠ .parenGroup && name ≠ .bracketGroup

private theorem Rule.pattern_isSheltered {name : Rule}
    (sheltered : (Pattern.rule name).isSheltered = true)
    (not_run : name.isRun = false) : name.pattern.isSheltered = true := by
  revert sheltered not_run
  cases name <;> decide

private theorem Reads.nodes_of_token {pattern : Pattern} {place after : Place} {nodes : List Node}
    (reads : Reads true pattern place after nodes) : nodes = [] := by
  generalize token_eq : true = inToken at reads
  induction reads with
  | stay | text | one => rfl
  | seq _ _ one_nodes other_nodes => rw [one_nodes token_eq, other_nodes token_eq, List.append_nil]
  | many _ _ once_nodes later_nodes | more _ _ once_nodes later_nodes =>
      rw [once_nodes token_eq, later_nodes token_eq, List.append_nil]
  | left _ nodes | right _ nodes | optional _ nodes => exact nodes token_eq
  | silent _ nodes => exact nodes rfl
  | node => simp at token_eq

/-- Each delimiter among the nodes of a sheltered pattern stands in a run. -/
theorem Reads.sheltered {inToken : Bool} {pattern : Pattern} {place after : Place}
    {nodes : List Node} (reads : Reads inToken pattern place after nodes)
    (sheltered : pattern.isSheltered = true) {node : Node} (found : node ∈ Node.flattenAll nodes)
    (delimiter : node.rule = .delimiter) :
    ∃ run ∈ Node.flattenAll nodes, run.rule.isRun = true ∧ node ∈ run.flatten := by
  have both {news others : List Node}
      (cases_found : (∃ run ∈ Node.flattenAll news, run.rule.isRun = true ∧ node ∈ run.flatten) ∨
        ∃ run ∈ Node.flattenAll others, run.rule.isRun = true ∧ node ∈ run.flatten) :
      ∃ run ∈ Node.flattenAll (news ++ others), run.rule.isRun = true ∧ node ∈ run.flatten := by
    rw [Node.flattenAll_append]
    rcases cases_found with ⟨run, run_found, is_run⟩ | ⟨run, run_found, is_run⟩
    · exact ⟨run, List.mem_append_left _ run_found, is_run⟩
    · exact ⟨run, List.mem_append_right _ run_found, is_run⟩
  induction reads with
  | stay | text | one => simp [Node.flattenAll] at found
  | seq _ _ one_runs other_runs =>
      obtain ⟨one_sheltered, other_sheltered⟩ := Bool.and_eq_true_iff.mp sheltered
      rw [Node.flattenAll_append, List.mem_append] at found
      exact both (found.imp (one_runs one_sheltered) (other_runs other_sheltered))
  | left _ runs => exact runs (Bool.and_eq_true_iff.mp sheltered).1 found
  | right _ runs => exact runs (Bool.and_eq_true_iff.mp sheltered).2 found
  | optional _ runs => exact runs sheltered found
  | many _ _ once_runs later_runs | more _ _ once_runs later_runs =>
      rw [Node.flattenAll_append, List.mem_append] at found
      exact both (found.imp (once_runs sheltered) (later_runs sheltered))
  | silent inner _ => simp [inner.nodes_of_token, Node.flattenAll] at found
  | @node name place after nodes inner runs =>
      have flatten_eq : Node.flattenAll [.node name place.offset after.offset nodes] =
          .node name place.offset after.offset nodes :: Node.flattenAll nodes := by
        simp [Node.flattenAll, Node.flatten]
      rw [flatten_eq] at found ⊢
      by_cases is_run : name.isRun = true
      · exact ⟨_, List.mem_cons_self, is_run, found⟩
      · rcases List.mem_cons.mp found with rfl | found
        · rw [Node.rule] at delimiter
          simp [delimiter, Pattern.isSheltered] at sheltered
        · obtain ⟨run, run_found, rest⟩ :=
            runs (Rule.pattern_isSheltered sheltered (by simpa using is_run)) found
          exact ⟨run, List.mem_cons_of_mem _ run_found, rest⟩

/-- The character at the offset is read as a delimiter, in a selector, a prelude or a value. -/
def Node.HoldsDelimiter (tree : Node) (offset : Nat) : Prop :=
  ∃ run, run.Within tree ∧ run.rule.isRun = true ∧
    (Node.node .delimiter offset (offset + 1) []).Within run

private theorem holdsDelimiter_of_parse {text : List Char} {tree : Node}
    (parsed : parse text = .ok tree)
    {offset : Nat} (found : .node .delimiter offset (offset + 1) [] ∈ Node.flattenAll [tree]) :
    tree.HoldsDelimiter offset := by
  obtain ⟨after, reading⟩ := parse_eq_ok.mp parsed
  obtain ⟨run, run_found, is_run, within⟩ :=
    (reads_of_readIn reading).sheltered (by decide) found rfl
  have in_tree : run ∈ tree.flatten := by simpa [Node.flattenAll] using run_found
  exact ⟨run, Node.mem_flatten_iff.mp in_tree, is_run, Node.mem_flatten_iff.mp within⟩

/-- A comment that is opened and never closed is reported, unless its slash and its star are read
as delimiters in a selector, a prelude or a value. -/
theorem lint_open_comment {source : String} {one_line : Bool} {offset : Nat}
    (met : (offset, .openComment) ∈ sightings one_line source.toList 0) :
    OpensComment source.toList 0 offset ∧
      ((∃ problem, lint source = .error problem) ∨
        ∃ tree diagnostics, parse source.toList = .ok tree ∧ lint source = .ok diagnostics ∧
          tree.HoldsDelimiter offset ∧ tree.HoldsDelimiter (offset + 1)) := by
  obtain ⟨opens, star⟩ := sightings_of_openComment met
  refine ⟨opens, ?_⟩
  cases parsed : parse source.toList with
  | error attempts =>
      refine .inl ⟨attempts.toProblem source.toList, ?_⟩
      simp only [lint, parsed]
  | ok tree =>
      have accounts : Effect.nothing.Accounts [tree] (sightings one_line source.toList 0) :=
        accounts_of_parse parsed
      have slash_held := holdsDelimiter_of_parse parsed (accounts.delimited offset (.inl met))
      have star_held := holdsDelimiter_of_parse parsed (accounts.delimited _ (.inr star))
      refine .inr ⟨tree, (tree.flatten.filter Node.isEmptyRuleset).map
        (emptyWarning source.toList), rfl, ?_, slash_held, star_held⟩
      simp only [lint, parsed]

theorem lint_open_comment_value :
    (5, .openComment) ∈ sightings true "a\x7bb:c/*\x7d".toList 0 ∧
      ∃ tree, parse "a\x7bb:c/*\x7d".toList = .ok tree ∧
        tree.HoldsDelimiter 5 ∧ tree.HoldsDelimiter 6 := by
  have met : (5, .openComment) ∈ sightings true "a\x7bb:c/*\x7d".toList 0 := by
    decide +kernel
  refine ⟨met, ?_⟩
  obtain ⟨-, ⟨problem, refused⟩ | ⟨tree, -, parsed, -, slash_held, star_held⟩⟩ :=
    lint_open_comment met
  · have accepted : (lint "a\x7bb:c/*\x7d").toOption.isSome = true := by decide +kernel
    simp [refused, Except.toOption] at accepted
  · exact ⟨tree, parsed, slash_held, star_held⟩

/-- A stylesheet with a comment that is never closed is accepted. -/
theorem open_comment_accepted :
    OpensComment "a/*\x7b\x7d".toList 0 1 ∧
      (1, .openComment) ∈ sightings true "a/*\x7b\x7d".toList 0 ∧
      ∃ diagnostics, lint "a/*\x7b\x7d" = .ok diagnostics := by
  have met : (1, .openComment) ∈ sightings true "a/*\x7b\x7d".toList 0 := by decide +kernel
  refine ⟨(sightings_of_openComment met).1, met, ?_⟩
  have accepted : (lint "a/*\x7b\x7d").toOption.isSome = true := by decide +kernel
  cases linted : lint "a/*\x7b\x7d" with
  | error problem => simp [linted, Except.toOption] at accepted
  | ok diagnostics => exact ⟨diagnostics, rfl⟩

end Css
end LintBus

import LintBus.Proofs.Css.Strike
import LintBus.Proofs.Text.Position
import Mathlib.Logic.Function.Iterate

/-!
# Applying the suggestions of the linter

The suggestions about a stylesheet delete its empty rulesets.  All of them together leave a
stylesheet, with fewer characters if there was one.  So applying them again and again ends in a
stylesheet without warnings: a ruleset may become empty when the last one inside it is deleted.
-/

namespace LintBus

/-- The location lies in the range. -/
def Range.covers (range : Range) (location : Location) : Bool :=
  !location.Before range.start && location.Before range.stop

namespace Css

open Pattern

/-- A text without the characters whose locations lie in some ranges. -/
def withoutRanges (source : String) (ranges : List Range) : String :=
  let text := source.toList
  .ofList (keep (fun offset => ranges.any (·.covers (.ofOffset text offset))) 0 text)

/-- The ranges that some diagnostics suggest to replace. -/
def fixitRanges (diagnostics : List Diagnostic) : List Range :=
  diagnostics.flatMap fun diagnostic => diagnostic.fixits.map Fixit.range

/-- A stylesheet without what its warnings suggest to delete; any other text as it is. -/
def prune (source : String) : String :=
  match lint source with
  | .error _ => source
  | .ok diagnostics => withoutRanges source (fixitRanges diagnostics)

private theorem length_keep_lt {gone : Nat → Bool} {offset other : Nat} {text : List Char}
    (is_gone : gone other = true) (from_offset : offset ≤ other)
    (within : other < offset + text.length) : (keep gone offset text).length < text.length := by
  induction text generalizing offset with
  | nil =>
      rw [List.length_nil] at within
      omega
  | cons character text induction =>
      rw [List.length_cons] at within ⊢
      rw [keep]
      have le := length_keep_le gone (offset + 1) text
      by_cases first : other = offset
      · rw [if_pos (first ▸ is_gone)]
        omega
      · have lt : (keep gone (offset + 1) text).length < text.length :=
          induction (by omega) (by omega)
        split
        · omega
        · rw [List.length_cons]
          omega

private theorem parse_of_past {text : List Char}
    (passed : past (statement false).many (skipBlank text) = some []) :
    ∃ tree, parse text = .ok tree := by
  have pattern_eq : Rule.stylesheet.pattern =
      .seq (.text []) (.seq (.many (statement false)) (.rule .endOfInput)) := rfl
  have scanned : scan false (.rule .stylesheet) text = some [] := by
    rw [scan_rule, pattern_eq]
    change scan false _ _ = _
    have nothing : past (.text []) text = some (skipBlank text) := by
      rw [past, scan_text]
      rfl
    rw [scan_seq_past (by decide), nothing, Option.bind_some, scan_seq_past (by decide), passed,
      Option.bind_some, scan_rule]
    rfl
  obtain ⟨⟨after, nodes⟩, reading, -⟩ := Option.map_eq_some_iff.mp scanned
  obtain ⟨inner, -, rfl⟩ := read_rule_eq_some.mp reading
  exact ⟨_, parse_eq_ok.mpr ⟨after, reading⟩⟩

private theorem parse_keep {text : List Char} {nodes : List Node} {gone : Nat → Bool}
    (outline : Outline (.row false) (Place.skip ⟨text, 0⟩) ⟨[], text.length⟩ nodes)
    (agrees : ∀ offset, offset < text.length → gone offset = covered nodes offset) :
    ∃ tree, parse (keep gone 0 text) = .ok tree := by
  have at_end : Fits gone ⟨[], text.length⟩ := ⟨fun _ => rfl, by simp⟩
  have within := outline.offset_le
  obtain ⟨fits, resumes⟩ := outline.resumes (by rw [Place.skip_rest, skipBlank_skipBlank])
    (fun offset _ lt => agrees offset lt) at_end
  obtain ⟨-, skip_eq⟩ := fits.of_skip fun offset _ lt => by
    rw [agrees offset (Nat.lt_of_lt_of_le lt within), outline.not_covered (.inl lt)]
  have nothing_left : past (statement false).many [] = some [] := by
    rw [past_many (by decide), past, scan_nil _ (by decide), Option.map_none, skipBlank_nil]
  refine parse_of_past ?_
  have kept_eq : Place.kept gone ⟨text, 0⟩ = keep gone 0 text := rfl
  rw [← kept_eq, skip_eq]
  exact resumes.trans (by rw [Place.kept, keep, skipBlank_nil, nothing_left])

private theorem outline_of_lint {source : String} {diagnostics : List Diagnostic}
    (linted : lint source = .ok diagnostics) :
    ∃ nodes, diagnostics = (reported nodes).map (emptyWarning source.toList) ∧
      Outline (.row false) (Place.skip ⟨source.toList, 0⟩) ⟨[], source.toList.length⟩ nodes := by
  rw [lint] at linted
  cases parsed : parse source.toList with
  | error attempts => simp [parsed] at linted
  | ok tree =>
      rw [parsed] at linted
      obtain ⟨nodes, -, reported_eq, outline⟩ := reported_of_parse parsed
      exact ⟨nodes, by rw [← reported_eq]; exact (Except.ok.inj linted).symm, outline⟩

private theorem lint_of_parse {source : String} {tree : Node}
    (parsed : parse source.toList = .ok tree) :
    ∃ diagnostics, lint source = .ok diagnostics := by
  rw [lint, parsed]
  exact ⟨_, rfl⟩

private theorem fixitRanges_warnings (text : List Char) (nodes : List Node) :
    fixitRanges (nodes.map (emptyWarning text)) = nodes.map (Node.range text) := by
  induction nodes with
  | nil => rfl
  | cons first nodes induction =>
      rw [fixitRanges, List.map_cons, List.flatMap_cons, ← fixitRanges, induction]
      rfl

private theorem covers_range {text : List Char} (counted : text.length < 9223372036854775807)
    {node : Node}
    {offset : Nat} (starts : node.start ≤ text.length) (stops : node.stop ≤ text.length)
    (within : offset ≤ text.length) :
    (node.range text).covers (.ofOffset text offset) =
      (node.start ≤ offset && offset < node.stop) := by
  have before_start := Location.before_ofOffset_iff counted within starts
  have before_stop := Location.before_ofOffset_iff counted within stops
  simp only [Range.covers, Node.range, before_start, before_stop, ← decide_not, Nat.not_lt]

private theorem covers_fixits {text : List Char} (counted : text.length < 9223372036854775807)
    {nodes : List Node} {place : Place}
    (outline : Outline (.row false) place ⟨[], text.length⟩ nodes) {offset : Nat}
    (within : offset < text.length) :
    (fixitRanges ((reported nodes).map (emptyWarning text))).any
        (·.covers (.ofOffset text offset)) = covered nodes offset := by
  rw [fixitRanges_warnings, List.any_map, covered]
  rw [Bool.eq_iff_iff, List.any_eq_true, List.any_eq_true]
  refine exists_congr fun node => and_congr_right fun found => ?_
  obtain ⟨-, nonempty, stops⟩ := outline.reported_spans.1 node found
  simp only at stops
  rw [Function.comp_apply, covers_range counted (by omega) stops (Nat.le_of_lt within)]

private theorem lint_withoutRanges {source : String} {diagnostics : List Diagnostic}
    (counted : source.length < 9223372036854775807) (linted : lint source = .ok diagnostics) :
    ∃ others, lint (withoutRanges source (fixitRanges diagnostics)) = .ok others := by
  rw [← String.length_toList] at counted
  obtain ⟨nodes, rfl, outline⟩ := outline_of_lint linted
  obtain ⟨tree, parsed⟩ := parse_keep outline fun offset within =>
    covers_fixits counted outline within
  exact lint_of_parse (by rwa [withoutRanges, String.toList_ofList])

private theorem fixitRange_nonempty {source : String} {diagnostics : List Diagnostic}
    (counted : source.length < 9223372036854775807) (linted : lint source = .ok diagnostics)
    {range : Range} (found : range ∈ fixitRanges diagnostics) :
    range.start.Before range.stop ∧
      ∃ offset < source.length, range.covers (.ofOffset source.toList offset) = true := by
  rw [← String.length_toList] at counted ⊢
  obtain ⟨nodes, rfl, outline⟩ := outline_of_lint linted
  rw [fixitRanges_warnings] at found
  obtain ⟨node, reported_found, rfl⟩ := List.mem_map.mp found
  obtain ⟨-, nonempty, stops⟩ := outline.reported_spans.1 node reported_found
  simp only at stops
  refine ⟨(Location.before_ofOffset_iff counted (by omega) stops).mpr nonempty, node.start,
    by omega, ?_⟩
  rw [covers_range counted (by omega) stops (by omega)]
  simp [nonempty]

private theorem length_withoutRanges_lt {source : String} {ranges : List Range} {range : Range}
    (found : range ∈ ranges) {offset : Nat} (within : offset < source.length)
    (covers : range.covers (.ofOffset source.toList offset) = true) :
    (withoutRanges source ranges).length < source.length := by
  rw [withoutRanges, String.length_ofList, ← String.length_toList]
  rw [← String.length_toList] at within
  have is_gone : ranges.any (·.covers (.ofOffset source.toList offset)) = true :=
    List.any_eq_true.mpr ⟨range, found, covers⟩
  exact length_keep_lt is_gone (Nat.zero_le _) (by omega)

private theorem prune_eq {source : String} {diagnostics : List Diagnostic}
    (linted : lint source = .ok diagnostics) :
    prune source = withoutRanges source (fixitRanges diagnostics) := by
  rw [prune, linted]

private theorem exists_rounds {source : String} {diagnostics : List Diagnostic}
    (counted : source.length < 9223372036854775807) (linted : lint source = .ok diagnostics) :
    ∃ rounds, lint (prune^[rounds] source) = .ok [] := by
  induction length_eq : source.length using Nat.strongRecOn generalizing source diagnostics with
  | ind length induction =>
      cases ranges : fixitRanges diagnostics with
      | nil =>
          obtain ⟨nodes, rfl, -⟩ := outline_of_lint linted
          rw [fixitRanges_warnings, List.map_eq_nil_iff] at ranges
          exact ⟨0, by simpa [ranges] using linted⟩
      | cons range others =>
          have found : range ∈ fixitRanges diagnostics := by simp [ranges]
          obtain ⟨-, offset, within, covers⟩ := fixitRange_nonempty counted linted found
          have shorter := length_withoutRanges_lt found within covers
          rw [← prune_eq linted] at shorter
          obtain ⟨later, linted_later⟩ := lint_withoutRanges counted linted
          rw [← prune_eq linted] at linted_later
          obtain ⟨rounds, clean⟩ :=
            induction _ (length_eq ▸ shorter) (by omega) linted_later rfl
          exact ⟨rounds + 1, by rwa [Function.iterate_succ_apply]⟩

/-- The suggestions of the linter are safe to apply.  Without the ranges that it suggests to delete,
a stylesheet is a stylesheet; each of the ranges ends after it starts and holds a character; and
applying all suggestions again and again ends in a stylesheet without warnings.  Lines and columns
are numbers of 64 bits with a sign, so the text may have any length for which these do not
overflow. -/
theorem lint_fixits_safe {source : String} {diagnostics : List Diagnostic}
    (counted : source.length < 9223372036854775807) (linted : lint source = .ok diagnostics) :
    (∃ others, lint (withoutRanges source (fixitRanges diagnostics)) = .ok others) ∧
      (∀ range ∈ fixitRanges diagnostics, range.start.Before range.stop ∧
        ∃ offset < source.length, range.covers (.ofOffset source.toList offset) = true) ∧
      ∃ rounds, lint (prune^[rounds] source) = .ok [] :=
  ⟨lint_withoutRanges counted linted, fun _ => fixitRange_nonempty counted linted,
    exists_rounds counted linted⟩

/-- Without the rulesets that hold a comment and a semicolon, the outer one is empty as well. -/
theorem lint_fixits_safe_nested :
    ∃ diagnostics, lint "a\x7bb\x7b/**/\x7d\x7d\nc\x7b;\x7d" = .ok diagnostics ∧
      (withoutRanges "a\x7bb\x7b/**/\x7d\x7d\nc\x7b;\x7d" (fixitRanges diagnostics)).toList =
        "a\x7b\x7d\n".toList ∧
      (∃ others, lint (withoutRanges "a\x7bb\x7b/**/\x7d\x7d\nc\x7b;\x7d"
        (fixitRanges diagnostics)) = .ok others) ∧
      ∃ rounds, lint (prune^[rounds] "a\x7bb\x7b/**/\x7d\x7d\nc\x7b;\x7d") = .ok [] := by
  have pruned :
      (lint "a\x7bb\x7b/**/\x7d\x7d\nc\x7b;\x7d").toOption.map (fun diagnostics =>
        (withoutRanges "a\x7bb\x7b/**/\x7d\x7d\nc\x7b;\x7d"
          (fixitRanges diagnostics)).toList) = some "a\x7b\x7d\n".toList := by
    decide +kernel
  cases linted : lint "a\x7bb\x7b/**/\x7d\x7d\nc\x7b;\x7d" with
  | error problem => simp [linted, Except.toOption] at pruned
  | ok diagnostics =>
      obtain ⟨accepted, -, rounds⟩ := lint_fixits_safe (by decide) linted
      rw [linted] at pruned
      exact ⟨diagnostics, rfl, Option.some.inj pruned, accepted, rounds⟩

end Css
end LintBus

import LintBus.Proofs.Css.Outline
import LintBus.Proofs.Text.Position

/-!
# Warnings about empty rulesets

A stylesheet has exactly one warning for each ruleset of its parse tree, at any depth, between whose
braces stand only blanks, comments and semicolons.  The warnings come in the order of the text and
their ranges do not overlap: a ruleset that is warned about holds no other one.
-/

namespace LintBus
namespace Css

open Pattern

/-- The node is the root of a tree or stands below it. -/
inductive Node.Within (node : Node) : Node → Prop
  | root : Within node node
  | under {tree child : Node} (found : child ∈ tree.children) (within : Within node child) :
      Within node tree

namespace Node

variable {node : Node}

mutual

private theorem within_of_mem_flatten : ∀ tree : Node, node ∈ flatten tree → node.Within tree
  | .node rule start stop children, found => by
      rw [flatten, List.mem_cons] at found
      rcases found with rfl | found
      · exact .root
      · obtain ⟨child, child_found, within⟩ := within_of_mem_flattenAll children found
        exact .under child_found within

private theorem within_of_mem_flattenAll :
    ∀ trees : List Node, node ∈ flattenAll trees → ∃ tree ∈ trees, node.Within tree
  | [], found => by simp [flattenAll] at found
  | tree :: trees, found => by
      rw [flattenAll, List.mem_append] at found
      rcases found with found | found
      · exact ⟨tree, List.mem_cons_self, within_of_mem_flatten tree found⟩
      · obtain ⟨other, other_found, within⟩ := within_of_mem_flattenAll trees found
        exact ⟨other, List.mem_cons_of_mem _ other_found, within⟩

end

private theorem mem_flattenAll {trees : List Node} {tree : Node} (tree_found : tree ∈ trees)
    (found : node ∈ flatten tree) : node ∈ flattenAll trees := by
  induction trees with
  | nil => simp at tree_found
  | cons first trees induction =>
      rw [flattenAll, List.mem_append]
      rcases List.mem_cons.mp tree_found with rfl | tree_found
      · exact .inl found
      · exact .inr (induction tree_found)

/-- A tree lists the nodes that stand below it. -/
theorem mem_flatten_iff {tree : Node} : node ∈ tree.flatten ↔ node.Within tree := by
  refine ⟨within_of_mem_flatten tree, fun within => ?_⟩
  induction within with
  | root =>
      cases node with
      | node rule start stop children => exact List.mem_cons_self
  | @under tree child found _ induction =>
      cases tree with
      | node rule start stop children =>
          exact List.mem_cons_of_mem _ (mem_flattenAll found induction)

end Node

/-- The place is one of the text. -/
def Place.On (text : List Char) (place : Place) : Prop := text.drop place.offset = place.rest

theorem Place.Leads.on {text taken : List Char} {place after : Place}
    (leads : place.Leads after taken) (on : place.On text) : after.On text := by
  rw [Place.On, leads.2, ← List.drop_drop, on, leads.1, List.drop_left]

private theorem Place.Leads.extract_eq {text taken : List Char} {place after : Place}
    (leads : place.Leads after taken) (on : place.On text) :
    text.extract place.offset after.offset = taken := by
  rw [List.extract, on, leads.1, leads.2, Nat.add_sub_cancel_left, List.take_left]

/-- A ruleset of a parse tree: it stands at a place of the text, with the outline of its block. -/
def RulesetAt (text : List Char) (node : Node) : Prop :=
  ∃ place between after heads nodes,
    node = .node .ruleset place.offset after.offset (heads ++ nodes) ∧ place.On text ∧
      read false (.rule .selector) place = some (between, heads) ∧
      Outline .block between.skip after nodes

private theorem Outline.rulesetAt {level : Level} {place after : Place} {nodes : List Node}
    {text : List Char} (outline : Outline level place after nodes) (on : place.On text)
    {node : Node} (found : node ∈ Node.flattenAll nodes) (ruleset : node.rule = .ruleset) :
    RulesetAt text node := by
  have on_skip {between : Place} (on : between.On text) : between.skip.On text := by
    obtain ⟨blank, leads⟩ := between.skip_leads
    exact leads.on on
  have on_head {pattern : Pattern} {place between : Place} {heads : List Node} (on : place.On text)
      (head : read false pattern place = some (between, heads)) : between.skip.On text := by
    obtain ⟨taken, leads, -⟩ := readIn_leads head
    exact on_skip (leads.on on)
  have mem_node {rule : Rule} {start stop : Nat} {children : List Node}
      (found : node ∈ Node.flattenAll [.node rule start stop children]) :
      node = .node rule start stop children ∨ node ∈ Node.flattenAll children := by
    simpa [Node.flattenAll, Node.flatten] using found
  induction outline with
  | stop nested place => simp [Node.flattenAll] at found
  | @next _ place between after _ _ part row part_at row_at =>
      obtain ⟨taken, leads⟩ := part.leads
      rw [Node.flattenAll_append, List.mem_append] at found
      rcases found with found | found
      · exact part_at on found
      · exact row_at (on_skip (leads.on on)) found
  | semicolon => simp [Node.flattenAll] at found
  | declaration reading =>
      exact absurd ruleset (ne_ruleset_of_inline (by decide) reading found)
  | atStatement head semicolon =>
      rcases mem_node found with rfl | found
      · simp [Node.rule] at ruleset
      · exact absurd ruleset (ne_ruleset_of_inline (by decide) head found)
  | @atBlock _ place between after heads nodes head block block_at =>
      rcases mem_node found with rfl | found
      · simp [Node.rule] at ruleset
      rw [Node.flattenAll_append, List.mem_append] at found
      rcases found with found | found
      · exact absurd ruleset (ne_ruleset_of_inline (by decide) head found)
      · exact block_at (on_head on head) found
  | @ruleset _ place between after heads nodes head block block_at =>
      rcases mem_node found with rfl | found
      · exact ⟨place, between, after, heads, nodes, rfl, on, head, block⟩
      rw [Node.flattenAll_append, List.mem_append] at found
      rcases found with found | found
      · exact absurd ruleset (ne_ruleset_of_inline (by decide) head found)
      · exact block_at (on_head on head) found
  | @block rest rest' offset after _ row closes row_at =>
      rcases mem_node found with rfl | found
      · simp [Node.rule] at ruleset
      · have opening : Place.Leads ⟨'\x7b' :: rest, offset⟩ ⟨rest, offset + 1⟩ ['\x7b'] :=
          ⟨rfl, rfl⟩
        exact row_at (on_skip (opening.on on)) found

private theorem Outline.rule_of_mem {level : Level} {place after : Place} {nodes : List Node}
    (outline : Outline level place after nodes) (not_block : level ≠ .block) :
    ∀ node ∈ nodes, node.rule = .declaration ∨ node.rule = .atRule ∨ node.rule = .ruleset := by
  induction outline with
  | stop nested place => simp
  | next part row part_rules row_rules =>
      intro node found
      rcases List.mem_append.mp found with found | found
      · exact part_rules (by simp) node found
      · exact row_rules (by simp) node found
  | semicolon => simp
  | declaration reading =>
      obtain ⟨inner, -, rfl⟩ := read_rule_eq_some.mp reading
      simp [Node.rule]
  | atStatement head semicolon => simp [Node.rule]
  | atBlock head block _ => simp [Node.rule]
  | ruleset head block _ => simp [Node.rule]
  | block row closes _ => exact absurd rfl not_block

private theorem Outline.filler_of_nil {level : Level} {place after : Place} {nodes : List Node}
    (outline : Outline level place after nodes) (nothing : nodes = []) :
    ∃ taken, place.Leads after taken ∧ Filler true taken := by
  induction outline with
  | stop nested place => exact ⟨[], .refl place, .nil⟩
  | @next _ place between after _ _ part row part_filler row_filler =>
      obtain ⟨part_nothing, row_nothing⟩ := List.append_eq_nil_iff.mp nothing
      obtain ⟨part_taken, part_leads, part_filled⟩ := part_filler part_nothing
      obtain ⟨row_taken, row_leads, row_filled⟩ := row_filler row_nothing
      obtain ⟨blank, blank_leads, blank_filled⟩ := between.skip_filler
      exact ⟨_, (part_leads.trans blank_leads).trans row_leads,
        (part_filled.append blank_filled.withSemicolons).append row_filled⟩
  | semicolon => exact ⟨[';'], ⟨rfl, rfl⟩, .semicolon rfl .nil⟩
  | declaration reading =>
      obtain ⟨inner, -, rfl⟩ := read_rule_eq_some.mp reading
      simp at nothing
  | atStatement | atBlock | ruleset | block => simp at nothing

/-- A part of a row is not empty. -/
theorem Outline.offset_lt {nested : Bool} {place after : Place} {nodes : List Node}
    (outline : Outline (.part nested) place after nodes) : place.offset < after.offset := by
  have read_lt {pattern : Pattern} {after : Place} {nodes : List Node}
      (consumes : pattern.consumes = true)
      (reading : read false pattern place = some (after, nodes)) : place.offset < after.offset := by
    obtain ⟨taken, leads, some_taken⟩ := readIn_leads reading
    have := leads.2
    have := List.length_pos_iff.mpr (some_taken consumes)
    omega
  cases outline with
  | semicolon => exact Nat.lt_succ_self _
  | declaration reading => exact read_lt (by decide) reading
  | @atStatement _ _ between _ _ head semicolon =>
      have := read_lt (by decide) head
      have := between.offset_le_skip
      simp only
      omega
  | @atBlock _ _ between _ _ _ head block | @ruleset _ _ between _ _ _ head block =>
      have := read_lt (by decide) head
      have := between.offset_le_skip
      have := block.offset_le
      omega

private theorem Outline.semicolon_cases {nested : Bool} {place after : Place} {nodes : List Node}
    {rest : List Char} (outline : Outline (.part nested) place after nodes)
    (head : place.rest = ';' :: rest) : nodes = [] ∧ place.Leads after [';'] := by
  have missed {pattern : Pattern} {after : Place} {nodes : List Node}
      (consumes : pattern.consumes = true) (differs : begins 30 pattern ';' = false)
      (reading : read false pattern place = some (after, nodes)) : False := by
    have scanned := scan_eq_some reading
    rw [head, scan_fails pattern consumes differs] at scanned
    simp at scanned
  cases outline with
  | semicolon => exact ⟨rfl, rfl, rfl⟩
  | declaration reading => exact (missed (by decide) (by decide) reading).elim
  | atStatement reading semicolon => exact (missed (by decide) (by decide) reading).elim
  | atBlock reading block => exact (missed (by decide) (by decide) reading).elim
  | ruleset reading block => exact (missed (by decide) (by decide) reading).elim

private theorem Filler.after_blank {character : Char} {rest : List Char}
    (filled : Filler true (character :: rest)) (is_blank : isBlank character = true) :
    Filler true rest := by
  cases filled with
  | blank _ filler => exact filler
  | comment closed filler => simp [isBlank] at is_blank
  | semicolon allowed filler => simp [isBlank] at is_blank

private theorem Filler.after_comment {text rest : List Char}
    (filled : Filler true ('/' :: '*' :: text))
    (closed : afterComment? text = some rest) : Filler true rest := by
  cases filled with
  | blank is_blank _ => simp [isBlank] at is_blank
  | @comment body other body_closed filler =>
      rw [afterComment?_append body_closed] at closed
      obtain rfl := Option.some.inj closed
      exact filler

private theorem Filler.of_append {gap rest : List Char} (filled : Filler true (gap ++ rest))
    (gap_filled : Filler false gap) : Filler true rest := by
  induction gap_filled with
  | nil => exact filled
  | blank is_blank _ induction => exact induction (filled.after_blank is_blank)
  | @comment body gap closed _ induction =>
      rw [List.cons_append, List.cons_append, List.append_assoc] at filled
      exact induction (filled.after_comment (afterComment?_append closed _))
  | semicolon allowed _ _ => simp at allowed

private theorem Filler.semicolon_of_skipped {filler rest : List Char} (filled : Filler true filler)
    (skipped : skipBlank (filler ++ rest) = filler ++ rest) :
    filler = [] ∨ ∃ others, filler = ';' :: others ∧ Filler true others := by
  cases filled with
  | nil => exact .inl rfl
  | @blank character others is_blank _ =>
      have shorter := length_skipBlank_le (others ++ rest)
      rw [List.cons_append, skipBlank_blank is_blank] at skipped
      rw [skipped, List.length_cons] at shorter
      omega
  | @comment body others closed _ =>
      have shorter := length_skipBlank_le (others ++ rest)
      rw [List.cons_append, List.cons_append, List.append_assoc,
        skipBlank_comment (afterComment?_append closed _), List.nil_append] at skipped
      rw [skipped, List.length_cons, List.length_cons, List.length_append] at shorter
      omega
  | semicolon allowed filler => exact .inr ⟨_, rfl, filler⟩

/-- A row of blanks, comments and semicolons has no nodes. -/
theorem Outline.nil_of_filler {level : Level} {nested : Bool} {place after : Place}
    {nodes : List Node} {taken : List Char} (outline : Outline level place after nodes)
    (in_row : level = .row nested) (leads : place.Leads after taken) (filled : Filler true taken)
    (skipped : skipBlank place.rest = place.rest) : nodes = [] := by
  induction outline generalizing taken with
  | stop nested place => rfl
  | @next _ place between after _ _ part row part_nil row_nil =>
      obtain ⟨part_taken, part_leads⟩ := part.leads
      obtain ⟨blank, blank_leads, blank_filled⟩ := between.skip_filler
      obtain ⟨row_taken, row_leads⟩ := row.leads
      have taken_eq := leads.unique ((part_leads.trans blank_leads).trans row_leads)
      rw [leads.1] at skipped
      rcases filled.semicolon_of_skipped skipped with rfl | ⟨others, rfl, others_filled⟩
      · have part_lt := part.offset_lt
        obtain ⟨rfl, -⟩ : part_taken = [] ∧ _ := by simpa [and_assoc] using taken_eq.symm
        have offset_eq : between.offset = place.offset := part_leads.2
        omega
      · obtain ⟨rfl, semicolon⟩ := part.semicolon_cases leads.1
        obtain rfl := part_leads.unique semicolon
        have others_eq : others = blank ++ row_taken := by simpa using taken_eq
        rw [others_eq] at others_filled
        rw [row_nil in_row row_leads (others_filled.of_append blank_filled)
          (by rw [Place.skip_rest, skipBlank_skipBlank]), List.nil_append]
  | semicolon | declaration | atStatement | atBlock | ruleset | block => simp at in_row

/-- A ruleset of a parse tree as it stands in the text: a selector, from which it starts, and a
block, which holds declarations, at-rules and rulesets or else only a filler between its braces. -/
structure Stands (text : List Char) (node selector block : Node) (inner : List Char) : Prop where
  children : node.children = [selector, block]
  selector_rule : selector.rule = .selector
  selector_start : selector.start = node.start
  selector_stop : selector.start < selector.stop ∧ selector.stop ≤ block.start
  block_rule : block.rule = .block
  block_stop : block.stop = node.stop
  block_text : text.extract block.start block.stop = '\x7b' :: (inner ++ ['\x7d'])
  parts : ∀ part ∈ block.children,
    part.rule = .declaration ∨ part.rule = .atRule ∨ part.rule = .ruleset
  filler : block.children = [] ↔ Filler true inner

theorem RulesetAt.stands {text : List Char} {node : Node} (ruleset : RulesetAt text node) :
    ∃ selector block inner, Stands text node selector block inner := by
  obtain ⟨place, between, after, heads, nodes, rfl, on, head, outline⟩ := ruleset
  obtain ⟨pieces, rfl⟩ := selector_nodes head
  obtain ⟨head_taken, head_leads, some_head⟩ := readIn_leads head
  obtain ⟨blank, blank_leads⟩ := between.skip_leads
  obtain ⟨rest, last, parts, opens, row, closes, offset_eq, rfl⟩ := outline.block_cases
  obtain ⟨row_taken, row_leads⟩ := row.leads
  obtain ⟨gap, gap_leads, gap_filled⟩ := Place.skip_filler ⟨rest, between.skip.offset + 1⟩
  have opening : between.skip.Leads ⟨rest, between.skip.offset + 1⟩ ['\x7b'] := ⟨opens, rfl⟩
  have closing : last.Leads after ['\x7d'] := ⟨closes, offset_eq⟩
  have block_leads := ((opening.trans gap_leads).trans row_leads).trans closing
  refine ⟨_, _, gap ++ row_taken, rfl, rfl, rfl, ⟨?_, ?_⟩, rfl, rfl, ?_, ?_, ?_⟩
  · have := List.length_pos_iff.mpr (some_head (by decide))
    have := head_leads.2
    simp only [Node.start, Node.stop]
    omega
  · have := blank_leads.2
    simp only [Node.start, Node.stop]
    omega
  · have block_on := blank_leads.on (head_leads.on on)
    simpa [Node.start, Node.stop] using block_leads.extract_eq block_on
  · exact row.rule_of_mem (by simp)
  · constructor
    · intro nothing
      obtain ⟨filler, filler_leads, filled⟩ := row.filler_of_nil nothing
      rw [row_leads.unique filler_leads]
      exact gap_filled.withSemicolons.append filled
    · intro filled
      exact row.nil_of_filler rfl row_leads (filled.of_append gap_filled)
        (by rw [Place.skip_rest, skipBlank_skipBlank])

/-- No declaration, at-rule or ruleset stands directly in the block of the node. -/
def Node.HoldsNothing (node : Node) : Prop :=
  ∃ block ∈ node.children, block.rule = .block ∧ ∀ part ∈ block.children,
    part.rule ≠ .declaration ∧ part.rule ≠ .atRule ∧ part.rule ≠ .ruleset

private theorem Stands.isEmptyRuleset_iff {text inner : List Char} {node selector block : Node}
    (stands : Stands text node selector block inner) (ruleset : node.rule = .ruleset) :
    node.isEmptyRuleset = true ↔ block.children = [] := by
  simp [Node.isEmptyRuleset, ruleset, stands.children, stands.selector_rule, stands.block_rule]

private theorem Stands.holdsNothing_iff {text inner : List Char} {node selector block : Node}
    (stands : Stands text node selector block inner) :
    node.HoldsNothing ↔ block.children = [] := by
  constructor
  · rintro ⟨other, found, other_rule, nothing⟩
    rw [stands.children] at found
    simp only [List.mem_cons, List.not_mem_nil, or_false] at found
    rcases found with rfl | rfl
    · simp [stands.selector_rule] at other_rule
    · rw [List.eq_nil_iff_forall_not_mem]
      intro part part_found
      have kinds := stands.parts part part_found
      have none_of := nothing part part_found
      simp [none_of] at kinds
  · intro nothing
    exact ⟨block, by simp [stands.children], stands.block_rule, by simp [nothing]⟩

/-- All rulesets of a parse tree stand in its text. -/
theorem rulesetAt_of_parse {text : List Char} {tree node : Node} (parsed : parse text = .ok tree)
    (within : node.Within tree) (ruleset : node.rule = .ruleset) : RulesetAt text node := by
  obtain ⟨nodes, rfl, -, outline⟩ := reported_of_parse parsed
  obtain ⟨blank, blank_leads⟩ := Place.skip_leads ⟨text, 0⟩
  have found := Node.mem_flatten_iff.mpr within
  rw [Node.flatten, List.mem_cons, Node.flattenAll_append, List.mem_append] at found
  rcases found with rfl | found | found
  · simp [Node.rule] at ruleset
  · exact outline.rulesetAt (blank_leads.on rfl) found ruleset
  · obtain rfl : node = .node .endOfInput text.length text.length [] := by
      simpa [Node.flattenAll, Node.flatten] using found
    simp [Node.rule] at ruleset

/-- A stylesheet has one warning for each ruleset of its parse tree, at any depth, whose block holds
no declaration, at-rule or ruleset, only blanks, comments and semicolons.  The warnings are in the
order of the text and do not overlap; each one is about the text from the selector to the closing
brace and suggests to replace it by nothing.  Their lines and columns are in that order too, as long
as the text has fewer characters than can be counted in 64 bits with a sign. -/
theorem lint_warns_of_empty_rulesets {source : String} {diagnostics : List Diagnostic}
    (linted : lint source = .ok diagnostics) :
    ∃ (tree : Node) (rulesets : List Node),
      parse source.toList = .ok tree ∧
      (∀ node, node ∈ rulesets ↔
        node.Within tree ∧ node.rule = .ruleset ∧ node.HoldsNothing) ∧
      (∀ node, node.Within tree → node.rule = .ruleset →
        ∃ selector block inner, Stands source.toList node selector block inner ∧
          (node ∈ rulesets ↔ Filler true inner)) ∧
      (∀ node ∈ rulesets, node.start < node.stop ∧ node.stop ≤ source.length) ∧
      rulesets.Pairwise (fun one other => one.stop ≤ other.start) ∧
      (diagnostics = rulesets.map fun node =>
        { severity := .warning
          fixits := [⟨node.range source.toList, ""⟩]
          locations := [node.range source.toList]
          message := "Empty ruleset" }) ∧
      (source.length < 9223372036854775807 →
        (∀ node ∈ rulesets,
          (node.range source.toList).start.Before (node.range source.toList).stop) ∧
        rulesets.Pairwise fun one other =>
          ¬ (other.range source.toList).start.Before (one.range source.toList).stop) := by
  rw [lint] at linted
  cases parsed : parse source.toList with
  | error attempts => simp [parsed] at linted
  | ok tree =>
      rw [parsed] at linted
      obtain rfl := Except.ok.inj linted
      obtain ⟨nodes, -, reported_eq, outline⟩ := reported_of_parse parsed
      obtain ⟨spans, order⟩ := outline.reported_spans
      rw [← reported_eq] at spans order
      simp only [String.length_toList] at spans
      have mem_iff (node : Node) : node ∈ tree.flatten.filter Node.isEmptyRuleset ↔
          node.Within tree ∧ node.rule = .ruleset ∧ node.isEmptyRuleset = true := by
        rw [List.mem_filter, Node.mem_flatten_iff]
        refine and_congr_right fun _ => ⟨fun empty => ⟨?_, empty⟩, And.right⟩
        rw [Node.isEmptyRuleset, Bool.and_eq_true, beq_iff_eq] at empty
        exact empty.1
      refine ⟨tree, tree.flatten.filter Node.isEmptyRuleset, rfl, fun node => ?_,
        fun node within ruleset => ?_, fun node found => (spans node found).2, order, rfl,
        fun small => ?_⟩
      · rw [mem_iff]
        refine and_congr_right fun within => and_congr_right fun ruleset => ?_
        obtain ⟨selector, block, inner, stands⟩ := (rulesetAt_of_parse parsed within ruleset).stands
        rw [stands.isEmptyRuleset_iff ruleset, stands.holdsNothing_iff]
      · obtain ⟨selector, block, inner, stands⟩ := (rulesetAt_of_parse parsed within ruleset).stands
        refine ⟨selector, block, inner, stands, ?_⟩
        rw [mem_iff, ← stands.filler, ← stands.isEmptyRuleset_iff ruleset]
        simp [within, ruleset]
      · rw [← String.length_toList] at small spans
        constructor
        · intro node found
          obtain ⟨-, nonempty, within⟩ := spans node found
          exact (Location.before_ofOffset_iff small (by omega) within).mpr nonempty
        · refine order.imp_of_mem fun {one other} one_found other_found one_first before => ?_
          obtain ⟨-, -, one_within⟩ := spans one one_found
          obtain ⟨-, other_nonempty, other_within⟩ := spans other other_found
          have overlap :=
            (Location.before_ofOffset_iff small (by omega) one_within).mp before
          omega

/-- Of three rulesets at two depths, one holds a semicolon and one a comment. -/
theorem lint_warns_of_empty_rulesets_nested :
    ∃ diagnostics, lint "a\x7b;\x7d\n@b\x7bc\x7bd:e\x7d f\x7b/**/\x7d\x7d" = .ok diagnostics ∧
      diagnostics.map Diagnostic.locations =
        [[⟨0, ⟨1, 1⟩, ⟨1, 5⟩⟩], [⟨0, ⟨2, 11⟩, ⟨2, 18⟩⟩]] ∧
      ∃ (tree : Node) (rulesets : List Node),
        rulesets.length = 2 ∧
        ∀ node, node ∈ rulesets ↔ node.Within tree ∧ node.rule = .ruleset ∧ node.HoldsNothing := by
  have locations :
      (lint "a\x7b;\x7d\n@b\x7bc\x7bd:e\x7d f\x7b/**/\x7d\x7d").toOption.map
        (List.map Diagnostic.locations) =
          some [[⟨0, ⟨1, 1⟩, ⟨1, 5⟩⟩], [⟨0, ⟨2, 11⟩, ⟨2, 18⟩⟩]] := by
    decide +kernel
  cases linted : lint "a\x7b;\x7d\n@b\x7bc\x7bd:e\x7d f\x7b/**/\x7d\x7d" with
  | error problem => simp [linted, Except.toOption] at locations
  | ok diagnostics =>
      have locations_eq : diagnostics.map Diagnostic.locations =
          [[⟨0, ⟨1, 1⟩, ⟨1, 5⟩⟩], [⟨0, ⟨2, 11⟩, ⟨2, 18⟩⟩]] := by
        simpa [linted, Except.toOption] using locations
      obtain ⟨tree, rulesets, -, mem_iff, -, -, -, diagnostics_eq, -⟩ :=
        lint_warns_of_empty_rulesets linted
      refine ⟨diagnostics, rfl, locations_eq, tree, rulesets, ?_, mem_iff⟩
      have lengths := congrArg List.length locations_eq
      rw [diagnostics_eq] at lengths
      simpa using lengths

end Css
end LintBus

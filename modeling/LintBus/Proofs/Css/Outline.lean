import LintBus.Css.Lint
import LintBus.Proofs.Css.Property

/-!
# The outline of a stylesheet

A stylesheet is a row of at-rules and rulesets, a block a row of declarations, at-rules, rulesets
and semicolons between braces.  What is read by the grammar has an outline, and with it the nodes of
its parse tree; the pieces inside selectors, preludes and declarations do not matter to it.
-/

namespace LintBus
namespace Css

open Pattern

/-! ## Nodes inside selectors, preludes and declarations -/

/-- The rule reads a part of a line: no block and nothing that holds one. -/
def Rule.isInline : Rule → Bool
  | .endOfInput | .stylesheet | .atRule | .ruleset | .block => false
  | _ => true

/-- All rules in the pattern read parts of a line. -/
def Pattern.isInline : Pattern → Bool
  | .text _ | .one _ | .finish => true
  | .seq first second | .alt first second => first.isInline && second.isInline
  | .optional pattern | .many pattern | .more pattern | .absent pattern | .ahead pattern =>
      pattern.isInline
  | .rule name => name.isInline

private theorem Rule.pattern_isInline {name : Rule} (within : name.isInline = true) :
    name.pattern.isInline = true := by
  revert within
  cases name <;> decide

theorem Node.flattenAll_append (nodes others : List Node) :
    flattenAll (nodes ++ others) = flattenAll nodes ++ flattenAll others := by
  induction nodes with
  | nil => rfl
  | cons first nodes induction => simp [flattenAll, induction]

/-- The nodes of a part of a line are parts of a line. -/
theorem Reads.isInline {inToken : Bool} {pattern : Pattern} {place after : Place}
    {nodes : List Node} (reads : Reads inToken pattern place after nodes)
    (within : pattern.isInline = true) :
    ∀ node ∈ Node.flattenAll nodes, node.rule.isInline = true := by
  have both {news others : List Node}
      (first : ∀ node ∈ Node.flattenAll news, node.rule.isInline = true)
      (second : ∀ node ∈ Node.flattenAll others, node.rule.isInline = true) :
      ∀ node ∈ Node.flattenAll (news ++ others), node.rule.isInline = true := by
    intro node found
    rw [Node.flattenAll_append, List.mem_append] at found
    exact found.elim (first node) (second node)
  induction reads with
  | stay | text | one => simp [Node.flattenAll]
  | seq _ _ one_inline other_inline =>
      obtain ⟨one_within, other_within⟩ := Bool.and_eq_true_iff.mp within
      exact both (one_inline one_within) (other_inline other_within)
  | left _ inline => exact inline (Bool.and_eq_true_iff.mp within).1
  | right _ inline => exact inline (Bool.and_eq_true_iff.mp within).2
  | optional _ inline => exact inline within
  | many _ _ once_inline later_inline | more _ _ once_inline later_inline =>
      exact both (once_inline within) (later_inline within)
  | silent _ inline => exact inline (Rule.pattern_isInline within)
  | node _ inline =>
      intro node found
      simp only [Node.flattenAll, Node.flatten, List.append_nil, List.mem_cons] at found
      rcases found with rfl | found
      · exact within
      · exact inline (Rule.pattern_isInline within) node found

/-! ## Rows -/

theorem Place.Leads.eq_of_nil {place after : Place} (leads : place.Leads after []) :
    after = place := by
  obtain ⟨rest, offset⟩ := place
  obtain ⟨rest', offset'⟩ := after
  obtain ⟨rest_eq, offset_eq⟩ := leads
  obtain rfl : rest = rest' := rest_eq
  obtain rfl : offset' = offset := offset_eq
  rfl

private theorem Place.skip_eq_self {place : Place} (skipped : skipBlank place.rest = place.rest) :
    place.skip = place := by
  obtain ⟨taken, leads⟩ := place.skip_leads
  have length_eq := leads.length_eq
  rw [Place.skip_rest, skipped] at length_eq
  obtain rfl : taken = [] := List.length_eq_zero_iff.mp (by omega)
  exact leads.eq_of_nil

private theorem Place.skip_skip (place : Place) : place.skip.skip = place.skip :=
  skip_eq_self (by rw [skip_rest, skipBlank_skipBlank])

theorem Place.offset_le_skip (place : Place) : place.offset ≤ place.skip.offset := by
  obtain ⟨blank, leads⟩ := place.skip_leads
  have := leads.2
  omega

theorem offset_le_of_head {pattern : Pattern} {place between : Place} {heads : List Node}
    (head : read false pattern place = some (between, heads)) :
    place.offset ≤ between.skip.offset := by
  obtain ⟨taken, leads, -⟩ := readIn_leads head
  have := leads.2
  have := between.offset_le_skip
  omega

/-- What is skipped between two places is blanks and comments. -/
theorem Place.skip_filler (place : Place) :
    ∃ filler, place.Leads place.skip filler ∧ Filler false filler := by
  obtain ⟨taken, leads⟩ := place.skip_leads
  obtain ⟨filler, rest_eq, filled⟩ := skipBlank_taken place.rest
  have same : taken = filler := by
    have taken_eq := leads.1
    rw [rest_eq, Place.skip_rest] at taken_eq
    exact (List.append_cancel_right taken_eq).symm
  exact ⟨filler, same ▸ leads, filled⟩

/-- Repetitions of a pattern with blanks between them, from a place to where the last blanks end. -/
inductive Run (pattern : Pattern) : Place → Place → List Node → Prop
  | stop (place : Place) : Run pattern place place []
  | next {place between after : Place} {nodes others : List Node}
      (reading : read false pattern place = some (between, nodes))
      (run : Run pattern between.skip after others) : Run pattern place after (nodes ++ others)

private theorem run_of_read_more {pattern : Pattern} (bounded : pattern.many.isBounded = true)
    {place after : Place} {nodes : List Node}
    (reading : read false pattern.more place = some (after, nodes)) :
    Run pattern place.skip after.skip nodes := by
  induction length_eq : place.rest.length using Nat.strongRecOn generalizing place nodes with
  | ind length induction =>
      rw [read_more bounded] at reading
      cases once : read false pattern place.skip with
      | none =>
          obtain ⟨rfl, rfl⟩ : place = after ∧ [] = nodes := by
            simpa [Place.skipUnless, once] using reading
          exact .stop _
      | some first =>
          obtain ⟨between, news⟩ := first
          simp only [Place.skipUnless, Bool.false_eq_true, if_false, once] at reading
          obtain ⟨⟨_, others⟩, more_read, ⟨rfl, rfl⟩⟩ := Option.map_eq_some_iff.mp reading
          have shorter : between.rest.length < length := by
            have scanned := length_of_repeated bounded (scan_eq_some once)
            rw [Place.skip_rest] at scanned
            have skipped := length_skipBlank_le place.rest
            omega
          exact .next once (induction _ shorter more_read rfl)

private theorem run_of_read_many {pattern : Pattern} (bounded : pattern.many.isBounded = true)
    {place after : Place} {nodes : List Node}
    (reading : read false pattern.many place.skip = some (after, nodes)) :
    Run pattern place.skip after.skip nodes := by
  rw [read_many bounded] at reading
  cases once : read false pattern place.skip with
  | none =>
      obtain ⟨rfl, rfl⟩ : place.skip = after ∧ [] = nodes := by simpa [once] using reading
      rw [Place.skip_skip]
      exact .stop _
  | some first =>
      obtain ⟨between, news⟩ := first
      simp only [once] at reading
      obtain ⟨⟨_, others⟩, more_read, ⟨rfl, rfl⟩⟩ := Option.map_eq_some_iff.mp reading
      exact .next once (run_of_read_more bounded more_read)

/-! ## The outline -/

/-- What may stand in a row: at the top of a stylesheet at-rules and rulesets, in a block
declarations and semicolons as well. -/
def statement (nested : Bool) : Pattern :=
  if nested then blockPart else .alt (.rule .atRule) (.rule .ruleset)

/-- An at-rule up to its block or semicolon. -/
def atHead : Pattern := inOrder [literal "@", .rule .atKeyword, .rule .prelude]

/-- The parts of an outline. -/
inductive Level where
  /-- Parts of a block or of the top of a stylesheet, with blanks between them. -/
  | row (nested : Bool)
  /-- One part of a row. -/
  | part (nested : Bool)
  /-- A row between braces. -/
  | block

/-- The outline of what stands between two places, with the nodes read there. -/
inductive Outline : Level → Place → Place → List Node → Prop
  | stop (nested : Bool) (place : Place) : Outline (.row nested) place place []
  | next {nested : Bool} {place between after : Place} {nodes others : List Node}
      (part : Outline (.part nested) place between nodes)
      (row : Outline (.row nested) between.skip after others) :
      Outline (.row nested) place after (nodes ++ others)
  | semicolon {rest : List Char} {offset : Nat} :
      Outline (.part true) ⟨';' :: rest, offset⟩ ⟨rest, offset + 1⟩ []
  | declaration {place after : Place} {nodes : List Node}
      (reading : read false (.rule .declaration) place = some (after, nodes)) :
      Outline (.part true) place after nodes
  | atStatement {nested : Bool} {place between : Place} {heads : List Node} {rest : List Char}
      (head : read false atHead place = some (between, heads))
      (semicolon : between.skip.rest = ';' :: rest) :
      Outline (.part nested) place ⟨rest, between.skip.offset + 1⟩
        [.node .atRule place.offset (between.skip.offset + 1) heads]
  | atBlock {nested : Bool} {place between after : Place} {heads nodes : List Node}
      (head : read false atHead place = some (between, heads))
      (block : Outline .block between.skip after nodes) :
      Outline (.part nested) place after
        [.node .atRule place.offset after.offset (heads ++ nodes)]
  | ruleset {nested : Bool} {place between after : Place} {heads nodes : List Node}
      (head : read false (.rule .selector) place = some (between, heads))
      (block : Outline .block between.skip after nodes) :
      Outline (.part nested) place after
        [.node .ruleset place.offset after.offset (heads ++ nodes)]
  | block {rest rest' : List Char} {offset : Nat} {after : Place} {nodes : List Node}
      (row : Outline (.row true) (Place.skip ⟨rest, offset + 1⟩) after nodes)
      (closes : after.rest = '\x7d' :: rest') :
      Outline .block ⟨'\x7b' :: rest, offset⟩ ⟨rest', after.offset + 1⟩
        [.node .block offset (after.offset + 1) nodes]

/-! ## Outlines of what is read -/

private theorem read_letter {letter : Char} {place after : Place} {nodes : List Node}
    (reading : read false (.text [letter]) place = some (after, nodes)) :
    place.rest = letter :: after.rest ∧ after.offset = place.offset + 1 ∧ nodes = [] := by
  rw [read_text] at reading
  simp only [Option.map_eq_some_iff, dropText?_eq_some, Prod.mk.injEq] at reading
  obtain ⟨rest, rest_eq, rfl, rfl⟩ := reading
  exact ⟨rest_eq, rfl, rfl⟩

theorem read_rule_eq_some {name : Rule} {place after : Place} {nodes : List Node} :
    read false (.rule name) place = some (after, nodes) ↔
      ∃ inner, read name.isToken name.pattern place = some (after, inner) ∧
        nodes = [.node name place.offset after.offset inner] := by
  rw [read_rule]
  simp only [Option.map_eq_some_iff, Prod.mk.injEq, Prod.exists]
  constructor
  · rintro ⟨_, inner, reading, rfl, rfl⟩
    exact ⟨inner, reading, rfl⟩
  · rintro ⟨inner, reading, rfl⟩
    exact ⟨after, inner, reading, rfl, rfl⟩

private theorem read_seq_eq_some {first second : Pattern}
    (bounded : (first.seq second).isBounded = true)
    {place after : Place} {nodes : List Node} :
    read false (first.seq second) place = some (after, nodes) ↔
      ∃ between news others, read false first place = some (between, news) ∧
        read false second between.skip = some (after, others) ∧ nodes = news ++ others := by
  rw [read_seq bounded]
  simp only [Option.bind_eq_some_iff, Option.map_eq_some_iff, Prod.mk.injEq, Prod.exists]
  constructor
  · rintro ⟨between, news, first_read, _, others, second_read, rfl, rfl⟩
    exact ⟨between, news, others, first_read, second_read, rfl⟩
  · rintro ⟨between, news, others, first_read, second_read, rfl⟩
    exact ⟨between, news, first_read, after, others, second_read, rfl, rfl⟩

/-- All parts of rows have an outline whose text is shorter than the limit. -/
def OutlinedBelow (limit : Nat) : Prop :=
  ∀ {nested : Bool} {place after : Place} {nodes : List Node}, place.rest.length < limit →
    read false (statement nested) place = some (after, nodes) →
      Outline (.part nested) place after nodes

namespace OutlinedBelow

variable {limit : Nat} {nested : Bool} {place after : Place} {nodes : List Node}

private theorem row (parts : OutlinedBelow limit) (below : place.rest.length < limit)
    (run : Run (statement nested) place after nodes) : Outline (.row nested) place after nodes := by
  induction run with
  | stop place => exact .stop nested place
  | next reading _ induction =>
      have shorter := (readIn_length reading).1
      exact .next (parts below reading) (induction (Nat.lt_of_le_of_lt shorter below))

private theorem block (parts : OutlinedBelow place.rest.length)
    (reading : read false (.rule .block) place = some (after, nodes)) :
    Outline .block place after nodes := by
  obtain ⟨inner, block_read, rfl⟩ := read_rule_eq_some.mp reading
  obtain ⟨first, _, _, opening, row_read, rfl⟩ := (read_seq_eq_some (by decide)).mp block_read
  obtain ⟨last, row_nodes, _, many_read, closing, rfl⟩ :=
    (read_seq_eq_some (by decide)).mp row_read
  obtain ⟨rest_eq, offset_eq, rfl⟩ := read_letter opening
  obtain ⟨closes, after_offset, rfl⟩ := read_letter closing
  have run := run_of_read_many (by decide) many_read
  have shorter : first.skip.rest.length < place.rest.length := by
    have := length_skipBlank_le first.rest
    rw [Place.skip_rest, rest_eq, List.length_cons]
    omega
  have row_outline : Outline (.row true) first.skip last.skip row_nodes := parts.row shorter run
  obtain ⟨rest, offset⟩ := place
  obtain ⟨first_rest, first_offset⟩ := first
  obtain ⟨rest', end_offset⟩ := after
  obtain rfl : rest = '\x7b' :: first_rest := rest_eq
  obtain rfl : first_offset = offset + 1 := offset_eq
  obtain rfl : end_offset = last.skip.offset + 1 := after_offset
  simpa using Outline.block row_outline closes

private theorem atRule (parts : OutlinedBelow place.rest.length)
    (reading : read false (.rule .atRule) place = some (after, nodes)) :
    Outline (.part nested) place after nodes := by
  obtain ⟨inner, rule_read, rfl⟩ := read_rule_eq_some.mp reading
  obtain ⟨first, news, _, sign, after_sign, rfl⟩ := (read_seq_eq_some (by decide)).mp rule_read
  obtain ⟨second, keyword_nodes, _, keyword, after_keyword, rfl⟩ :=
    (read_seq_eq_some (by decide)).mp after_sign
  obtain ⟨third, prelude_nodes, others, prelude, ending, rfl⟩ :=
    (read_seq_eq_some (by decide)).mp after_keyword
  have head : read false atHead place = some (third, news ++ (keyword_nodes ++ prelude_nodes)) :=
    (read_seq_eq_some (by decide)).mpr ⟨first, news, _, sign,
      (read_seq_eq_some (by decide)).mpr ⟨second, _, _, keyword, prelude, rfl⟩, rfl⟩
  rw [inOrder, read_alt (by decide), Option.or_eq_some_iff] at ending
  rw [← List.append_assoc, ← List.append_assoc, List.append_assoc news]
  rcases ending with block_read | ⟨-, semicolon⟩
  · have shorter := (readIn_length head).2 (by decide)
    exact .atBlock head (block (fun below => parts (Nat.lt_trans below shorter)) block_read)
  · obtain ⟨rest_eq, offset_eq, rfl⟩ := read_letter semicolon
    obtain ⟨rest, offset⟩ := after
    obtain rfl : offset = third.skip.offset + 1 := offset_eq
    rw [List.append_nil]
    exact .atStatement head rest_eq

private theorem ruleset (parts : OutlinedBelow place.rest.length)
    (reading : read false (.rule .ruleset) place = some (after, nodes)) :
    Outline (.part nested) place after nodes := by
  obtain ⟨inner, rule_read, rfl⟩ := read_rule_eq_some.mp reading
  obtain ⟨between, news, others, head, block_read, rfl⟩ :=
    (read_seq_eq_some (by decide)).mp rule_read
  have shorter := (readIn_length head).2 (by decide)
  exact .ruleset head (block (fun below => parts (Nat.lt_trans below shorter)) block_read)

end OutlinedBelow

/-- A part of a row has an outline. -/
theorem outline_of_read {nested : Bool} {place after : Place} {nodes : List Node}
    (reading : read false (statement nested) place = some (after, nodes)) :
    Outline (.part nested) place after nodes := by
  induction length_eq : place.rest.length using Nat.strongRecOn
    generalizing nested place after nodes with
  | ind length induction =>
      have parts : OutlinedBelow place.rest.length := fun below reading =>
        induction _ (length_eq ▸ below) reading rfl
      cases nested with
      | false =>
          rw [statement, if_neg Bool.false_ne_true, read_alt (by decide),
            Option.or_eq_some_iff] at reading
          rcases reading with reading | ⟨-, reading⟩
          · exact OutlinedBelow.atRule parts reading
          · exact OutlinedBelow.ruleset parts reading
      | true =>
          rw [statement, if_pos rfl] at reading
          simp (disch := decide) only [blockPart, firstOf, read_alt, Option.or_eq_some_iff]
            at reading
          rcases reading with reading | ⟨-, reading | ⟨-, reading | ⟨-, reading⟩⟩⟩
          · exact .declaration reading
          · exact OutlinedBelow.atRule parts reading
          · exact OutlinedBelow.ruleset parts reading
          · obtain ⟨rest_eq, offset_eq, rfl⟩ := read_letter reading
            obtain ⟨rest, offset⟩ := place
            obtain ⟨rest', offset'⟩ := after
            obtain rfl : rest = ';' :: rest' := rest_eq
            obtain rfl : offset' = offset + 1 := offset_eq
            exact .semicolon

/-- A stylesheet is read as statements up to the end of its text. -/
theorem read_statements_of_parse {text : List Char} {stylesheet : Node}
    (parsed : parse text = .ok stylesheet) :
    ∃ last nodes, read false (statement false).many (Place.skip ⟨text, 0⟩) = some (last, nodes) ∧
      last.skip.rest = [] ∧
      stylesheet = .node .stylesheet 0 last.skip.offset
        (nodes ++ [.node .endOfInput last.skip.offset last.skip.offset []]) := by
  obtain ⟨after, reading⟩ := parse_eq_ok.mp parsed
  obtain ⟨inner, sheet_read, node_eq⟩ := read_rule_eq_some.mp reading
  obtain ⟨first, _, _, nothing, rows_read, rfl⟩ := (read_seq_eq_some (by decide)).mp sheet_read
  obtain ⟨last, nodes, _, many_read, finish_read, rfl⟩ :=
    (read_seq_eq_some (by decide)).mp rows_read
  obtain ⟨inner, end_read, rfl⟩ := read_rule_eq_some.mp finish_read
  obtain ⟨rfl, rfl⟩ : ⟨text, 0⟩ = first ∧ [] = _ := by
    simpa [read_text, dropText?] using nothing
  obtain ⟨at_end, rfl, rfl⟩ : last.skip.rest = [] ∧ last.skip = after ∧ [] = inner := by
    have finished : read false .finish last.skip = some (after, inner) := end_read
    simpa [read_finish] using finished
  exact ⟨last, nodes, many_read, at_end, by simpa using node_eq⟩

private theorem outline_of_parse {text : List Char} {stylesheet : Node}
    (parsed : parse text = .ok stylesheet) :
    ∃ stop nodes, stylesheet =
        .node .stylesheet 0 stop (nodes ++ [.node .endOfInput stop stop []]) ∧
      Outline (.row false) (Place.skip ⟨text, 0⟩) ⟨[], stop⟩ nodes := by
  obtain ⟨last, nodes, many_read, at_end, node_eq⟩ := read_statements_of_parse parsed
  refine ⟨last.skip.offset, nodes, node_eq, ?_⟩
  have parts : OutlinedBelow (text.length + 1) := fun _ reading => outline_of_read reading
  have below : (Place.skip ⟨text, 0⟩).rest.length < text.length + 1 := by
    rw [Place.skip_rest]
    exact Nat.lt_succ_of_le (length_skipBlank_le text)
  have row : Outline (.row false) (Place.skip ⟨text, 0⟩) last.skip nodes :=
    parts.row below (run_of_read_many (by decide) many_read)
  rwa [← at_end]

/-! ## Reported nodes -/

/-- The empty rulesets among some nodes and all nodes below them. -/
def reported (nodes : List Node) : List Node :=
  (Node.flattenAll nodes).filter Node.isEmptyRuleset

theorem reported_append (nodes others : List Node) :
    reported (nodes ++ others) = reported nodes ++ reported others := by
  rw [reported, Node.flattenAll_append, List.filter_append, reported, reported]

theorem reported_node (rule : Rule) (start stop : Nat) (children : List Node) :
    reported [.node rule start stop children] =
      if (Node.node rule start stop children).isEmptyRuleset then
        .node rule start stop children :: reported children
      else reported children := by
  simp only [reported, Node.flattenAll, Node.flatten, List.append_nil, List.filter_cons]

theorem reported_node_of_ne {rule : Rule} (other : rule ≠ .ruleset) (start stop : Nat)
    (children : List Node) : reported [.node rule start stop children] = reported children := by
  rw [reported_node, if_neg]
  simp [Node.isEmptyRuleset, Node.rule, other]

theorem ne_ruleset_of_inline {pattern : Pattern} (within : pattern.isInline = true)
    {place after : Place} {nodes : List Node}
    (reading : read false pattern place = some (after, nodes)) {node : Node}
    (found : node ∈ Node.flattenAll nodes) : node.rule ≠ .ruleset := by
  intro ruleset
  have inline := (reads_of_readIn reading).isInline within node found
  simp [ruleset, Rule.isInline] at inline

/-- Nothing is reported inside a selector, a prelude or a declaration. -/
theorem reported_of_inline {pattern : Pattern} (within : pattern.isInline = true)
    {place after : Place} {nodes : List Node}
    (reading : read false pattern place = some (after, nodes)) : reported nodes = [] := by
  rw [reported, List.filter_eq_nil_iff]
  intro node found empty
  rw [Node.isEmptyRuleset, Bool.and_eq_true, beq_iff_eq] at empty
  exact ne_ruleset_of_inline within reading found empty.1

/-- What is reported after a selector or the head of an at-rule is in the block. -/
theorem reported_headed {pattern : Pattern} (within : pattern.isInline = true)
    {place after : Place} {heads : List Node}
    (head : read false pattern place = some (after, heads)) (nodes : List Node) :
    reported (heads ++ nodes) = reported nodes := by
  rw [reported_append, reported_of_inline within head, List.nil_append]

theorem selector_nodes {place between : Place} {heads : List Node}
    (head : read false (.rule .selector) place = some (between, heads)) :
    ∃ pieces, heads = [.node .selector place.offset between.offset pieces] := by
  obtain ⟨pieces, -, rfl⟩ := read_rule_eq_some.mp head
  exact ⟨pieces, rfl⟩

private theorem isEmptyRuleset_of_block {place between : Place} {heads : List Node}
    (head : read false (.rule .selector) place = some (between, heads)) (start stop : Nat)
    (block_start block_stop : Nat) (inner : List Node) :
    (Node.node .ruleset start stop
      (heads ++ [.node .block block_start block_stop inner])).isEmptyRuleset = inner.isEmpty := by
  obtain ⟨pieces, rfl⟩ := selector_nodes head
  rfl

namespace Outline

variable {level : Level} {place after : Place} {nodes : List Node}

theorem leads (outline : Outline level place after nodes) : ∃ taken, place.Leads after taken := by
  induction outline with
  | stop nested place => exact ⟨[], .refl place⟩
  | @next _ _ between _ _ _ _ _ part_leads row_leads =>
      obtain ⟨part_taken, part_leads⟩ := part_leads
      obtain ⟨blank, blank_leads⟩ := between.skip_leads
      obtain ⟨row_taken, row_leads⟩ := row_leads
      exact ⟨_, (part_leads.trans blank_leads).trans row_leads⟩
  | semicolon => exact ⟨[';'], rfl, rfl⟩
  | declaration reading =>
      obtain ⟨taken, leads, -⟩ := readIn_leads reading
      exact ⟨taken, leads⟩
  | @atStatement _ _ between _ rest head semicolon =>
      obtain ⟨taken, head_leads, -⟩ := readIn_leads head
      obtain ⟨blank, blank_leads⟩ := between.skip_leads
      have closing : between.skip.Leads ⟨rest, between.skip.offset + 1⟩ [';'] := ⟨semicolon, rfl⟩
      exact ⟨_, (head_leads.trans blank_leads).trans closing⟩
  | @atBlock _ _ between _ _ _ head _ block_leads
  | @ruleset _ _ between _ _ _ head _ block_leads =>
      obtain ⟨taken, head_leads, -⟩ := readIn_leads head
      obtain ⟨blank, blank_leads⟩ := between.skip_leads
      obtain ⟨block_taken, block_leads⟩ := block_leads
      exact ⟨_, (head_leads.trans blank_leads).trans block_leads⟩
  | @block rest rest' offset after _ _ closes row_leads =>
      obtain ⟨blank, blank_leads⟩ := Place.skip_leads ⟨rest, offset + 1⟩
      obtain ⟨row_taken, row_leads⟩ := row_leads
      have opening : Place.Leads ⟨'\x7b' :: rest, offset⟩ ⟨rest, offset + 1⟩ ['\x7b'] := ⟨rfl, rfl⟩
      have closing : after.Leads ⟨rest', after.offset + 1⟩ ['\x7d'] := ⟨closes, rfl⟩
      exact ⟨_, ((opening.trans blank_leads).trans row_leads).trans closing⟩

/-- A block is a row between braces. -/
theorem block_cases (outline : Outline .block place after nodes) :
    ∃ rest last inner, place.rest = '\x7b' :: rest ∧
      Outline (.row true) (Place.skip ⟨rest, place.offset + 1⟩) last inner ∧
      last.rest = '\x7d' :: after.rest ∧ after.offset = last.offset + 1 ∧
      nodes = [.node .block place.offset after.offset inner] := by
  cases outline with
  | block row closes => exact ⟨_, _, _, rfl, row, closes, rfl, rfl⟩

theorem offset_le (outline : Outline level place after nodes) : place.offset ≤ after.offset := by
  obtain ⟨taken, leads⟩ := outline.leads
  have := leads.2
  omega

/-- What is reported lies between the two places, in order and without overlaps. -/
theorem reported_spans (outline : Outline level place after nodes) :
    (∀ node ∈ reported nodes,
        place.offset ≤ node.start ∧ node.start < node.stop ∧ node.stop ≤ after.offset) ∧
      (reported nodes).Pairwise fun one other => one.stop ≤ other.start := by
  induction outline with
  | stop nested place => simp [reported, Node.flattenAll]
  | @next _ place between after _ _ part row part_spans row_spans =>
      obtain ⟨part_within, part_order⟩ := part_spans
      obtain ⟨row_within, row_order⟩ := row_spans
      have part_le := part.offset_le
      have skip_le := between.offset_le_skip
      have row_le := row.offset_le
      rw [reported_append]
      refine ⟨fun node found => ?_, List.pairwise_append.mpr ⟨part_order, row_order, ?_⟩⟩
      · rcases List.mem_append.mp found with found | found
        · have := part_within node found
          omega
        · have := row_within node found
          omega
      · intro one one_found other other_found
        have := part_within one one_found
        have := row_within other other_found
        omega
  | semicolon => simp [reported, Node.flattenAll]
  | declaration reading => simp [reported_of_inline (by decide) reading]
  | atStatement head semicolon =>
      simp [reported_node_of_ne, reported_of_inline (by decide) head]
  | @atBlock _ place between after _ _ head _ block_spans =>
      rw [reported_node_of_ne (by decide), reported_headed (by decide) head]
      refine ⟨fun node found => ?_, block_spans.2⟩
      have := block_spans.1 node found
      have := offset_le_of_head head
      omega
  | @ruleset _ place between after heads nodes head block block_spans =>
      obtain ⟨block_within, block_order⟩ := block_spans
      have head_le := offset_le_of_head head
      have in_block : (∀ node ∈ reported nodes,
          place.offset ≤ node.start ∧ node.start < node.stop ∧ node.stop ≤ after.offset) ∧
            (reported nodes).Pairwise fun one other => one.stop ≤ other.start := by
        refine ⟨fun node found => ?_, block_order⟩
        have := block_within node found
        omega
      obtain ⟨rest, last, inner, opens, row, closes, offset_eq, rfl⟩ := block.block_cases
      rw [reported_node, reported_headed (by decide) head, isEmptyRuleset_of_block head]
      cases inner with
      | cons first inner => exact in_block
      | nil =>
          have row_le := row.offset_le
          have skip_le := Place.offset_le_skip ⟨rest, between.skip.offset + 1⟩
          simp only at skip_le
          simp [reported, Node.flattenAll, Node.flatten, Node.isEmptyRuleset, Node.rule, Node.start,
            Node.stop]
          omega
  | @block rest rest' offset after _ _ closes row_spans =>
      obtain ⟨row_within, row_order⟩ := row_spans
      have skip_le := Place.offset_le_skip ⟨rest, offset + 1⟩
      rw [reported_node_of_ne (by decide)]
      refine ⟨fun node found => ?_, row_order⟩
      have := row_within node found
      simp only at skip_le ⊢
      omega

end Outline

/-- A stylesheet reports what the outline of its text reports. -/
theorem reported_of_parse {text : List Char} {stylesheet : Node}
    (parsed : parse text = .ok stylesheet) :
    ∃ nodes, stylesheet = .node .stylesheet 0 text.length
        (nodes ++ [.node .endOfInput text.length text.length []]) ∧
      stylesheet.flatten.filter Node.isEmptyRuleset = reported nodes ∧
      Outline (.row false) (Place.skip ⟨text, 0⟩) ⟨[], text.length⟩ nodes := by
  obtain ⟨stop, nodes, rfl, outline⟩ := outline_of_parse parsed
  obtain ⟨blank, blank_leads⟩ := Place.skip_leads ⟨text, 0⟩
  obtain ⟨taken, row_leads⟩ := outline.leads
  obtain rfl : stop = text.length := by
    obtain ⟨rest_eq, offset_eq⟩ := blank_leads.trans row_leads
    rw [List.append_nil] at rest_eq
    simp only [Nat.zero_add, ← rest_eq] at offset_eq
    exact offset_eq
  refine ⟨nodes, rfl, ?_, outline⟩
  have reported_eq : reported [.node .stylesheet 0 text.length
      (nodes ++ [.node .endOfInput text.length text.length []])] = reported nodes := by
    rw [reported_node_of_ne (by decide), reported_append, reported_node_of_ne (by decide)]
    simp [reported, Node.flattenAll]
  rw [reported, Node.flattenAll, Node.flattenAll, List.append_nil] at reported_eq
  exact reported_eq

end Css
end LintBus

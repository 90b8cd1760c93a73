import LintBus.Proofs.Css.Steps

/-!
# Reading by the grammar

With enough steps the matcher follows the equations of the grammar: a sequence reads its parts with
blanks between them, alternatives are tried in order, and a repetition goes on until its pattern
does not match.
-/

namespace LintBus
namespace Css

/-! ## Blanks -/

/-- A character that is skipped on its own. -/
def isBlank (character : Char) : Bool :=
  character = ' ' ∨ character = '\t' ∨ character = '\r' ∨ character = '\n'

/-- What is left of a text after the end of a comment, if it is closed. -/
def afterComment? : List Char → Option (List Char)
  | '*' :: '/' :: rest => some rest
  | _ :: rest => afterComment? rest
  | [] => none

private theorem closeComment_fst (text : List Char) (count : Nat) :
    (closeComment text count).map Prod.fst = afterComment? text := by
  fun_induction closeComment text count with
  | case1 tail count => rfl
  | case2 head tail count not_close induction =>
      rw [induction, afterComment?]
      exact not_close
  | case3 count => rfl

theorem length_afterComment? {text rest : List Char} (closed : afterComment? text = some rest) :
    rest.length ≤ text.length := by
  obtain ⟨⟨_, total⟩, close_eq, rfl⟩ :=
    Option.map_eq_some_iff.mp ((closeComment_fst text 0).trans closed)
  exact closeComment_length close_eq

/-- What is left of a text after blanks and complete comments. -/
def skipBlank (text : List Char) : List Char :=
  match text with
  | '/' :: '*' :: rest =>
      match _closed : afterComment? rest with
      | some rest => skipBlank rest
      | none => text
  | character :: rest => if isBlank character then skipBlank rest else text
  | [] => []
termination_by text.length
decreasing_by
  · have := length_afterComment? _closed
    simp only [List.length_cons]
    omega
  · simp

private theorem dropBlank_fst (text : List Char) (count : Nat) :
    (dropBlank text count).1 = skipBlank text := by
  fun_induction dropBlank text count with
  | case1 count rest after total closed induction =>
      have after_eq := closeComment_fst rest (count + 2)
      rw [closed] at after_eq
      rw [induction, skipBlank]
      split
      · next other other_eq => rw [Option.some.inj (other_eq.symm.trans after_eq.symm)]
      · next open_eq => simp [← after_eq] at open_eq
  | case2 count rest unclosed =>
      have after_eq := closeComment_fst rest (count + 2)
      rw [unclosed] at after_eq
      rw [skipBlank]
      split
      · next other other_eq => simp [← after_eq] at other_eq
      · rfl
  | case3 count character rest not_comment blank induction =>
      rw [induction, skipBlank]
      · rw [if_pos (by simpa [isBlank] using blank)]
      · exact not_comment
  | case4 count character rest not_comment not_blank =>
      rw [skipBlank]
      · rw [if_neg (by simpa [isBlank] using not_blank)]
      · exact not_comment
  | case5 count => rw [skipBlank]

@[simp]
theorem Place.skip_rest (place : Place) : place.skip.rest = skipBlank place.rest :=
  dropBlank_fst place.rest place.offset

@[simp]
theorem skipBlank_nil : skipBlank [] = [] := by
  rw [skipBlank]

theorem skipBlank_blank {character : Char} (blank : isBlank character = true) (rest : List Char) :
    skipBlank (character :: rest) = skipBlank rest := by
  rw [skipBlank, if_pos blank]
  rintro _ rfl
  simp [isBlank] at blank

theorem skipBlank_comment {rest after : List Char} (closed : afterComment? rest = some after) :
    skipBlank ('/' :: '*' :: rest) = skipBlank after := by
  rw [skipBlank]
  split
  · next other other_eq => rw [Option.some.inj (closed.symm.trans other_eq)]
  · next open_eq => simp [closed] at open_eq

theorem skipBlank_unclosed {rest : List Char} (unclosed : afterComment? rest = none) :
    skipBlank ('/' :: '*' :: rest) = '/' :: '*' :: rest := by
  rw [skipBlank]
  split
  · next other other_eq => simp [unclosed] at other_eq
  · rfl

/-- Nothing is skipped before a character that is no blank and does not begin a comment. -/
theorem skipBlank_of_notBlank {character : Char} {rest : List Char}
    (not_blank : isBlank character = false)
    (not_comment : character = '/' → rest.head? ≠ some '*') :
    skipBlank (character :: rest) = character :: rest := by
  rw [skipBlank, if_neg (by simp [not_blank])]
  rintro other rfl rfl
  exact not_comment rfl rfl

theorem skipBlank_isSuffix (text : List Char) : skipBlank text <:+ text := by
  obtain ⟨taken, leads⟩ := Place.skip_leads ⟨text, 0⟩
  exact ⟨taken, by simpa using leads.1.symm⟩

theorem length_skipBlank_le (text : List Char) : (skipBlank text).length ≤ text.length :=
  (skipBlank_isSuffix text).length_le

/-- After blanks and comments there are no more of them. -/
theorem skipBlank_skipBlank (text : List Char) : skipBlank (skipBlank text) = skipBlank text := by
  fun_induction skipBlank text with
  | case1 rest after closed induction => exact induction
  | case2 rest unclosed => exact skipBlank_unclosed unclosed
  | case3 character rest not_comment blank induction => exact induction
  | case4 character rest not_comment not_blank =>
      rw [skipBlank, if_neg not_blank]
      exact not_comment
  | case5 => exact skipBlank_nil

/-! ## Places with the same text left -/

/-- What a reading leaves of the text. -/
abbrev left (reading : Option (Place × List Node)) : Option (List Char) :=
  reading.map fun (after, _) => after.rest

private theorem Place.skipUnless_rest (place : Place) (inToken : Bool) :
    (place.skipUnless inToken).rest = if inToken then place.rest else skipBlank place.rest := by
  cases inToken with
  | true => rfl
  | false => exact place.skip_rest

private theorem Place.skipUnless_congr {place other : Place} (same : place.rest = other.rest)
    (inToken : Bool) : (place.skipUnless inToken).rest = (other.skipUnless inToken).rest := by
  rw [skipUnless_rest, skipUnless_rest, same]

private theorem left_bind_congr {one other : Option (Place × List Node)}
    (same : left one = left other)
    {next next' : Place → Option (Place × List Node)}
    (next_same : ∀ between between', between.rest = between'.rest →
      left (next between) = left (next' between')) :
    left (one.bind fun (between, nodes) =>
        (next between).map fun (after, others) => (after, nodes ++ others)) =
      left (other.bind fun (between, nodes) =>
        (next' between).map fun (after, others) => (after, nodes ++ others)) := by
  cases one with
  | none =>
      cases other with
      | none => rfl
      | some reading => simp at same
  | some reading =>
      cases other with
      | none => simp at same
      | some reading' =>
          have after_same := next_same reading.1 reading'.1 (by simpa using same)
          simpa [left, Function.comp_def] using after_same

/-- What is left after a repetition that goes on only if its pattern matches. -/
theorem left_repeat_congr {one other : Option (Place × List Node)} (same : left one = left other)
    {next : Place → Option (Place × List Node)}
    (next_same : ∀ between between', between.rest = between'.rest →
      left (next between) = left (next between')) {place place' : Place}
    (place_same : place.rest = place'.rest) :
    left (match one with
        | none => some (place, [])
        | some (between, nodes) =>
            (next between).map fun (after, others) => (after, nodes ++ others)) =
      left (match other with
        | none => some (place', [])
        | some (between, nodes) =>
            (next between).map fun (after, others) => (after, nodes ++ others)) := by
  cases one with
  | none =>
      cases other with
      | none => simpa using place_same
      | some reading => simp at same
  | some reading =>
      cases other with
      | none => simp at same
      | some reading' => exact left_bind_congr same next_same

/-- What is left depends on the text only. -/
theorem readIn_left (steps : Nat) (inToken : Bool) (pattern : Pattern) {place other : Place}
    (same : place.rest = other.rest) :
    left (readIn steps inToken pattern place) = left (readIn steps inToken pattern other) := by
  induction steps generalizing inToken pattern place other with
  | zero => rfl
  | succ steps induction =>
      cases pattern with
      | text letters =>
          simp only [readIn, same, left, Option.map_map]
          rfl
      | one set =>
          simp only [readIn, same]
          split
          · rfl
          · split
            · rfl
            · rfl
      | finish =>
          simp only [readIn, same]
          split
          · simpa using same
          · rfl
      | seq first second =>
          exact left_bind_congr (induction inToken first same) fun between between' between_same =>
            induction inToken second (Place.skipUnless_congr between_same inToken)
      | alt first second =>
          have first_same := induction inToken first same
          have second_same := induction inToken second same
          simp only [readIn, left, Option.map_or] at first_same second_same ⊢
          rw [first_same, second_same]
      | optional pattern =>
          have inner_same := induction inToken pattern same
          simp only [readIn]
          generalize readIn steps inToken pattern place = one at inner_same ⊢
          generalize readIn steps inToken pattern other = two at inner_same ⊢
          cases one with
          | none =>
              cases two with
              | none => simp [left, same]
              | some reading => simp at inner_same
          | some reading =>
              cases two with
              | none => simp at inner_same
              | some reading' => simpa using inner_same
      | absent pattern | ahead pattern =>
          have inner_same := congrArg Option.isSome (induction inToken pattern same)
          rw [Option.isSome_map, Option.isSome_map] at inner_same
          simp only [readIn, ← Option.not_isSome, inner_same]
          split
          · simpa using same
          · rfl
      | many pattern =>
          exact left_repeat_congr (induction inToken pattern same)
            (fun between between' between_same => induction inToken (.more pattern) between_same)
            same
      | more pattern =>
          exact left_repeat_congr
            (induction inToken pattern (Place.skipUnless_congr same inToken))
            (fun between between' between_same => induction inToken (.more pattern) between_same)
            same
      | rule name =>
          have inner_same (token : Bool) := induction token name.pattern same
          simp only [readIn]
          split
          · exact inner_same true
          · have := inner_same name.isToken
            simp only [left, Option.map_map] at this ⊢
            exact this

/-! ## The equations of the grammar -/

/-- Read a pattern at a place: the place after it and the nodes read, if it matches. -/
def read (inToken : Bool) (pattern : Pattern) (place : Place) : Option (Place × List Node) :=
  readIn (64 * place.rest.length + 64) inToken pattern place

private theorem readIn_eq_read {steps : Nat} {inToken : Bool} {pattern : Pattern} {place : Place}
    (bounded : pattern.isBounded = true)
    (enough : 64 * place.rest.length + pattern.depth ≤ steps) :
    readIn steps inToken pattern place = read inToken pattern place := by
  have depth_le := Pattern.depth_le_of_isBounded bounded
  exact readIn_enough bounded enough (by omega)

section Equations

variable {inToken : Bool} {first second pattern : Pattern}

theorem read_text (letters : List Char) (place : Place) :
    read inToken (.text letters) place =
      (dropText? letters place.rest).map fun rest =>
        (⟨rest, place.offset + letters.length⟩, []) :=
  rfl

theorem read_one (set : CharSet) (place : Place) :
    read inToken (.one set) place =
      match place.rest with
      | [] => none
      | character :: rest =>
          if set.contains character then some (⟨rest, place.offset + 1⟩, []) else none :=
  rfl

theorem read_finish (place : Place) :
    read inToken .finish place = if place.rest.isEmpty then some (place, []) else none :=
  rfl

theorem read_seq (bounded : (Pattern.seq first second).isBounded = true) (place : Place) :
    read inToken (.seq first second) place =
      (read inToken first place).bind fun (between, nodes) =>
        (read inToken second (between.skipUnless inToken)).map fun (after, others) =>
          (after, nodes ++ others) := by
  have depth_le := Pattern.depth_le_of_isBounded bounded
  obtain ⟨first_bounded, second_bounded⟩ := Pattern.isBounded_of_seq bounded
  have first_depth := Pattern.depth_lt_seq first second
  rw [read, readIn, readIn_eq_read first_bounded (by omega)]
  refine Option.bind_congr fun outcome first_read => ?_
  have second_less := steps_after_first second_bounded first_read
  have second_eq : readIn (64 * place.rest.length + 63) inToken second
      (outcome.1.skipUnless inToken) = read inToken second (outcome.1.skipUnless inToken) :=
    readIn_eq_read second_bounded (by omega)
  simp only [second_eq]

theorem read_alt (bounded : (Pattern.alt first second).isBounded = true) (place : Place) :
    read inToken (.alt first second) place =
      (read inToken first place).or (read inToken second place) := by
  have depth_le := Pattern.depth_le_of_isBounded bounded
  obtain ⟨first_bounded, second_bounded⟩ := Pattern.isBounded_of_alt bounded
  rw [Pattern.depth] at depth_le
  rw [read, readIn, readIn_eq_read first_bounded (by omega),
    readIn_eq_read second_bounded (by omega)]

private theorem readIn_inner (bounded : pattern.optional.isBounded = true) (place : Place) :
    readIn (64 * place.rest.length + 63) inToken pattern place = read inToken pattern place := by
  have depth_le := Pattern.depth_le_of_isBounded bounded
  rw [Pattern.depth] at depth_le
  exact readIn_eq_read (Pattern.isBounded_of_optional bounded) (by omega)

theorem read_optional (bounded : pattern.optional.isBounded = true) (place : Place) :
    read inToken pattern.optional place =
      some ((read inToken pattern place).getD (place, [])) := by
  rw [read, readIn, readIn_inner bounded]

theorem read_absent (bounded : pattern.absent.isBounded = true) (place : Place) :
    read inToken pattern.absent place =
      if (read inToken pattern place).isNone then some (place, []) else none := by
  rw [read, readIn, readIn_inner bounded]

theorem read_ahead (bounded : pattern.ahead.isBounded = true) (place : Place) :
    read inToken pattern.ahead place =
      if (read inToken pattern place).isSome then some (place, []) else none := by
  rw [read, readIn, readIn_inner bounded]

/-- A repetition that reads first at a place of the text from here on reads with steps enough. -/
theorem readIn_repeated (bounded : pattern.many.isBounded = true) {place start : Place}
    (within : start.rest.length ≤ place.rest.length) :
    (match readIn (64 * place.rest.length + 63) inToken pattern start with
      | none => some (place, [])
      | some (between, nodes) =>
          (readIn (64 * place.rest.length + 63) inToken pattern.more between).map
            fun (after, others) => (after, nodes ++ others)) =
      match read inToken pattern start with
      | none => some (place, [])
      | some (between, nodes) =>
          (read inToken pattern.more between).map fun (after, others) =>
            (after, nodes ++ others) := by
  have depth_le : 1 + pattern.depth ≤ 64 := Pattern.depth_le_of_isBounded bounded
  rw [readIn_eq_read (Pattern.isBounded_of_many bounded).1 (by omega)]
  cases inner : read inToken pattern start with
  | none => rfl
  | some reading =>
      have later_less := steps_after_repeated bounded inner
      have later_eq : readIn (64 * place.rest.length + 63) inToken pattern.more reading.1 =
          read inToken pattern.more reading.1 :=
        readIn_eq_read bounded (by omega)
      simp only [later_eq]

/-- After the first of several repetitions, the others follow with blanks between them. -/
theorem read_more (bounded : pattern.many.isBounded = true) (place : Place) :
    read inToken pattern.more place =
      match read inToken pattern (place.skipUnless inToken) with
      | none => some (place, [])
      | some (between, nodes) =>
          (read inToken pattern.more between).map fun (after, others) =>
            (after, nodes ++ others) := by
  obtain ⟨blank, blank_leads⟩ := place.skipUnless_leads inToken
  have skipped_length := blank_leads.length_eq
  exact readIn_repeated bounded (by omega)

theorem read_many (bounded : pattern.many.isBounded = true) (place : Place) :
    read inToken pattern.many place =
      match read inToken pattern place with
      | none => some (place, [])
      | some (between, nodes) =>
          (read inToken pattern.more between).map fun (after, others) =>
            (after, nodes ++ others) :=
  readIn_repeated bounded (Nat.le_refl _)

/-- In a token a rule stands for its pattern. -/
theorem read_rule_inToken (name : Rule) (place : Place) :
    read true (.rule name) place = read true name.pattern place := by
  obtain ⟨bounded, deeper, depth_le, -⟩ := Rule.pattern_isBounded name
  rw [read, readIn, if_pos rfl, readIn_eq_read bounded (by omega)]

/-- A rule leaves a node. -/
theorem read_rule (name : Rule) (place : Place) :
    read false (.rule name) place =
      (read name.isToken name.pattern place).map fun (after, nodes) =>
        (after, [.node name place.offset after.offset nodes]) := by
  obtain ⟨bounded, deeper, depth_le, -⟩ := Rule.pattern_isBounded name
  rw [read, readIn, if_neg Bool.false_ne_true, readIn_eq_read bounded (by omega)]

end Equations

/-- A stylesheet is read from the front of its text. -/
theorem parse_eq_ok {text : List Char} {stylesheet : Node} :
    parse text = .ok stylesheet ↔
      ∃ after, read false (.rule .stylesheet) ⟨text, 0⟩ = some (after, [stylesheet]) := by
  have matched := matchPattern_eq_readIn (stepsFor text) false (.rule .stylesheet) ⟨text, 0, []⟩
    .empty
  rw [readIn_eq_read (by decide) (by simp [stepsFor, Pattern.depth, Rule.depth]; omega)] at matched
  rw [read_rule] at matched ⊢
  rw [parse]
  rcases outcome : matchPattern (stepsFor text) false (.rule .stylesheet) ⟨text, 0, []⟩ .empty with
    ⟨result, attempts⟩
  rw [outcome] at matched
  obtain rfl : result = _ := matched
  cases read Rule.stylesheet.isToken Rule.stylesheet.pattern ⟨text, 0⟩ with
  | none => simp
  | some reading => simp [eq_comm]

/-! ## What is left of a text -/

/-- What is left of a text after a pattern, if it matches. -/
def scan (inToken : Bool) (pattern : Pattern) (text : List Char) : Option (List Char) :=
  left (read inToken pattern ⟨text, 0⟩)

theorem left_read (inToken : Bool) (pattern : Pattern) (place : Place) :
    left (read inToken pattern place) = scan inToken pattern place.rest :=
  readIn_left _ inToken pattern rfl

theorem scan_eq_some {inToken : Bool} {pattern : Pattern} {place after : Place}
    {nodes : List Node} (reading : read inToken pattern place = some (after, nodes)) :
    scan inToken pattern place.rest = some after.rest := by
  rw [← left_read, reading]
  rfl

/-- What a pattern leaves of a text is an end of it, and a shorter one if the pattern consumes. -/
theorem scan_suffix {inToken : Bool} {pattern : Pattern} {text rest : List Char}
    (scanned : scan inToken pattern text = some rest) :
    ∃ taken, text = taken ++ rest ∧ (pattern.consumes = true → taken ≠ []) := by
  obtain ⟨⟨after, nodes⟩, reading, rfl⟩ := Option.map_eq_some_iff.mp scanned
  obtain ⟨taken, leads, some_taken⟩ := readIn_leads reading
  exact ⟨taken, leads.1, some_taken⟩

section Equations

variable {inToken : Bool} {first second pattern : Pattern}

theorem scan_text (letters text : List Char) :
    scan inToken (.text letters) text = dropText? letters text := by
  simp [scan, read_text, left, Function.comp_def]

/-- What is left of a text after a first character of a kind. -/
def afterChar? (kind : Char → Bool) : List Char → Option (List Char)
  | [] => none
  | character :: rest => if kind character then some rest else none

theorem scan_letter (letter : Char) (text : List Char) :
    scan inToken (.text [letter]) text = afterChar? (fun character => character = letter) text := by
  rw [scan_text]
  cases text with
  | nil => rfl
  | cons character rest => simp [dropText?, afterChar?, eq_comm]

theorem scan_set (set : CharSet) (text : List Char) :
    scan inToken (.one set) text = afterChar? set.contains text := by
  rw [scan, read_one]
  cases text with
  | nil => rfl
  | cons character rest =>
      simp only [afterChar?]
      split
      · rfl
      · rfl

theorem scan_seq (bounded : (Pattern.seq first second).isBounded = true) (text : List Char) :
    scan inToken (.seq first second) text =
      (scan inToken first text).bind fun rest =>
        scan inToken second (if inToken then rest else skipBlank rest) := by
  rw [scan, read_seq bounded, scan]
  cases read inToken first ⟨text, 0⟩ with
  | none => rfl
  | some reading => simp [left, Function.comp_def, ← Place.skipUnless_rest, ← left_read]

theorem scan_alt (bounded : (Pattern.alt first second).isBounded = true) (text : List Char) :
    scan inToken (.alt first second) text =
      (scan inToken first text).or (scan inToken second text) := by
  rw [scan, read_alt bounded, left, Option.map_or]
  rfl

theorem scan_optional (bounded : pattern.optional.isBounded = true) (text : List Char) :
    scan inToken pattern.optional text = some ((scan inToken pattern text).getD text) := by
  rw [scan, read_optional bounded, scan]
  cases read inToken pattern ⟨text, 0⟩ with
  | none => rfl
  | some reading => rfl

theorem scan_absent (bounded : pattern.absent.isBounded = true) (text : List Char) :
    scan inToken pattern.absent text =
      if (scan inToken pattern text).isNone then some text else none := by
  rw [scan, read_absent bounded, scan]
  cases read inToken pattern ⟨text, 0⟩ with
  | none => rfl
  | some reading => rfl

theorem scan_ahead (bounded : pattern.ahead.isBounded = true) (text : List Char) :
    scan inToken pattern.ahead text =
      if (scan inToken pattern text).isSome then some text else none := by
  rw [scan, read_ahead bounded, scan]
  cases read inToken pattern ⟨text, 0⟩ with
  | none => rfl
  | some reading => rfl

theorem scan_more (bounded : pattern.many.isBounded = true) (text : List Char) :
    scan inToken pattern.more text =
      match scan inToken pattern (if inToken then text else skipBlank text) with
      | none => some text
      | some rest => scan inToken pattern.more rest := by
  rw [scan, read_more bounded, ← Place.skipUnless_rest ⟨text, 0⟩ inToken, ← left_read]
  cases read inToken pattern (Place.skipUnless ⟨text, 0⟩ inToken) with
  | none => rfl
  | some reading => simp [left, Function.comp_def, ← left_read]

theorem scan_many (bounded : pattern.many.isBounded = true) (text : List Char) :
    scan inToken pattern.many text =
      match scan inToken pattern text with
      | none => some text
      | some rest => scan inToken pattern.more rest := by
  rw [scan, read_many bounded, scan]
  cases read inToken pattern ⟨text, 0⟩ with
  | none => rfl
  | some reading => simp [left, Function.comp_def, ← left_read]

/-- Each repetition leaves less of the text. -/
theorem length_of_repeated (bounded : pattern.many.isBounded = true) {text rest : List Char}
    (scanned : scan inToken pattern text = some rest) : rest.length < text.length := by
  obtain ⟨taken, rfl, some_taken⟩ := scan_suffix scanned
  have := List.length_pos_iff.mpr (some_taken (Pattern.isBounded_of_many bounded).2)
  rw [List.length_append]
  omega

theorem scan_more_isSome (bounded : pattern.many.isBounded = true) (text : List Char) :
    (scan inToken pattern.more text).isSome = true := by
  induction length_eq : text.length using Nat.strongRecOn generalizing text with
  | ind length induction =>
      rw [scan_more bounded]
      split
      · rfl
      · next rest scanned =>
          have shorter := length_of_repeated bounded scanned
          have skipped := length_skipBlank_le text
          refine induction rest.length ?_ rest rfl
          split at shorter
          · omega
          · omega

theorem scan_many_isSome (bounded : pattern.many.isBounded = true) (text : List Char) :
    (scan inToken pattern.many text).isSome = true := by
  rw [scan_many bounded]
  split
  · rfl
  · exact scan_more_isSome bounded _

theorem scan_rule_inToken (name : Rule) (text : List Char) :
    scan true (.rule name) text = scan true name.pattern text := by
  rw [scan, read_rule_inToken]
  rfl

theorem scan_rule (name : Rule) (text : List Char) :
    scan false (.rule name) text = scan name.isToken name.pattern text := by
  rw [scan, read_rule, scan]
  simp [left, Function.comp_def]

/-- What is left of a text after a pattern and the blanks that follow it. -/
def past (pattern : Pattern) (text : List Char) : Option (List Char) :=
  (scan false pattern text).map skipBlank

/-- Outside of tokens the second part of a sequence is read past the first. -/
theorem scan_seq_past (bounded : (Pattern.seq first second).isBounded = true) (text : List Char) :
    scan false (.seq first second) text = (past first text).bind (scan false second) := by
  rw [scan_seq bounded, past]
  cases scan false first text with
  | none => rfl
  | some rest => rfl

theorem past_seq (bounded : (Pattern.seq first second).isBounded = true) (text : List Char) :
    past (.seq first second) text = (past first text).bind (past second) := by
  rw [past, scan_seq_past bounded]
  cases past first text with
  | none => rfl
  | some rest => rfl

/-- A repetition goes on from the next place where something stands. -/
theorem past_many (bounded : pattern.many.isBounded = true) (text : List Char) :
    past pattern.many text =
      match past pattern text with
      | none => some (skipBlank text)
      | some rest => past pattern.many rest := by
  have past_more (text : List Char) :
      (scan false pattern.more text).map skipBlank = past pattern.many (skipBlank text) := by
    rw [past, scan_more bounded, scan_many bounded]
    simp only [Bool.false_eq_true, if_false]
    cases scan false pattern (skipBlank text) with
    | none => simp [skipBlank_skipBlank]
    | some rest => rfl
  conv_lhs => rw [past, scan_many bounded]
  rw [past]
  cases scan false pattern text with
  | none => rfl
  | some rest => exact past_more rest

theorem past_isSuffix {text rest : List Char} (passed : past pattern text = some rest) :
    rest <:+ text := by
  obtain ⟨after, scanned, rfl⟩ := Option.map_eq_some_iff.mp passed
  obtain ⟨taken, rfl, -⟩ := scan_suffix scanned
  exact (skipBlank_isSuffix after).trans (List.suffix_append taken after)

theorem length_past_le {text rest : List Char} (passed : past pattern text = some rest) :
    rest.length ≤ text.length :=
  (past_isSuffix passed).length_le

end Equations

end Css
end LintBus

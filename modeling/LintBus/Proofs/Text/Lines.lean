import LintBus.Proofs.Text.Pieces
import LintBus.Proofs.Text.Position
import Mathlib.Data.List.Forall2

/-!
# Lines of a text

A place stands in a text if its line is one of the text and its column is that of a character of the
line or of the end of the line.  Every place that is reached by reading from the start stands in
the text, unless it is between the two characters of one line end.  The lines of a text and the
places in it depend on nothing but where its line feeds are.
-/

namespace LintBus

/-- The lines of a text without their ends: a line feed, alone or after a carriage return. -/
def linesOf : List Char → List (List Char)
  | [] => [[]]
  | '\r' :: '\n' :: rest => [] :: linesOf rest
  | '\n' :: rest => [] :: linesOf rest
  | character :: rest =>
      match linesOf rest with
      | [] => [[character]]
      | first :: others => (character :: first) :: others

/-- To show something of every text, show that it is kept when a line end or another character comes
before the text. -/
@[elab_as_elim]
theorem line_induction {motive : List Char → Prop} (nil : motive [])
    (pair : ∀ rest, motive rest → motive ('\r' :: '\n' :: rest))
    (feed : ∀ rest, motive rest → motive ('\n' :: rest))
    (other : ∀ character rest, character ≠ '\n' →
      (character = '\r' → rest.head? ≠ some '\n') → motive rest → motive (character :: rest))
    (text : List Char) : motive text := by
  fun_induction linesOf text with
  | case1 => exact nil
  | case2 rest induction => exact pair rest induction
  | case3 rest induction => exact feed rest induction
  | case4 character rest not_pair not_feed _ induction
  | case5 character rest not_pair not_feed _ _ _ induction =>
      refine other character rest not_feed (fun same head_eq => ?_) induction
      obtain ⟨others, rest_eq⟩ := List.head?_eq_some_iff.mp head_eq
      exact not_pair others same rest_eq

private theorem linesOf_ne_nil (text : List Char) : linesOf text ≠ [] := by
  fun_cases linesOf text with
  | case1 | case2 | case3 | case4 | case5 => simp

private theorem exists_linesOf_cons {character : Char} {rest : List Char}
    (not_feed : character ≠ '\n')
    (not_pair : character = '\r' → rest.head? ≠ some '\n') : ∃ first others,
      linesOf rest = first :: others ∧
        linesOf (character :: rest) = (character :: first) :: others := by
  obtain ⟨first, others, lines⟩ := List.exists_cons_of_ne_nil (linesOf_ne_nil rest)
  refine ⟨first, others, lines, ?_⟩
  rw [linesOf, lines]
  · rintro after rfl rfl
    exact not_pair rfl rfl
  · exact not_feed

namespace Position

/-- The place after one more character. -/
def next (position : Position) (character : Char) : Position :=
  if character = '\n' then ⟨position.line + 1, 1⟩ else ⟨position.line, position.column + 1⟩

/-- A carriage return moves on in its line; a line feed after it begins the next line all the
same. -/
theorem advance_cons (position : Position) (character : Char) (rest : List Char) :
    position.advance (character :: rest) = (position.next character).advance rest := by
  rw [next]
  by_cases feed : character = '\n'
  · rw [if_pos feed, feed, advance_feed]
  · rw [if_neg feed]
    by_cases pair : character = '\r' ∧ rest.head? = some '\n'
    · obtain ⟨rfl, head_eq⟩ := pair
      obtain ⟨others, rfl⟩ := List.head?_eq_some_iff.mp head_eq
      rw [advance, advance_feed]
    · exact advance_column position feed fun same head_eq => pair ⟨same, head_eq⟩

end Position

/-- Both characters are line feeds or neither is. -/
def SameFeed (character other : Char) : Prop := character = '\n' ↔ other = '\n'

section SameFeed

variable {text other : List Char}

theorem getElem?_eq_feed_congr (alike : List.Forall₂ SameFeed text other) (index : Nat) :
    text[index]? = some '\n' ↔ other[index]? = some '\n' := by
  induction alike generalizing index with
  | nil => exact Iff.rfl
  | cons same _ induction =>
      cases index with
      | zero => simpa [SameFeed] using same
      | succ index => exact induction index

private theorem Position.advance_congr (alike : List.Forall₂ SameFeed text other)
    (position : Position) :
    position.advance text = position.advance other := by
  induction alike generalizing position with
  | nil => rfl
  | @cons character blanked _ _ same _ induction =>
      have next_eq : position.next character = position.next blanked := by
        rw [Position.next, Position.next]
        exact if_congr same rfl rfl
      rw [Position.advance_cons, Position.advance_cons, next_eq, induction]

theorem Position.ofOffset_congr (alike : List.Forall₂ SameFeed text other) (offset : Nat) :
    Position.ofOffset text offset = Position.ofOffset other offset :=
  Position.advance_congr (List.forall₂_take offset alike) Position.start

theorem length_piecesAt_congr (alike : List.Forall₂ SameFeed text other) :
    (piecesAt '\n' text).map List.length = (piecesAt '\n' other).map List.length := by
  induction alike with
  | nil => rfl
  | @cons character blanked text other same _ induction =>
      by_cases feed : character = '\n'
      · rw [piecesAt, piecesAt, if_pos feed, if_pos (same.mp feed), List.map_cons, List.map_cons,
          induction]
      · obtain ⟨first, others, pieces, pieces_cons⟩ := exists_piecesAt_cons feed text
        obtain ⟨first', others', pieces', pieces_cons'⟩ :=
          exists_piecesAt_cons (mt same.mpr feed) other
        rw [pieces, pieces', List.map_cons, List.map_cons, List.cons.injEq] at induction
        rw [pieces_cons, pieces_cons', List.map_cons, List.map_cons, List.length_cons,
          List.length_cons, induction.1, induction.2]

end SameFeed

/-- Cut at its line feeds, a text has as many pieces as lines.  A piece is a line, perhaps with a
carriage return at its end. -/
theorem forall₂_piecesAt_linesOf (text : List Char) :
    List.Forall₂ (fun piece line => line.length ≤ piece.length ∧ piece.length ≤ line.length + 1)
      (piecesAt '\n' text) (linesOf text) := by
  induction text using line_induction with
  | nil => exact .cons ⟨Nat.le_refl 0, Nat.zero_le 1⟩ .nil
  | pair rest induction =>
      have pieces : piecesAt '\n' ('\r' :: '\n' :: rest) = ['\r'] :: piecesAt '\n' rest := by
        simp [piecesAt]
      rw [pieces, linesOf]
      exact .cons ⟨Nat.zero_le 1, Nat.le_refl 1⟩ induction
  | feed rest induction =>
      rw [piecesAt, if_pos rfl, linesOf]
      exact .cons ⟨Nat.le_refl 0, Nat.zero_le 1⟩ induction
  | other character rest not_feed not_pair induction =>
      obtain ⟨piece, pieces, pieces_eq, pieces_cons⟩ := exists_piecesAt_cons not_feed rest
      obtain ⟨line, lines, lines_eq, lines_cons⟩ := exists_linesOf_cons not_feed not_pair
      rw [pieces_eq, lines_eq, List.forall₂_cons] at induction
      rw [pieces_cons, lines_cons]
      exact .cons (by simpa using induction.1) induction.2

/-- Where another text has the same line feeds, its pieces are lines of the text, with perhaps one
character more. -/
theorem exists_line_of_piece {text other : List Char} (alike : List.Forall₂ SameFeed other text)
    {index : Nat} {piece : List Char} (found : (piecesAt '\n' other)[index]? = some piece) :
    ∃ line, (linesOf text)[index]? = some line ∧ piece.length ≤ line.length + 1 := by
  have length_found := congrArg (Option.map List.length) found
  rw [← List.getElem?_map, length_piecesAt_congr alike, List.getElem?_map] at length_found
  obtain ⟨same, same_found, length_eq⟩ := Option.map_eq_some_iff.mp length_found
  obtain ⟨within, same_eq⟩ := List.getElem?_eq_some_iff.mp same_found
  have lines := forall₂_piecesAt_linesOf text
  have line_within : index < (linesOf text).length := lines.length_eq ▸ within
  have bounds := lines.get within line_within
  rw [List.get_eq_getElem, List.get_eq_getElem, same_eq, length_eq] at bounds
  exact ⟨(linesOf text)[index], List.getElem?_eq_getElem line_within, bounds.2⟩

private theorem length_linesOf_le (text : List Char) : (linesOf text).length ≤ text.length + 1 := by
  induction text using line_induction with
  | nil => exact Nat.le_refl 1
  | pair rest induction =>
      rw [linesOf, List.length_cons, List.length_cons, List.length_cons]
      omega
  | feed rest induction =>
      rw [linesOf, List.length_cons, List.length_cons]
      omega
  | other character rest not_feed not_pair induction =>
      obtain ⟨line, lines, lines_eq, lines_cons⟩ := exists_linesOf_cons not_feed not_pair
      rw [lines_eq, List.length_cons] at induction
      rw [lines_cons, List.length_cons, List.length_cons]
      omega

private theorem length_le_of_mem_linesOf {text line : List Char} (found : line ∈ linesOf text) :
    line.length ≤ text.length := by
  induction text using line_induction generalizing line with
  | nil =>
      obtain rfl := List.mem_singleton.mp found
      exact Nat.le_refl 0
  | pair rest induction =>
      rw [linesOf, List.mem_cons] at found
      rcases found with rfl | found
      · exact Nat.zero_le _
      · exact Nat.le_succ_of_le (Nat.le_succ_of_le (induction found))
  | feed rest induction =>
      rw [linesOf, List.mem_cons] at found
      rcases found with rfl | found
      · exact Nat.zero_le _
      · exact Nat.le_succ_of_le (induction found)
  | other character rest not_feed not_pair induction =>
      obtain ⟨first, others, lines_eq, lines_cons⟩ := exists_linesOf_cons not_feed not_pair
      rw [lines_eq] at induction
      rw [lines_cons, List.mem_cons] at found
      rcases found with rfl | found
      · exact Nat.succ_le_succ (induction List.mem_cons_self)
      · exact Nat.le_succ_of_le (induction (List.mem_cons_of_mem first found))

/-- The line is one of the text, and the column is that of a character of the line or of its end. -/
structure Position.StandsIn (text : List Char) (position : Position) : Prop where
  line_pos : 1 ≤ position.line
  line_le : position.line ≤ (linesOf text).length
  column_pos : 1 ≤ position.column
  column_le : ∀ line, (linesOf text)[position.line - 1]? = some line →
    position.column ≤ line.length + 1

theorem Position.StandsIn.le {text : List Char} {position : Position}
    (stands : position.StandsIn text) :
    position.line ≤ text.length + 1 ∧ position.column ≤ text.length + 1 := by
  obtain ⟨line_pos, line_le, column_pos, column_le⟩ := stands
  have lines_le := length_linesOf_le text
  have within : position.line - 1 < (linesOf text).length := by omega
  have line_length := length_le_of_mem_linesOf (List.getElem_mem within)
  have in_line := column_le _ (List.getElem?_eq_getElem within)
  omega

/-- The place is between a carriage return and the line feed that makes one line end with it. -/
def SplitsEnd (text : List Char) (offset : Nat) : Prop :=
  (text.take offset).getLast? = some '\r' ∧ (text.drop offset).head? = some '\n'

private theorem SplitsEnd.cons {text : List Char} {offset : Nat} (splits : SplitsEnd text offset)
    (character : Char) : SplitsEnd (character :: text) (offset + 1) := by
  obtain ⟨last, first⟩ := splits
  refine ⟨?_, first⟩
  rw [List.take_succ_cons, List.getLast?_cons, last]
  rfl

private theorem Position.column_pos_advance (text : List Char) {position : Position}
    (pos : 1 ≤ position.column) : 1 ≤ (position.advance text).column := by
  induction text generalizing position with
  | nil => exact pos
  | cons character rest induction =>
      rw [advance_cons]
      apply induction
      rw [next]
      split
      · exact Nat.le_refl 1
      · exact Nat.le_succ_of_le pos

/-- The place is in one of the lines, the first of which goes on at the origin. -/
def Position.Reaches (lines : List (List Char)) (origin place : Position) : Prop :=
  ∃ passed line, lines[passed]? = some line ∧ place.line = origin.line + passed ∧
    place.column ≤ (if passed = 0 then origin.column else 1) + line.length

namespace Position.Reaches

variable {lines : List (List Char)} {origin place : Position}

private theorem here (text : List Char) (origin : Position) : Reaches
    (linesOf text) origin origin := by
  obtain ⟨line, others, lines⟩ := List.exists_cons_of_ne_nil (linesOf_ne_nil text)
  exact ⟨0, line, by rw [lines]; rfl, rfl, Nat.le_add_right _ _⟩

private theorem below (reaches : Reaches lines ⟨origin.line + 1, 1⟩ place) (line : List Char) :
    Reaches (line :: lines) origin place := by
  obtain ⟨passed, last, found, line_eq, column_le⟩ := reaches
  rw [ite_self] at column_le
  refine ⟨passed + 1, last, found, ?_, column_le⟩
  simp only at line_eq
  omega

private theorem right {first : List Char} {others : List (List Char)}
    (reaches : Reaches (first :: others) ⟨origin.line, origin.column + 1⟩ place)
    (character : Char) : Reaches ((character :: first) :: others) origin place := by
  obtain ⟨passed, last, found, line_eq, column_le⟩ := reaches
  cases passed with
  | zero =>
      obtain rfl := Option.some.inj found
      refine ⟨0, character :: first, rfl, line_eq, ?_⟩
      simp only [if_pos, List.length_cons] at column_le ⊢
      omega
  | succ passed => exact ⟨passed + 1, last, found, line_eq, column_le⟩

end Position.Reaches

/-- Reading on from the origin, one gets to places in the lines of the text. -/
theorem Position.reaches_advance {text : List Char} {offset : Nat}
    (apart : ¬ SplitsEnd text offset) (origin : Position) :
    Reaches (linesOf text) origin (origin.advance (text.take offset)) := by
  induction text using line_induction generalizing offset origin with
  | nil =>
      rw [List.take_nil]
      exact .here [] origin
  | pair rest induction =>
      match offset with
      | 0 => exact .here _ origin
      | 1 => exact absurd ⟨rfl, rfl⟩ apart
      | offset + 2 =>
          rw [List.take_succ_cons, List.take_succ_cons, advance, linesOf]
          exact (induction (mt (fun splits => (splits.cons _).cons _) apart) _).below []
  | feed rest induction =>
      cases offset with
      | zero => exact .here _ origin
      | succ offset =>
          rw [List.take_succ_cons, advance_feed, linesOf]
          exact (induction (mt (fun splits => splits.cons _) apart) _).below []
  | other character rest not_feed not_pair induction =>
      cases offset with
      | zero => exact .here _ origin
      | succ offset =>
          obtain ⟨first, others, lines, lines_cons⟩ := exists_linesOf_cons not_feed not_pair
          have reaches := induction (mt (fun splits => splits.cons character) apart)
            (origin.next character)
          rw [next, if_neg not_feed, lines] at reaches
          rw [List.take_succ_cons, advance_cons, next, if_neg not_feed, lines_cons]
          exact reaches.right character

theorem Position.standsIn_ofOffset {text : List Char} {offset : Nat}
    (apart : ¬ SplitsEnd text offset) : (Position.ofOffset text offset).StandsIn text := by
  obtain ⟨passed, line, found, line_eq, column_le⟩ := reaches_advance apart start
  rw [← ofOffset] at line_eq column_le
  have start_line : start.line = 1 := rfl
  have start_column : start.column = 1 := rfl
  rw [start_line] at line_eq
  rw [start_column, ite_self] at column_le
  obtain ⟨within, -⟩ := List.getElem?_eq_some_iff.mp found
  refine ⟨by omega, by omega, column_pos_advance _ (Nat.le_refl 1), fun other other_found => ?_⟩
  have index_eq : (ofOffset text offset).line - 1 = passed := by omega
  rw [index_eq, found, Option.some.injEq] at other_found
  rw [← other_found]
  omega

end LintBus

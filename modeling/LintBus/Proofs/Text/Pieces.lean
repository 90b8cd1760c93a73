import LintBus.Text.Pieces

/-!
# Cutting and joining

A text is cut into pieces without the mark, and joining them with the mark between them gives the
text back.  Pieces without the mark that were joined are what the text is cut into.
-/

namespace LintBus

variable {α : Type} [DecidableEq α]

theorem piecesAt_ne_nil (mark : α) (text : List α) :
    piecesAt mark text ≠ [] := by
  cases text with
  | nil => simp [piecesAt]
  | cons unit rest =>
      rw [piecesAt]
      split
      · simp
      · split <;> simp

/-- A character that is no mark goes on with the first piece of what comes after it. -/
theorem exists_piecesAt_cons {mark unit : α} (not_mark : unit ≠ mark)
    (rest : List α) : ∃ first others,
      piecesAt mark rest = first :: others ∧
        piecesAt mark (unit :: rest) = (unit :: first) :: others := by
  obtain ⟨first, others, pieces⟩ := List.exists_cons_of_ne_nil (piecesAt_ne_nil mark rest)
  refine ⟨first, others, pieces, ?_⟩
  rw [piecesAt, if_neg not_mark, pieces]

/-- A text with a mark in it is cut into the pieces before the mark and those after it. -/
theorem piecesAt_append_cons (mark : α) (left right : List α) :
    piecesAt mark (left ++ mark :: right) = piecesAt mark left ++ piecesAt mark right := by
  induction left with
  | nil => simp [piecesAt]
  | cons unit rest induction =>
      rw [List.cons_append, piecesAt, piecesAt, induction]
      split
      · rfl
      · cases pieces : piecesAt mark rest with
        | nil => exact absurd pieces (piecesAt_ne_nil mark rest)
        | cons first others => rfl

theorem piecesAt_of_notMem {mark : α} {text : List α}
    (absent : mark ∉ text) : piecesAt mark text = [text] := by
  induction text with
  | nil => rfl
  | cons unit rest induction =>
      rw [List.mem_cons, not_or] at absent
      rw [piecesAt, if_neg (Ne.symm absent.1), induction absent.2]

theorem mark_notMem_piecesAt {mark : α} {text piece : List α}
    (found : piece ∈ piecesAt mark text) : mark ∉ piece := by
  induction text generalizing piece with
  | nil =>
      obtain rfl : piece = [] := by simpa [piecesAt] using found
      exact List.not_mem_nil
  | cons unit rest induction =>
      rw [piecesAt] at found
      split at found
      · rcases List.mem_cons.mp found with rfl | found
        · exact List.not_mem_nil
        · exact induction found
      · next different =>
          cases pieces : piecesAt mark rest with
          | nil => exact absurd pieces (piecesAt_ne_nil mark rest)
          | cons first others =>
              rw [pieces] at found induction
              rcases List.mem_cons.mp found with rfl | found
              · rw [List.mem_cons, not_or]
                exact ⟨Ne.symm different, induction List.mem_cons_self⟩
              · exact induction (List.mem_cons_of_mem first found)

omit [DecidableEq α] in
/-- Joining pieces with a mark before each is joining them with the mark between them, after one
more mark. -/
theorem flatMap_mark {mark : α} {pieces : List (List α)} (some_piece : pieces ≠ []) :
    pieces.flatMap (mark :: ·) = mark :: List.intercalate [mark] pieces := by
  induction pieces with
  | nil => exact absurd rfl some_piece
  | cons piece rest induction =>
      cases rest with
      | nil => simp
      | cons next others =>
          rw [List.flatMap_cons, induction (List.cons_ne_nil next others),
            List.intercalate_cons_cons]
          simp

/-- Cutting pieces that were joined gives them back. -/
theorem piecesAt_intercalate {mark : α} {pieces : List (List α)}
    (some_piece : pieces ≠ []) (unmarked : ∀ piece ∈ pieces, mark ∉ piece) :
    piecesAt mark (List.intercalate [mark] pieces) = pieces := by
  induction pieces with
  | nil => exact absurd rfl some_piece
  | cons piece rest induction =>
      have piece_unmarked := unmarked piece List.mem_cons_self
      cases rest with
      | nil => rw [List.intercalate_singleton, piecesAt_of_notMem piece_unmarked]
      | cons next others =>
          have others_unmarked : ∀ other ∈ next :: others, mark ∉ other :=
            fun other found => unmarked other (List.mem_cons_of_mem piece found)
          rw [List.intercalate_cons_cons, List.append_assoc, List.singleton_append,
            piecesAt_append_cons, piecesAt_of_notMem piece_unmarked,
            induction (List.cons_ne_nil next others) others_unmarked]
          rfl

/-- Joining the pieces of a text gives it back. -/
theorem intercalate_piecesAt (mark : α) (text : List α) :
    List.intercalate [mark] (piecesAt mark text) = text := by
  induction text with
  | nil => rfl
  | cons unit rest induction =>
      rw [piecesAt]
      cases pieces : piecesAt mark rest with
      | nil => exact absurd pieces (piecesAt_ne_nil mark rest)
      | cons first others =>
          rw [pieces] at induction
          split
          · next same =>
              rw [List.intercalate_cons_cons, induction, same]
              rfl
          · cases others with
            | nil => simpa using induction
            | cons second others =>
                rw [List.intercalate_cons_cons] at induction ⊢
                rw [← induction]
                rfl

end LintBus

import LintBus.Diagnostic
import Mathlib.Data.List.Basic

/-!
# Order of places in a text

The places of a text stand in the order of their offsets: a line feed begins a later line, whether
or not a carriage return goes before it, and every other character moves on in its line.
-/

namespace LintBus

namespace Position

/-- The first place stands before the other in reading order. -/
def Before (first second : Position) : Prop :=
  first.line < second.line ∨ first.line = second.line ∧ first.column < second.column

private theorem Before.trans {first second third : Position} (one : first.Before second)
    (other : second.Before third) : first.Before third := by
  unfold Before at *
  omega

theorem advance_feed (position : Position) (rest : List Char) :
    position.advance ('\n' :: rest) = advance ⟨position.line + 1, 1⟩ rest := by
  rw [advance]

theorem advance_column (position : Position) {character : Char} {rest : List Char}
    (not_feed : character ≠ '\n') (not_pair : character = '\r' → rest.head? ≠ some '\n') :
    position.advance (character :: rest) =
      advance ⟨position.line, position.column + 1⟩ rest := by
  rw [advance]
  · rintro others rfl rfl
    exact not_pair rfl rfl
  · exact not_feed

/-- One more character leads to a later place. -/
theorem before_advance_append (position : Position) (text : List Char) (character : Char) :
    (position.advance text).Before (position.advance (text ++ [character])) := by
  fun_induction advance position text with
  | case1 position =>
      by_cases feed : character = '\n'
      · subst feed
        exact .inl (Nat.lt_succ_self _)
      · rw [List.nil_append, advance_column position feed (by simp)]
        exact .inr ⟨rfl, Nat.lt_succ_self _⟩
  | case2 position rest induction => exact induction
  | case3 position rest induction =>
      rw [List.cons_append, advance_feed]
      exact induction
  | case4 position head rest not_pair not_feed induction =>
      by_cases pair : head = '\r' ∧ (rest ++ [character]).head? = some '\n'
      · -- The line feed after a carriage return at the end makes them one line end.
        obtain ⟨rfl, feed⟩ := pair
        cases rest with
        | nil =>
            obtain rfl : character = '\n' := by simpa using feed
            exact .inl (Nat.lt_succ_self _)
        | cons second rest =>
            obtain rfl : second = '\n' := by simpa using feed
            exact absurd rfl (not_pair rest rfl)
      · rw [List.cons_append, advance_column position not_feed fun same next => pair ⟨same, next⟩]
        exact induction

private theorem before_ofOffset {text : List Char} {first second : Nat} (order : first < second)
    (within : second ≤ text.length) : (ofOffset text first).Before (ofOffset text second) := by
  induction second with
  | zero => simp at order
  | succ second induction =>
      have step : (ofOffset text second).Before (ofOffset text (second + 1)) := by
        rw [ofOffset, ofOffset, List.take_succ_eq_append_getElem (by omega)]
        exact before_advance_append start _ _
      by_cases last : first = second
      · exact last ▸ step
      · exact (induction (by omega) (by omega)).trans step

private theorem before_ofOffset_iff {text : List Char} {first second : Nat}
    (first_within : first ≤ text.length) (second_within : second ≤ text.length) :
    (ofOffset text first).Before (ofOffset text second) ↔ first < second := by
  refine ⟨fun before => ?_, fun order => before_ofOffset order second_within⟩
  by_contra not_less
  rcases Nat.lt_or_eq_of_le (Nat.le_of_not_lt not_less) with greater | same
  · have after := before_ofOffset greater first_within
    unfold Before at before after
    omega
  · subst same
    unfold Before at before
    omega

private theorem advance_le (position : Position) (text : List Char) :
    (position.advance text).line ≤ position.line + text.length ∧
      (position.advance text).column ≤ max 1 position.column + text.length := by
  fun_induction advance position text with
  | case1 position => exact ⟨Nat.le_refl _, Nat.le_max_right _ _⟩
  | case2 position rest induction | case3 position rest induction =>
      simp only [List.length_cons] at induction ⊢
      omega
  | case4 position head rest not_pair not_feed induction =>
      simp only [List.length_cons] at induction ⊢
      omega

private theorem ofOffset_le (text : List Char) (offset : Nat) :
    (ofOffset text offset).line ≤ text.length + 1 ∧
      (ofOffset text offset).column ≤ text.length + 1 := by
  have le := advance_le start (text.take offset)
  rw [List.length_take] at le
  simp only [start] at le
  rw [ofOffset, start]
  omega

end Position

namespace Location

/-- The first location stands before the other in reading order. -/
def Before (first second : Location) : Prop :=
  first.line < second.line ∨ first.line = second.line ∧ first.column < second.column

instance (first second : Location) : Decidable (first.Before second) :=
  inferInstanceAs (Decidable (_ ∨ _))

/-- The location of a character of the text. -/
abbrev ofOffset (text : List Char) (offset : Nat) : Location :=
  .ofPosition (.ofOffset text offset)

private theorem ofNat_lt {first second : Nat} (first_small : first ≤ 9223372036854775807)
    (second_small : second ≤ 9223372036854775807) :
    Int64.ofNat first < Int64.ofNat second ↔ first < second := by
  rw [Int64.lt_iff_toInt_lt, Int64.toInt_ofNat_of_lt (by omega),
    Int64.toInt_ofNat_of_lt (by omega)]
  omega

/-- Locations of a text whose places can be counted are in the order of their offsets. -/
theorem before_ofOffset_iff {text : List Char} (small : text.length < 9223372036854775807)
    {first second : Nat} (first_within : first ≤ text.length)
    (second_within : second ≤ text.length) :
    (ofOffset text first).Before (ofOffset text second) ↔ first < second := by
  rw [← Position.before_ofOffset_iff first_within second_within]
  obtain ⟨first_line, first_column⟩ := Position.ofOffset_le text first
  obtain ⟨second_line, second_column⟩ := Position.ofOffset_le text second
  have line_eq : (ofOffset text first).line = (ofOffset text second).line ↔
      (Position.ofOffset text first).line = (Position.ofOffset text second).line := by
    rw [ofOffset, ofOffset, ofPosition, ofPosition, ← Int64.toInt_inj,
      Int64.toInt_ofNat_of_lt (by omega), Int64.toInt_ofNat_of_lt (by omega)]
    omega
  rw [Before, Position.Before, line_eq]
  simp only [ofOffset, ofPosition]
  rw [ofNat_lt (by omega) (by omega), ofNat_lt (by omega) (by omega)]

end Location
end LintBus

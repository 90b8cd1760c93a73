import LintBus.Bus.ObjectPath
import LintBus.Proofs.Text.Pieces

/-!
# The grammar of object paths

A text is taken for an object path exactly if it is a slash alone, or one or more elements, each
with a slash before it and made of one or more ASCII letters, digits and underscores.
-/

namespace LintBus
namespace ObjectPath

/-- An ASCII letter or digit, or an underscore. -/
def IsElementLetter (unit : Char) : Prop :=
  ('A' ≤ unit ∧ unit ≤ 'Z') ∨ ('a' ≤ unit ∧ unit ≤ 'z') ∨ ('0' ≤ unit ∧ unit ≤ '9') ∨ unit = '_'

/-- A slash alone, or one or more elements with a slash before each. -/
def InGrammar (text : List Char) : Prop :=
  text = ['/'] ∨
    ∃ elements : List (List Char), elements ≠ [] ∧
      (∀ element ∈ elements, element ≠ [] ∧ ∀ unit ∈ element, IsElementLetter unit) ∧
      text = elements.flatMap ('/' :: ·)

private theorem isElementChar_iff {unit : Char} :
    isElementChar unit = true ↔ IsElementLetter unit := by
  have upper : unit.isUpper = true ↔ 'A' ≤ unit ∧ unit ≤ 'Z' := decide_eq_true_iff
  have lower : unit.isLower = true ↔ 'a' ≤ unit ∧ unit ≤ 'z' :=
    Bool.and_eq_true_iff.trans (and_congr decide_eq_true_iff decide_eq_true_iff)
  have digit : unit.isDigit = true ↔ '0' ≤ unit ∧ unit ≤ '9' :=
    Bool.and_eq_true_iff.trans (and_congr decide_eq_true_iff decide_eq_true_iff)
  change (((unit.isUpper || unit.isLower) || unit.isDigit) || unit == '_') = true ↔ _
  simp only [Bool.or_eq_true, upper, lower, digit, beq_iff_eq, or_assoc, IsElementLetter]

private theorem isElement_iff {element : List Char} :
    isElement element = true ↔ element ≠ [] ∧ ∀ unit ∈ element, IsElementLetter unit := by
  simp only [isElement, Bool.and_eq_true, Bool.not_eq_true', List.isEmpty_eq_false_iff,
    List.all_eq_true, isElementChar_iff, ne_eq]

private theorem slash_notMem_of_isElement {element : List Char} (valid : isElement element = true) :
    '/' ∉ element := by
  intro found
  have letter := isElementChar_iff.mpr ((isElement_iff.mp valid).2 '/' found)
  exact absurd letter (by decide)

/-- After a slash, the texts of one or more elements are those that are cut into elements at the
slashes. -/
theorem all_isElement_piecesAt (rest : List Char) :
    (∀ piece ∈ piecesAt '/' rest, isElement piece = true) ↔
      ∃ elements : List (List Char), elements ≠ [] ∧ (∀ element ∈ elements, isElement element) ∧
        '/' :: rest = elements.flatMap ('/' :: ·) := by
  constructor
  · intro valid
    have some_piece := piecesAt_ne_nil '/' rest
    refine ⟨piecesAt '/' rest, some_piece, valid, ?_⟩
    rw [flatMap_mark some_piece, intercalate_piecesAt]
  · rintro ⟨elements, some_element, valid, text_eq⟩
    rw [flatMap_mark some_element] at text_eq
    have unslashed : ∀ element ∈ elements, '/' ∉ element := fun element found =>
      slash_notMem_of_isElement (valid element found)
    rwa [(List.cons.inj text_eq).2, piecesAt_intercalate some_element unslashed]

private theorem InGrammar.slashed {text : List Char} (valid : InGrammar text) :
    ∃ rest, text = '/' :: rest := by
  rcases valid with rfl | ⟨elements, some_element, -, rfl⟩
  · exact ⟨[], rfl⟩
  · exact ⟨_, flatMap_mark some_element⟩

/-- The texts that are taken for object paths are those in the grammar. -/
theorem isValid_iff (path : String) : isValid path = true ↔ InGrammar path.toList := by
  unfold isValid
  cases text : path.toList with
  | nil =>
      refine iff_of_false (by simp) fun valid => ?_
      obtain ⟨rest, text_eq⟩ := valid.slashed
      cases text_eq
  | cons first rest =>
      by_cases slashed : first = '/'
      · subst slashed
        simp only [Bool.or_eq_true, List.isEmpty_iff, List.all_eq_true]
        rw [all_isElement_piecesAt]
        simp only [InGrammar, List.cons.injEq, true_and, isElement_iff]
      · refine iff_of_false (by simp [slashed]) fun valid => ?_
        obtain ⟨_, text_eq⟩ := valid.slashed
        exact slashed (List.cons.inj text_eq).1

end ObjectPath
end LintBus

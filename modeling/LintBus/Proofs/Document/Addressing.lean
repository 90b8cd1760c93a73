import LintBus.Bus.ObjectPath
import LintBus.Document.Addressing
import LintBus.Proofs.Text.Pieces
import Std.Data.String.ToNat

/-!
# Distinct addresses

The object path of a document determines the numbers of its session and of the document.  No
document is at the path of the service or at that of the placeholder.  When the path of the
service is an object path, so are those of all documents.
-/

namespace LintBus

namespace Addressing

private theorem repr_isDigit (number : Nat) : ∀ unit ∈ number.repr.toList, unit.isDigit := by
  intro unit found
  rw [Nat.toList_repr] at found
  exact Nat.isDigit_of_mem_toDigits (by decide) (by decide) found

private theorem documentObject_toList (addressing : Addressing) (session document : Nat) :
    (addressing.documentObject session document).toList =
      addressing.serviceObject.toList ++
        '/' :: (session.repr.toList ++ '/' :: ("documents/".toList ++ document.repr.toList)) := by
  simp [documentObject, toString, List.append_assoc]

private theorem placeholderObject_toList (addressing : Addressing) :
    addressing.placeholderObject.toList =
      addressing.serviceObject.toList ++ '/' :: ['d', 'o', 'c', 'u', 'm', 'e', 'n', 't'] := by
  simp [placeholderObject]

/-- A number in front of a slash can be read back. -/
private theorem repr_append_slash_inj {left right : Nat} {left_rest right_rest : List Char}
    (same : left.repr.toList ++ '/' :: left_rest = right.repr.toList ++ '/' :: right_rest) :
    left = right ∧ left_rest = right_rest := by
  have digits : left.repr.toList = right.repr.toList := by
    have taken := congrArg (List.takeWhile Char.isDigit) same
    rw [List.takeWhile_append_of_pos (repr_isDigit left),
      List.takeWhile_append_of_pos (repr_isDigit right)] at taken
    simpa using taken
  rw [digits] at same
  have rests := List.append_cancel_left same
  exact ⟨Nat.repr_injective (String.toList_inj.mp digits), (List.cons.inj rests).2⟩

/-- The object path of a document determines both numbers. -/
theorem documentObject_inj (addressing : Addressing) {session document session' document' : Nat} :
    addressing.documentObject session document = addressing.documentObject session' document' ↔
      session = session' ∧ document = document' := by
  constructor
  · intro same
    have texts := congrArg String.toList same
    rw [documentObject_toList, documentObject_toList] at texts
    have tails := (List.cons.inj (List.append_cancel_left texts)).2
    obtain ⟨sessions, rests⟩ := repr_append_slash_inj tails
    have documents := String.toList_inj.mp (List.append_cancel_left rests)
    exact ⟨sessions, Nat.repr_injective documents⟩
  · rintro ⟨rfl, rfl⟩
    rfl

theorem documentObject_ne_serviceObject (addressing : Addressing) (session document : Nat) :
    addressing.documentObject session document ≠ addressing.serviceObject := by
  intro same
  have lengths := congrArg (fun text => text.toList.length) same
  simp only [documentObject_toList, List.length_append, List.length_cons] at lengths
  omega

theorem placeholderObject_ne_serviceObject (addressing : Addressing) :
    addressing.placeholderObject ≠ addressing.serviceObject := by
  intro same
  have lengths := congrArg (fun text => text.toList.length) same
  simp [placeholderObject_toList] at lengths

theorem documentObject_ne_placeholderObject (addressing : Addressing) (session document : Nat) :
    addressing.documentObject session document ≠ addressing.placeholderObject := by
  intro same
  have texts := congrArg String.toList same
  rw [documentObject_toList, placeholderObject_toList] at texts
  have tails := (List.cons.inj (List.append_cancel_left texts)).2
  cases digits : session.repr.toList with
  | nil => exact Nat.repr_ne_empty (String.toList_eq_nil_iff.mp digits)
  | cons first rest =>
      rw [digits] at tails
      have first_eq : first = 'd' := (List.cons.inj tails).1
      have first_digit := repr_isDigit session first (by simp [digits])
      subst first_eq
      exact absurd first_digit (by decide)

private theorem repr_isElement (number : Nat) : ObjectPath.isElement number.repr.toList = true := by
  have digits : ∀ unit ∈ number.repr.toList, ObjectPath.isElementChar unit = true := by
    intro unit found
    have digit := repr_isDigit number unit found
    simp [ObjectPath.isElementChar, Char.isAlphanum, digit]
  rw [ObjectPath.isElement, Bool.and_eq_true, List.all_eq_true]
  exact ⟨by simp, digits⟩

private theorem piecesAt_repr (number : Nat) :
    piecesAt '/' number.repr.toList = [number.repr.toList] := by
  refine piecesAt_of_notMem fun found => ?_
  exact absurd (repr_isDigit number '/' found) (by decide)

/-- When the path of the service is an object path, so are those of documents. -/
theorem documentObject_isValid {addressing : Addressing}
    (valid : ObjectPath.isValid addressing.serviceObject = true) (session document : Nat) :
    ObjectPath.isValid (addressing.documentObject session document) = true := by
  have root : ∃ rest, addressing.serviceObject.toList = '/' :: 'o' :: rest :=
    ⟨_, by simp [serviceObject, objectRoot]; rfl⟩
  obtain ⟨rest, service_eq⟩ := root
  have elements : (piecesAt '/' ('o' :: rest)).all ObjectPath.isElement = true := by
    simpa [ObjectPath.isValid, service_eq] using valid
  have words : piecesAt '/' ("documents/".toList ++ document.repr.toList) =
      ["documents".toList, document.repr.toList] := by
    have cut := piecesAt_append_cons '/' "documents".toList document.repr.toList
    rw [piecesAt_repr] at cut
    exact cut
  have pieces : piecesAt '/' ('o' :: rest ++ '/' :: (session.repr.toList ++
      '/' :: ("documents/".toList ++ document.repr.toList))) =
        piecesAt '/' ('o' :: rest) ++
          [session.repr.toList, "documents".toList, document.repr.toList] := by
    rw [piecesAt_append_cons, piecesAt_append_cons, piecesAt_repr, words]
    rfl
  have word : ObjectPath.isElement "documents".toList = true := by decide
  rw [ObjectPath.isValid, documentObject_toList, service_eq]
  change (_ || (piecesAt '/' ('o' :: rest ++ _)).all ObjectPath.isElement) = true
  rw [pieces, List.all_append, elements]
  simp only [List.all_cons, List.all_nil, repr_isElement, word, Bool.and_true, Bool.or_true]

end Addressing
end LintBus

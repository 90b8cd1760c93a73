import LintBus.Bus.Call
import LintBus.Proofs.Signature.Conformance

/-!
# Decoders that suit types

A decoder suits a type when it succeeds exactly on the values that fit the type; texts, integers,
locations, lists and options have such decoders.  Decoding a row of arguments one after the other,
with none left over at the end, succeeds exactly when as many arguments as there are types fit them
one by one.
-/

namespace LintBus

namespace Signature

open Json (Value)

private theorem fits_string {value : Value} :
    Fits .string value ↔ ∃ text, value = .string text := by
  rw [fits_iff_conforms]
  constructor
  · intro conforms
    cases conforms with
    | string text => exact ⟨text, rfl⟩
    | integer bounds => nomatch bounds
  · rintro ⟨text, rfl⟩
    exact .string text

private theorem fits_int64 {value : Value} :
    Fits .int64 value ↔ ∃ number : Int, value = .ofInt number ∧
      -9223372036854775808 ≤ number ∧ number ≤ 9223372036854775807 := by
  rw [fits_iff_conforms]
  constructor
  · intro conforms
    cases conforms with
    | integer bounds above below =>
        obtain ⟨rfl, rfl⟩ := Prod.mk.inj (Option.some.inj bounds)
        exact ⟨_, rfl, above, below⟩
  · rintro ⟨number, rfl, least, greatest⟩
    exact .integer rfl least greatest

private theorem fits_array {item : Ty} {value : Value} :
    Fits (.array item) value ↔ ∃ items, value = .array items ∧ ∀ held ∈ items, Fits item held := by
  constructor
  · intro fits
    cases fits_iff_conforms.mp fits with
    | array each => exact ⟨_, rfl, fun held found => (each held found).fits⟩
    | integer bounds => nomatch bounds
  · rintro ⟨items, rfl, fits⟩
    exact .array fits

private theorem fits_struct {fields : List Ty} {value : Value} :
    Fits (.struct fields) value ↔
      ∃ items, value = .array items ∧ List.Forall₂ Fits fields items := by
  constructor
  · intro fits
    cases fits_iff_conforms.mp fits with
    | struct length_eq each =>
        refine ⟨_, rfl, List.forall₂_iff_zip.mpr ⟨length_eq, fun found => ?_⟩⟩
        exact (each _ found).fits
    | integer bounds => nomatch bounds
  · rintro ⟨items, rfl, fits⟩
    exact .struct fits

private theorem fits_options {value : Value} :
    Fits (.dict .string .variant) value ↔ ∃ entries, value = .object entries := by
  rw [fits_iff_conforms]
  constructor
  · intro conforms
    cases conforms with
    | dict textual names values => exact ⟨_, rfl⟩
    | integer bounds => nomatch bounds
  · rintro ⟨entries, rfl⟩
    exact .dict (.inl rfl) (fun _ _ => trivial) fun _ _ => .variant _

end Signature

open Json (Decoder DecodeError Value)
open Signature (Fits)

namespace Json.Decoder

variable {α β : Type}

/-- A decoder succeeds exactly on the values that fit a type. -/
def Suits (decode : Decoder α) (ty : Ty) : Prop :=
  ∀ value, (∃ given, decode value = .ok given) ↔ Fits ty value

/-- A result is there exactly when values fit some types one by one. -/
def SuitsRow (result : Except DecodeError α) (types : List Ty) (values : List Value) : Prop :=
  (∃ given, result = .ok given) ↔ List.Forall₂ Fits types values

theorem suits_string : Suits Decoder.string .string := by
  intro value
  rw [Signature.fits_string]
  cases value with
  | string text => simp [Decoder.string]
  | _ => simp [Decoder.string]

theorem suits_int64 : Suits Decoder.int64 .int64 := by
  intro value
  rw [Signature.fits_int64]
  cases value with
  | number number =>
      cases number with
      | integer number =>
          simp only [Decoder.int64, Value.ofInt, Value.number.injEq, Number.integer.injEq,
            exists_eq_left']
          split
          · next within => simp [within]
          · next beyond => simp [beyond]
      | float number => simp [Decoder.int64, Value.ofInt]
  | _ => simp [Decoder.int64, Value.ofInt]

theorem suits_entries : Suits Decoder.entries (.dict .string .variant) := by
  intro value
  rw [Signature.fits_options]
  cases value with
  | object entries => simp [Decoder.entries]
  | _ => simp [Decoder.entries]

/-- The last element of a row has been decoded, and there is no other one. -/
theorem SuitsRow.last (given : α) (values : List Value) (size : Nat) :
    SuitsRow (noMore values size >>= fun _ => .ok given) [] (values.drop size) := by
  rw [SuitsRow, List.forall₂_nil_left_iff, List.drop_eq_nil_iff, noMore]
  split
  · next within => exact ⟨fun _ => within, fun _ => ⟨given, rfl⟩⟩
  · next beyond =>
      refine ⟨?_, fun within => absurd within beyond⟩
      rintro ⟨given, outcome⟩
      simp [bind, Except.bind] at outcome

/-- The next element of a row is decoded before the others. -/
theorem SuitsRow.next {decode : Decoder α} {ty : Ty} {types : List Ty} {values : List Value}
    {length : ExpectedLength} {index : Nat} {others : α → Except DecodeError β}
    (first : decode.Suits ty)
    (rest : ∀ given, SuitsRow (others given) types (values.drop (index + 1))) :
    SuitsRow (element decode length values index >>= others) (ty :: types)
      (values.drop index) := by
  rw [SuitsRow, element]
  cases found : values[index]? with
  | none =>
      rw [List.drop_eq_nil_iff.mpr (List.getElem?_eq_none_iff.mp found)]
      constructor
      · rintro ⟨given, outcome⟩
        simp [bind, Except.bind] at outcome
      · intro fits
        cases fits
  | some value =>
      obtain ⟨within, value_eq⟩ := List.getElem?_eq_some_iff.mp found
      rw [List.drop_eq_getElem_cons within, value_eq, List.forall₂_cons, ← first value]
      dsimp only
      cases outcome : decode value with
      | error error => simp [bind, Except.bind]
      | ok given =>
          have others_suit := rest given
          rw [SuitsRow] at others_suit
          simpa [bind, Except.bind] using others_suit

theorem Suits.list {decode : Decoder α} {item : Ty} (suits : decode.Suits item) :
    (Decoder.list decode).Suits (.array item) := by
  intro value
  rw [Signature.fits_array]
  cases value with
  | array items =>
      simp only [Decoder.list, Value.array.injEq, exists_eq_left']
      induction items with
      | nil => simp [pure, Except.pure]
      | cons first rest induction =>
          rw [List.mapM_cons, List.forall_mem_cons, ← induction, ← suits first]
          cases decode first with
          | error error => simp [bind, Except.bind]
          | ok given =>
              cases rest.mapM decode with
              | error error => simp [bind, Except.bind]
              | ok others => simp [bind, Except.bind, pure, Except.pure]
  | _ => simp [Decoder.list]

theorem Suits.pair {first : Decoder α} {second : Decoder β} {left right : Ty}
    (first_suits : first.Suits left) (second_suits : second.Suits right) :
    (Decoder.pair first second).Suits (.struct [left, right]) := by
  intro value
  rw [Signature.fits_struct]
  cases value with
  | array items =>
      simp only [Decoder.pair, Value.array.injEq, exists_eq_left']
      change SuitsRow _ [left, right] (items.drop 0)
      exact .next first_suits fun one => .next second_suits fun other => .last (one, other) items 2
  | _ => simp [Decoder.pair]

private theorem Suits.map {decode : Decoder α} {ty : Ty} (suits : decode.Suits ty)
    (change : α → β) :
    Suits (fun value => (decode value).map change) ty := by
  intro value
  rw [← suits value]
  dsimp only
  cases decode value with
  | error error => simp [Except.map]
  | ok given => simp [Except.map]

end Json.Decoder

/-- Locations are written as pairs of integers. -/
theorem Location.suits_decode : Location.decode.Suits Location.ty :=
  (Decoder.suits_int64.pair Decoder.suits_int64).map _

end LintBus

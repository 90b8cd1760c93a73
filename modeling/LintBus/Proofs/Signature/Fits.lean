import LintBus.Bus.Method
import LintBus.Diagnostic
import LintBus.Signature.Check
import Mathlib.Data.List.Forall2

/-!
# Values that fit

A value fits a type when it passes the check wherever it stands in a body.  Arrays fit by their
items and structures by their fields, and so do the wire forms of diagnostics.
-/

namespace LintBus

namespace Signature

open Json (Value)

/-- The value passes the check against a type, wherever it stands. -/
def Fits (ty : Ty) (value : Value) : Prop := ∀ access, checkTy access ty value = .ok ()

private theorem checkEach_ok {α : Type} {check : Nat → α → Except Mismatch Unit} {values : List α}
    (fits : ∀ index, ∀ value ∈ values, check index value = .ok ()) (start : Nat) :
    checkEach check start values = .ok () := by
  induction values generalizing start with
  | nil => rfl
  | cons value rest induction =>
      have first := fits start value List.mem_cons_self
      simp only [checkEach, first]
      exact induction (fun index value found => fits index value (List.mem_cons_of_mem _ found)) _

private theorem checkFields_ok {types : List Ty} {values : List Value}
    (fits : List.Forall₂ Fits types values) (access : Access) (start : Nat) :
    checkFields access start types values = .ok () := by
  induction fits generalizing start with
  | nil => simp [checkFields]
  | cons first _ induction =>
      rw [checkFields, first]
      exact induction _

theorem checkBody_ok {types : List Ty} {values : List Value}
    (fits : List.Forall₂ Fits types values) (start : Nat) :
    checkBody start types values = .ok () := by
  induction fits generalizing start with
  | nil => simp [checkBody]
  | cons first _ induction =>
      rw [checkBody, first]
      exact induction _

theorem Fits.array {item : Ty} {items : List Value} (fits : ∀ value ∈ items, Fits item value) :
    Fits (.array item) (.array items) := by
  intro access
  rw [checkTy]
  exact checkEach_ok (fun index value found => fits value found _) 0

theorem Fits.dict {key item : Ty} {entries : List (String × Value)}
    (textual : key = .string ∨ key = .objectPath) (fits : ∀ entry ∈ entries, Fits item entry.2) :
    Fits (.dict key item) (.object entries) := by
  have keyed : isKeyType key = true := by
    rcases textual with rfl | rfl <;> rfl
  intro access
  rw [checkTy, if_pos keyed]
  exact checkEach_ok (fun _ entry found => fits entry found _) 0

theorem Fits.struct {fields : List Ty} {items : List Value}
    (fits : List.Forall₂ Fits fields items) : Fits (.struct fields) (.array items) := by
  intro access
  rw [checkTy, if_pos fits.length_eq.symm]
  exact checkFields_ok fits access 0

theorem fits_of_fitsSimple {ty : Ty} {value : Value} (simple : fitsSimple ty value = true) :
    Fits ty value := by
  intro access
  unfold checkTy
  split
  · simp [fitsSimple] at simple
  · simp [fitsSimple] at simple
  · simp [fitsSimple] at simple
  · rw [if_pos simple]

theorem Fits.string (text : String) : Fits .string (.string text) :=
  fits_of_fitsSimple rfl

theorem Fits.objectPath {text : String} (valid : ObjectPath.isValid text = true) :
    Fits .objectPath (.string text) :=
  fits_of_fitsSimple valid

private theorem Fits.int64 (value : Int64) : Fits .int64 (.ofInt value.toInt) := by
  refine fits_of_fitsSimple ?_
  have least := value.le_toInt
  have greatest := value.toInt_lt
  simp [fitsSimple, Value.ofInt, isIntegerIn]
  omega

private theorem Fits.severity (severity : Severity) : Fits .uint32 (.ofNat severity.code) :=
  fits_of_fitsSimple (by cases severity <;> rfl)

/-- A body fits the signature with a text when its values fit the types of the signature. -/
theorem checkText_ok {text : String} {signature : Signature} {body : List Value}
    (read : parse text = .ok signature) (fits : List.Forall₂ Fits signature.types body) :
    checkText text body = .ok () := by
  simp only [checkText, read, check, fits.length_eq, ne_eq, not_true_eq_false, if_false,
    checkBody_ok fits]

end Signature

open Signature (Fits)

/-- The type `(xx)` of locations. -/
def Location.ty : Ty := .struct [.int64, .int64]

private theorem Location.fits (location : Location) : Fits ty location.toValue :=
  .struct (.cons (.int64 _) (.cons (.int64 _) .nil))

/-- The type `(x(xx)(xx))` of ranges. -/
def Range.ty : Ty := .struct [.int64, Location.ty, Location.ty]

private theorem Range.fits (range : Range) : Fits ty range.toValue :=
  .struct (.cons (.int64 _) (.cons range.start.fits (.cons range.stop.fits .nil)))

/-- The type `((x(xx)(xx))s)` of fixits. -/
def Fixit.ty : Ty := .struct [Range.ty, .string]

private theorem Fixit.fits (fixit : Fixit) : Fits ty fixit.toValue :=
  .struct (.cons fixit.range.fits (.cons (.string _) .nil))

/-- The type `(ua((x(xx)(xx))s)a(x(xx)(xx))s)` of diagnostics. -/
def Diagnostic.ty : Ty := .struct [.uint32, .array Fixit.ty, .array Range.ty, .string]

private theorem Diagnostic.fits (diagnostic : Diagnostic) : Fits ty diagnostic.toValue := by
  have fixits : Fits (.array Fixit.ty) (.array (diagnostic.fixits.map Fixit.toValue)) :=
    .array (List.forall_mem_map.mpr fun fixit _ => fixit.fits)
  have locations : Fits (.array Range.ty) (.array (diagnostic.locations.map Range.toValue)) :=
    .array (List.forall_mem_map.mpr fun range _ => range.fits)
  exact .struct (.cons (.severity _) (.cons fixits (.cons locations (.cons (.string _) .nil))))

theorem Diagnostic.list_fits (diagnostics : List Diagnostic) :
    Fits (.array ty) (listToValue diagnostics) :=
  .array (List.forall_mem_map.mpr fun diagnostic _ => diagnostic.fits)

/-- A list of diagnostics fits the signature of the method that reads them. -/
theorem checkText_diagnostics (diagnostics : List Diagnostic) :
    Signature.checkText Method.diagnostics.outputSignature [Diagnostic.listToValue diagnostics] =
      .ok () := by
  have read : Signature.parse Method.diagnostics.outputSignature =
      .ok ⟨"a(ua((x(xx)(xx))s)a(x(xx)(xx))s)", [.array Diagnostic.ty]⟩ := by rfl
  exact Signature.checkText_ok read (.cons (Diagnostic.list_fits diagnostics) .nil)

end LintBus

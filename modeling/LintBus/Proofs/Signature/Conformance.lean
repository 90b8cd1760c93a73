import LintBus.Proofs.Signature.Fits

/-!
# Values that conform

A value conforms to a type when it is of its kind and within its bounds, and when all of its parts
conform to the parts of the type.  A body passes the check against a signature exactly when its
values conform one by one, but for the names of dictionary entries: a name that stands where an
object path is declared may be any text.
-/

namespace LintBus

open Json (Number Value)

namespace Ty

/-- The least and the greatest integer of an integer type. -/
def bounds? : Ty → Option (Int × Int)
  | .byte => some (0, 255)
  | .int16 => some (-32768, 32767)
  | .uint16 => some (0, 65535)
  | .int32 => some (-2147483648, 2147483647)
  | .uint32 => some (0, 4294967295)
  | .int64 => some (-9223372036854775808, 9223372036854775807)
  | .uint64 => some (0, 18446744073709551615)
  | _ => none

/-- The name of a dictionary entry is of the type of the keys, as far as a text can be. -/
def Names : Ty → String → Prop
  | .objectPath, name => ObjectPath.isValid name = true
  | _, _ => True

end Ty

namespace Signature

/-- The value is of the type at every depth, when a name may stand for a key of a type as
`named` says. -/
inductive Conforms (named : Ty → String → Prop) : Ty → Value → Prop
  | boolean (value : Bool) : Conforms named .boolean (.boolean value)
  | integer {ty : Ty} {least greatest number : Int}
      (bounds : ty.bounds? = some (least, greatest)) (above : least ≤ number)
      (below : number ≤ greatest) : Conforms named ty (.ofInt number)
  | double (number : Number) : Conforms named .double (.number number)
  | string (text : String) : Conforms named .string (.string text)
  | objectPath {text : String} (valid : ObjectPath.isValid text = true) :
      Conforms named .objectPath (.string text)
  | signature {text : String} {signature : Signature} (read : parse text = .ok signature) :
      Conforms named .signature (.string text)
  | variant (value : Value) : Conforms named .variant value
  | array {item : Ty} {items : List Value} (each : ∀ value ∈ items, Conforms named item value) :
      Conforms named (.array item) (.array items)
  | dict {key item : Ty} {entries : List (String × Value)}
      (textual : key = .string ∨ key = .objectPath)
      (names : ∀ entry ∈ entries, named key entry.1)
      (values : ∀ entry ∈ entries, Conforms named item entry.2) :
      Conforms named (.dict key item) (.object entries)
  | struct {fields : List Ty} {items : List Value} (length_eq : fields.length = items.length)
      (each : ∀ field ∈ fields.zip items, Conforms named field.1 field.2) :
      Conforms named (.struct fields) (.array items)

/-- A name stands for a key of a type somewhere in a value of a type. -/
inductive HasKey (key : Ty) (name : String) : Ty → Value → Prop
  | here {item value : _} {entries : List (String × Value)} (found : (name, value) ∈ entries) :
      HasKey key name (.dict key item) (.object entries)
  | value {other item : Ty} {entries : List (String × Value)} {entry : String × Value}
      (found : entry ∈ entries) (inside : HasKey key name item entry.2) :
      HasKey key name (.dict other item) (.object entries)
  | item {item : Ty} {items : List Value} {value : Value} (found : value ∈ items)
      (inside : HasKey key name item value) : HasKey key name (.array item) (.array items)
  | field {fields : List Ty} {items : List Value} {field : Ty × Value}
      (found : field ∈ fields.zip items) (inside : HasKey key name field.1 field.2) :
      HasKey key name (.struct fields) (.array items)

namespace Conforms

variable {named asked : Ty → String → Prop} {ty : Ty} {value : Value}

private theorem names (conforms : Conforms named ty value) {key : Ty} {name : String}
    (inside : HasKey key name ty value) : named key name := by
  induction inside with
  | here found =>
      cases conforms with
      | dict textual names values => exact names _ found
  | value found inside induction =>
      cases conforms with
      | dict textual names values => exact induction (values _ found)
  | item found inside induction =>
      cases conforms with
      | array each => exact induction (each _ found)
  | field found inside induction =>
      cases conforms with
      | struct length_eq each => exact induction (each _ found)

private theorem renamed (conforms : Conforms named ty value)
    (met : ∀ key name, HasKey key name ty value → asked key name) : Conforms asked ty value := by
  induction conforms with
  | boolean value => exact .boolean value
  | integer bounds above below => exact .integer bounds above below
  | double number => exact .double number
  | string text => exact .string text
  | objectPath valid => exact .objectPath valid
  | signature read => exact .signature read
  | variant value => exact .variant value
  | array each induction =>
      exact .array fun value found =>
        induction value found fun key name inside => met key name (.item found inside)
  | dict textual names values induction =>
      exact .dict textual (fun entry found => met _ _ (.here found)) fun entry found =>
        induction entry found fun key name inside => met key name (.value found inside)
  | struct length_eq each induction =>
      exact .struct length_eq fun field found =>
        induction field found fun key name inside => met key name (.field found inside)

private theorem iff_names : Conforms asked ty value ↔
    Conforms (fun _ _ => True) ty value ∧ ∀ key name, HasKey key name ty value → asked key name :=
  ⟨fun conforms => ⟨conforms.renamed fun _ _ _ => trivial, fun _ _ => conforms.names⟩,
    fun ⟨conforms, met⟩ => conforms.renamed met⟩

end Conforms

private theorem isIntegerIn_iff {least greatest : Int} {value : Value} :
    isIntegerIn least greatest value = true ↔
      ∃ number, value = .ofInt number ∧ least ≤ number ∧ number ≤ greatest := by
  unfold isIntegerIn
  split
  · next number => simp [Value.ofInt]
  · next other =>
      refine ⟨by simp, ?_⟩
      rintro ⟨number, rfl, -⟩
      exact absurd rfl (other number)

private theorem fitsSimple_integer {ty : Ty} {least greatest : Int}
    (bounds : ty.bounds? = some (least, greatest)) (value : Value) :
    fitsSimple ty value = isIntegerIn least greatest value := by
  cases ty with
  | byte | int16 | uint16 | int32 | uint32 | int64 | uint64 =>
    obtain ⟨rfl, rfl⟩ := Prod.mk.inj (Option.some.inj bounds)
    rfl
  | _ => simp [Ty.bounds?] at bounds

private theorem isOk_readTypes {text : String} :
    (readTypes text.toList).isOk = true ↔ ∃ signature, parse text = .ok signature := by
  rw [parse]
  cases readTypes text.toList with
  | error flaw => simp [Except.isOk, Except.toBool]
  | ok types => simp [Except.isOk, Except.toBool]

private theorem conforms_of_isIntegerIn {named : Ty → String → Prop} {ty : Ty}
    {least greatest : Int}
    {value : Value} (bounds : ty.bounds? = some (least, greatest))
    (within : isIntegerIn least greatest value = true) : Conforms named ty value := by
  obtain ⟨number, rfl, above, below⟩ := isIntegerIn_iff.mp within
  exact .integer bounds above below

/-- What fits a type without parts conforms to it. -/
theorem conforms_of_fitsSimple {named : Ty → String → Prop} {ty : Ty} {value : Value}
    (fits : fitsSimple ty value = true) : Conforms named ty value := by
  unfold fitsSimple at fits
  split at fits
  case h_1 => exact .boolean _
  case h_2 | h_3 | h_4 | h_5 | h_6 | h_7 | h_8 => exact conforms_of_isIntegerIn rfl fits
  case h_9 => exact .double _
  case h_10 => exact .string _
  case h_11 => exact .objectPath fits
  case h_12 =>
    obtain ⟨signature, read⟩ := isOk_readTypes.mp fits
    exact .signature read
  case h_13 => exact .variant _
  case h_14 => simp at fits

theorem textual_of_isKeyType {key : Ty} (keyed : isKeyType key = true) :
    key = .string ∨ key = .objectPath := by
  unfold isKeyType at keyed
  split at keyed
  · exact .inl rfl
  · exact .inr rfl
  · simp at keyed

private theorem mem_of_checkEach {α : Type} {check : Nat → α → Except Mismatch Unit}
    {values : List α}
    {start : Nat} (checked : checkEach check start values = .ok ()) :
    ∀ value ∈ values, ∃ index, check index value = .ok () := by
  induction values generalizing start with
  | nil => simp
  | cons value rest induction =>
      simp only [checkEach] at checked
      split at checked
      · simp at checked
      · next first => exact List.forall_mem_cons.mpr ⟨⟨start, first⟩, induction checked⟩

mutual

/-- A value that passes the check conforms, names apart. -/
theorem conforms_of_checkTy {access : Access} {ty : Ty} {value : Value}
    (checked : checkTy access ty value = .ok ()) : Conforms (fun _ _ => True) ty value := by
  unfold checkTy at checked
  split at checked
  · next item items =>
      refine .array fun held found => ?_
      obtain ⟨index, checked⟩ := mem_of_checkEach checked held found
      exact conforms_of_checkTy checked
  · next key item entries =>
      split at checked
      · next keyed =>
          refine .dict (textual_of_isKeyType keyed) (fun _ _ => trivial) fun entry found => ?_
          obtain ⟨-, checked⟩ := mem_of_checkEach checked entry found
          exact conforms_of_checkTy checked
      · simp at checked
  · next fields items =>
      split at checked
      · next length_eq => exact .struct length_eq.symm (conforms_of_checkFields checked)
      · simp at checked
  · split at checked
    · next fits => exact conforms_of_fitsSimple fits
    · simp at checked

private theorem conforms_of_checkFields {access : Access} {start : Nat} :
    ∀ {types : List Ty} {values : List Value}, checkFields access start types values = .ok () →
      ∀ field ∈ types.zip values, Conforms (fun _ _ => True) field.1 field.2
  | [], _, _, field, found => by simp at found
  | _ :: _, [], _, field, found => by simp at found
  | ty :: types, value :: values, checked, field, found => by
      rw [checkFields] at checked
      split at checked
      · simp at checked
      · next first =>
          rw [List.zip_cons_cons, List.mem_cons] at found
          rcases found with rfl | found
          · exact conforms_of_checkTy first
          · exact conforms_of_checkFields checked field found

end

/-- A value that conforms passes the check wherever it stands. -/
theorem Conforms.fits {named : Ty → String → Prop} {ty : Ty} {value : Value}
    (conforms : Conforms named ty value) : Fits ty value := by
  induction conforms with
  | boolean value => exact fits_of_fitsSimple rfl
  | integer bounds above below =>
      refine fits_of_fitsSimple ?_
      rw [fitsSimple_integer bounds, isIntegerIn_iff]
      exact ⟨_, rfl, above, below⟩
  | double number => exact fits_of_fitsSimple rfl
  | string text => exact .string text
  | objectPath valid => exact .objectPath valid
  | signature read => exact fits_of_fitsSimple (isOk_readTypes.mpr ⟨_, read⟩)
  | variant value => exact fits_of_fitsSimple (by simp [fitsSimple])
  | array each induction => exact .array induction
  | dict textual names values induction => exact .dict textual induction
  | struct length_eq each induction =>
      exact .struct (List.forall₂_iff_zip.mpr ⟨length_eq, fun found => induction _ found⟩)

theorem fits_iff_conforms {ty : Ty} {value : Value} :
    Fits ty value ↔ Conforms (fun _ _ => True) ty value :=
  ⟨fun fits => conforms_of_checkTy (fits ⟨0, []⟩), Conforms.fits⟩

private theorem forall₂_fits_of_checkBody {start : Nat} {types : List Ty} {values : List Value}
    (length_eq : types.length = values.length)
    (checked : checkBody start types values = .ok ()) : List.Forall₂ Fits types values := by
  induction types generalizing start values with
  | nil =>
      obtain rfl := List.eq_nil_of_length_eq_zero length_eq.symm
      exact .nil
  | cons ty types induction =>
      cases values with
      | nil => simp at length_eq
      | cons value values =>
          rw [checkBody] at checked
          split at checked
          · simp at checked
          · next first =>
              exact .cons (conforms_of_checkTy first).fits
                (induction (Nat.succ.inj length_eq) checked)

/-- A body passes the check exactly when its values fit the types of the signature one by one. -/
theorem check_eq_ok {signature : Signature} {body : List Value} :
    signature.check body = .ok () ↔ List.Forall₂ Fits signature.types body := by
  constructor
  · intro checked
    rw [check] at checked
    split at checked
    · simp at checked
    · next length_eq =>
        rw [not_not] at length_eq
        split at checked
        · simp at checked
        · next passed => exact forall₂_fits_of_checkBody length_eq.symm passed
  · intro fits
    rw [check, if_neg (not_not.mpr fits.length_eq.symm), checkBody_ok fits]

private theorem names_iff {ty : Ty} {value : Value} :
    (∀ key name, HasKey key name ty value → key.Names name) ↔
      ∀ name, HasKey .objectPath name ty value → ObjectPath.isValid name = true := by
  refine ⟨fun met name inside => met .objectPath name inside, fun valid key name inside => ?_⟩
  cases key with
  | objectPath => exact valid name inside
  | _ => trivial

/-- For every signature and every body: the body passes the check exactly when it has as many values
as the signature has types and they conform one by one at every depth, if any name will do for the
key of a dictionary.  They conform with names that are of the type of the keys exactly when the body
passes the check and all names that stand for object paths are object paths. -/
theorem check_conforms (signature : Signature) (body : List Value) :
    (signature.check body = .ok () ↔
      List.Forall₂ (Conforms fun _ _ => True) signature.types body) ∧
    (List.Forall₂ (Conforms Ty.Names) signature.types body ↔
      signature.check body = .ok () ∧ ∀ argument ∈ signature.types.zip body, ∀ name,
        HasKey .objectPath name argument.1 argument.2 → ObjectPath.isValid name = true) := by
  have passes : signature.check body = .ok () ↔
      List.Forall₂ (Conforms fun _ _ => True) signature.types body := by
    rw [check_eq_ok, show Fits = _ from funext₂ fun _ _ => propext fits_iff_conforms]
  refine ⟨passes, ?_⟩
  simp only [passes, List.forall₂_iff_zip, @Conforms.iff_names Ty.Names, names_iff, Prod.forall,
    and_assoc]
  refine and_congr_right fun _ => ?_
  simp only [imp_and, forall_and]

theorem check_conforms_nested :
    let body : List Value :=
      [.object [("sizes", .object [("/org/a", .ofInt 255), ("/", .ofInt 0)])]]
    ∃ signature, parse "a\x7bsa\x7boy\x7d\x7d" = .ok signature ∧ signature.check body = .ok () ∧
      List.Forall₂ (Conforms Ty.Names) signature.types body := by
  intro body
  let signature : Signature :=
    ⟨"a\x7bsa\x7boy\x7d\x7d", [.dict .string (.dict .objectPath .byte)]⟩
  have passes : signature.check body = .ok () := by rfl
  refine ⟨signature, by rfl, passes, (check_conforms signature body).2.mpr ⟨passes, ?_⟩⟩
  intro argument found name inside
  obtain rfl := List.mem_singleton.mp found
  cases inside with
  | value found inside =>
      obtain rfl := List.mem_singleton.mp found
      cases inside with
      | here found =>
          simp only [List.mem_cons, Prod.mk.injEq, List.not_mem_nil, or_false] at found
          rcases found with ⟨rfl, -⟩ | ⟨rfl, -⟩
          · decide
          · decide
      | value found inside => cases inside

/-- A text that is no object path passes the check as a key although object paths are declared. -/
theorem check_lax_key :
    ∃ signature body, parse "a\x7bov\x7d" = .ok signature ∧ signature.check body = .ok () ∧
      ¬ List.Forall₂ (Conforms Ty.Names) signature.types body := by
  refine ⟨⟨"a\x7bov\x7d", [.dict .objectPath .variant]⟩, [.object [("no path", .null)]], by rfl,
    by rfl, fun conforms => ?_⟩
  obtain ⟨first, -⟩ := List.forall₂_cons.mp conforms
  have valid : ObjectPath.isValid "no path" = true := first.names (.here (.head _))
  exact absurd valid (by decide)

end Signature
end LintBus

import LintBus.Proofs.Signature.Conformance

/-!
# The wire form of diagnostics

The wire form of a list of diagnostics is read back by a decoder that accepts wire forms only, so
nothing is lost: lists with the same wire form are equal.
-/

namespace LintBus

open Json (Value)

/-- An integer of 64 bits with a sign, as a value. -/
def int64OfValue? : Value → Option Int64
  | .number (.integer number) =>
      if -9223372036854775808 ≤ number ∧ number ≤ 9223372036854775807 then some (.ofInt number)
      else none
  | _ => none

/-- The severity with a number on the wire. -/
def Severity.ofValue? : Value → Option Severity
  | .number (.integer 0) => some .none
  | .number (.integer 1) => some .info
  | .number (.integer 2) => some .warning
  | .number (.integer 3) => some .deprecated
  | .number (.integer 4) => some .error
  | .number (.integer 5) => some .fatal
  | _ => Option.none

/-- The location with a wire form. -/
def Location.ofValue? : Value → Option Location
  | .array [line, column] => do
      let line ← int64OfValue? line
      let column ← int64OfValue? column
      some ⟨line, column⟩
  | _ => none

/-- The range with a wire form. -/
def Range.ofValue? : Value → Option Range
  | .array [file, start, stop] => do
      let file ← int64OfValue? file
      let start ← Location.ofValue? start
      let stop ← Location.ofValue? stop
      some ⟨file, start, stop⟩
  | _ => none

/-- The fixit with a wire form. -/
def Fixit.ofValue? : Value → Option Fixit
  | .array [range, .string replacement] => do
      let range ← Range.ofValue? range
      some ⟨range, replacement⟩
  | _ => none

namespace Diagnostic

/-- The diagnostic with a wire form. -/
def ofValue? : Value → Option Diagnostic
  | .array [severity, .array fixits, .array locations, .string message] => do
      let severity ← Severity.ofValue? severity
      let fixits ← fixits.mapM Fixit.ofValue?
      let locations ← locations.mapM Range.ofValue?
      some ⟨severity, fixits, locations, message⟩
  | _ => none

/-- The list of diagnostics with a wire form. -/
def listOfValue? : Value → Option (List Diagnostic)
  | .array items => items.mapM ofValue?
  | _ => none

end Diagnostic

@[simp]
theorem int64OfValue?_toInt (number : Int64) :
    int64OfValue? (.ofInt number.toInt) = some number := by
  have least := number.le_toInt
  have greatest := number.toInt_lt
  rw [Value.ofInt, int64OfValue?, if_pos (by omega), Int64.ofInt_toInt]

@[simp]
theorem Severity.ofValue?_code (severity : Severity) :
    ofValue? (.ofNat severity.code) = some severity := by
  cases severity <;> rfl

@[simp]
theorem Location.ofValue?_toValue (location : Location) :
    ofValue? location.toValue = some location := by
  simp [toValue, ofValue?]

@[simp]
theorem Range.ofValue?_toValue (range : Range) : ofValue? range.toValue = some range := by
  simp [toValue, ofValue?]

@[simp]
theorem Fixit.ofValue?_toValue (fixit : Fixit) : ofValue? fixit.toValue = some fixit := by
  simp [toValue, ofValue?]

private theorem mapM_map_some {α β : Type} {write : α → β} {read : β → Option α}
    (reads : ∀ item, read (write item) = some item) (items : List α) :
    (items.map write).mapM read = some items := by
  induction items with
  | nil => rfl
  | cons first rest induction =>
      rw [List.map_cons, List.mapM_cons, reads, induction]
      rfl

@[simp]
theorem Diagnostic.ofValue?_toValue (diagnostic : Diagnostic) :
    ofValue? diagnostic.toValue = some diagnostic := by
  simp [toValue, ofValue?, mapM_map_some Fixit.ofValue?_toValue,
    mapM_map_some Range.ofValue?_toValue]

private theorem eq_ofInt_of_int64OfValue? {value : Value} {number : Int64}
    (read : int64OfValue? value = some number) : value = .ofInt number.toInt := by
  unfold int64OfValue? at read
  split at read
  · next integer =>
      split at read
      · next within =>
          obtain rfl := Option.some.inj read
          rw [Int64.toInt_ofInt_of_le (by omega) (by omega)]
          rfl
      · simp at read
  · simp at read

private theorem Severity.eq_code_of_ofValue? {value : Value} {severity : Severity}
    (read : ofValue? value = some severity) : value = .ofNat severity.code := by
  unfold ofValue? at read
  split at read
  case h_7 => simp at read
  all_goals
    obtain rfl := Option.some.inj read
    rfl

private theorem Location.eq_toValue_of_ofValue? {value : Value} {location : Location}
    (read : ofValue? value = some location) : value = location.toValue := by
  unfold ofValue? at read
  split at read
  · simp only [Option.bind_eq_bind, Option.bind_eq_some_iff, Option.some.injEq] at read
    obtain ⟨line, line_read, column, column_read, rfl⟩ := read
    rw [toValue, eq_ofInt_of_int64OfValue? line_read, eq_ofInt_of_int64OfValue? column_read]
  · simp at read

private theorem Range.eq_toValue_of_ofValue? {value : Value} {range : Range}
    (read : ofValue? value = some range) : value = range.toValue := by
  unfold ofValue? at read
  split at read
  · simp only [Option.bind_eq_bind, Option.bind_eq_some_iff, Option.some.injEq] at read
    obtain ⟨file, file_read, start, start_read, stop, stop_read, rfl⟩ := read
    rw [toValue, eq_ofInt_of_int64OfValue? file_read,
      Location.eq_toValue_of_ofValue? start_read, Location.eq_toValue_of_ofValue? stop_read]
  · simp at read

private theorem Fixit.eq_toValue_of_ofValue? {value : Value} {fixit : Fixit}
    (read : ofValue? value = some fixit) : value = fixit.toValue := by
  unfold ofValue? at read
  split at read
  · simp only [Option.bind_eq_bind, Option.bind_eq_some_iff, Option.some.injEq] at read
    obtain ⟨range, range_read, rfl⟩ := read
    rw [toValue, Range.eq_toValue_of_ofValue? range_read]
  · simp at read

private theorem eq_map_of_mapM {α β : Type} {write : α → β} {read : β → Option α}
    (written : ∀ {value item}, read value = some item → value = write item) {values : List β}
    {items : List α} (all_read : values.mapM read = some items) : values = items.map write := by
  induction values generalizing items with
  | nil =>
      obtain rfl : [] = items := by simpa using all_read
      rfl
  | cons first rest induction =>
      simp only [List.mapM_cons, Option.bind_eq_bind, Option.bind_eq_some_iff, Option.pure_def,
        Option.some.injEq] at all_read
      obtain ⟨item, item_read, others, others_read, rfl⟩ := all_read
      rw [List.map_cons, written item_read, induction others_read]

private theorem Diagnostic.eq_toValue_of_ofValue? {value : Value} {diagnostic : Diagnostic}
    (read : ofValue? value = some diagnostic) : value = diagnostic.toValue := by
  unfold ofValue? at read
  split at read
  · simp only [Option.bind_eq_bind, Option.bind_eq_some_iff, Option.some.injEq] at read
    obtain ⟨severity, severity_read, fixits, fixits_read, locations, locations_read, rfl⟩ := read
    rw [toValue, Severity.eq_code_of_ofValue? severity_read,
      eq_map_of_mapM Fixit.eq_toValue_of_ofValue? fixits_read,
      eq_map_of_mapM Range.eq_toValue_of_ofValue? locations_read]
  · simp at read

private theorem Diagnostic.listOfValue?_eq_some {value : Value} {diagnostics : List Diagnostic} :
    listOfValue? value = some diagnostics ↔ value = listToValue diagnostics := by
  constructor
  · intro read
    unfold listOfValue? at read
    split at read
    · rw [listToValue, eq_map_of_mapM Diagnostic.eq_toValue_of_ofValue? read]
    · simp at read
  · rintro rfl
    exact mapM_map_some ofValue?_toValue diagnostics

/-- The wire form of every list of diagnostics passes the check against the signature of the method
that reads diagnostics; a decoder reads each list back from its wire form and accepts nothing else;
and lists with the same wire form are equal. -/
theorem Diagnostic.listToValue_lossless :
    (∃ signature, Signature.parse "a(ua((x(xx)(xx))s)a(x(xx)(xx))s)" = .ok signature ∧
      Method.diagnostics.outputSignature = signature.text ∧
      ∀ diagnostics, signature.check [listToValue diagnostics] = .ok ()) ∧
    (∀ value diagnostics,
      listOfValue? value = some diagnostics ↔ value = listToValue diagnostics) ∧
    Function.Injective listToValue := by
  refine ⟨⟨⟨_, [.array ty]⟩, by rfl, by rfl, fun diagnostics => ?_⟩,
    fun value diagnostics => listOfValue?_eq_some, fun one other same => ?_⟩
  · exact Signature.check_eq_ok.mpr (.cons (list_fits diagnostics) .nil)
  · have read : listOfValue? (listToValue one) = some other := listOfValue?_eq_some.mpr same
    exact Option.some.inj ((listOfValue?_eq_some.mpr rfl).symm.trans read)

end LintBus

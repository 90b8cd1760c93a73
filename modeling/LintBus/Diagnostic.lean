import LintBus.Json.Value
import LintBus.Text.Position

/-!
# Diagnostics

What a backend has to say about a document: a severity, the ranges it is about, suggested
replacements and a message. On the wire a diagnostic is the tuple
`(ua((x(xx)(xx))s)a(x(xx)(xx))s)`. A problem is a message about a single place; it becomes an
error diagnostic there.
-/

namespace LintBus

/-- How much a diagnostic matters. -/
inductive Severity where
  | none
  | info
  | warning
  | deprecated
  | error
  | fatal
deriving DecidableEq, Repr

/-- The number of a severity on the wire; graver ones are greater. -/
def Severity.code : Severity → Nat
  | .none => 0
  | .info => 1
  | .warning => 2
  | .deprecated => 3
  | .error => 4
  | .fatal => 5

/-- A line and a column in a file, as clients and backends name them. -/
structure Location where
  line : Int64
  column : Int64
deriving DecidableEq

/-- A stretch of a file. -/
structure Range where
  /-- Index of the file; zero is the document itself. -/
  file : Int64
  start : Location
  stop : Location
deriving DecidableEq

/-- A suggested replacement for a range of text. -/
structure Fixit where
  range : Range
  replacement : String
deriving DecidableEq

/-- A finding of a backend. -/
structure Diagnostic where
  severity : Severity
  fixits : List Fixit
  locations : List Range
  message : String
deriving DecidableEq

/-- A fault of a source text at one place. -/
structure Problem where
  location : Location
  message : String
deriving DecidableEq

namespace Location

/-- The location of a document that nobody has placed a cursor in. -/
def origin : Location := ⟨0, 0⟩

/-- A place in a text as a location. -/
def ofPosition (position : Position) : Location :=
  ⟨.ofNat position.line, .ofNat position.column⟩

/-- The wire form `(xx)`. -/
def toValue (location : Location) : Json.Value :=
  .array [.ofInt location.line.toInt, .ofInt location.column.toInt]

end Location

/-- The empty range at a location of the document. -/
def Range.point (location : Location) : Range := ⟨0, location, location⟩

/-- The wire form `(x(xx)(xx))`. -/
def Range.toValue (range : Range) : Json.Value :=
  .array [.ofInt range.file.toInt, range.start.toValue, range.stop.toValue]

/-- The wire form `((x(xx)(xx))s)`. -/
def Fixit.toValue (fixit : Fixit) : Json.Value :=
  .array [fixit.range.toValue, .string fixit.replacement]

namespace Diagnostic

/-- An error about a single place. -/
def errorAt (location : Location) (message : String) : Diagnostic :=
  ⟨.error, [], [.point location], message⟩

/-- The wire form `(ua((x(xx)(xx))s)a(x(xx)(xx))s)`. -/
def toValue (diagnostic : Diagnostic) : Json.Value :=
  .array
    [.ofNat diagnostic.severity.code, .array (diagnostic.fixits.map Fixit.toValue),
      .array (diagnostic.locations.map Range.toValue), .string diagnostic.message]

/-- The wire form of a list of diagnostics. -/
def listToValue (diagnostics : List Diagnostic) : Json.Value :=
  .array (diagnostics.map toValue)

/-- The code of the gravest of some diagnostics. -/
def gravest? (diagnostics : List Diagnostic) : Option Nat :=
  (diagnostics.map fun diagnostic => diagnostic.severity.code).max?

end Diagnostic

/-- The error diagnostic for a problem. -/
def Problem.toDiagnostic (problem : Problem) : Diagnostic :=
  .errorAt problem.location problem.message

end LintBus

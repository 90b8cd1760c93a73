import LintBus.Backend.Json
import LintBus.Proofs.Css.Furthest
import LintBus.Proofs.Json.Blanked
import LintBus.Proofs.Json.Placement

/-!
# Locations that the backends report

Whatever text a backend reports on, its locations are places of that text, with lines and columns
from one, but for one case: what the JSON reader notices before it has read anything of a line is
reported in the column before the first one of that line.
-/

namespace LintBus

/-- The locations that a diagnostic names: the ends of its ranges and of those of its fixits. -/
def Diagnostic.ends (diagnostic : Diagnostic) : List Location :=
  (diagnostic.locations ++ diagnostic.fixits.map Fixit.range).flatMap fun range =>
    [range.start, range.stop]

private theorem Diagnostic.mem_ends {diagnostic : Diagnostic} {location : Location}
    (named : location ∈ diagnostic.ends) :
    ∃ range ∈ diagnostic.locations ++ diagnostic.fixits.map Fixit.range,
      location = range.start ∨ location = range.stop := by
  simpa only [ends, List.mem_flatMap, List.mem_cons, List.not_mem_nil, or_false] using named

private theorem Problem.eq_of_mem_ends {problem : Problem} {location : Location}
    (named : location ∈ problem.toDiagnostic.ends) : location = problem.location := by
  simpa [Problem.toDiagnostic, Diagnostic.errorAt, Diagnostic.ends, Range.point] using named

namespace Location

variable {text : List Char} {position : Position}

/-- The numbers of a location are those of the place, as long as the characters of the text can be
counted in 64 bits with a sign. -/
def Counts (text : List Char) (location : Location) (position : Position) : Prop :=
  text.length < 9223372036854775807 →
    location.line.toInt = position.line ∧ location.column.toInt = position.column

/-- The location is a place of the text. -/
def StandsIn (text : List Char) (location : Location) : Prop :=
  ∃ position : Position, position.StandsIn text ∧ location = .ofPosition position ∧
    location.Counts text position

/-- The location is in a line of the text, in the column before the first one. -/
def Precedes (text : List Char) (location : Location) : Prop :=
  ∃ line : Nat, (⟨line, 1⟩ : Position).StandsIn text ∧ location = .ofPosition ⟨line, 0⟩ ∧
    location.Counts text ⟨line, 0⟩

private theorem counts_ofPosition (line_le : position.line ≤ text.length + 1)
    (column_le : position.column ≤ text.length + 1) :
    (ofPosition position).Counts text position := by
  intro small
  simp only [ofPosition]
  rw [Int64.toInt_ofNat_of_lt (by omega), Int64.toInt_ofNat_of_lt (by omega)]
  exact ⟨rfl, rfl⟩

private theorem standsIn_ofPosition (stands : position.StandsIn text) :
    (ofPosition position).StandsIn text :=
  ⟨position, stands, rfl, counts_ofPosition stands.le.1 stands.le.2⟩

private theorem precedes_ofPosition {line : Nat} (stands : (⟨line, 1⟩ : Position).StandsIn text) :
    (ofPosition ⟨line, 0⟩).Precedes text :=
  ⟨line, stands, rfl, counts_ofPosition stands.le.1 (Nat.zero_le _)⟩

end Location

namespace Css

private theorem standsIn_of_refused {source : String} {problem : Problem}
    (refused : lint source = .error problem) : problem.location.StandsIn source.toList := by
  rw [lint] at refused
  cases parsed : parse source.toList with
  | error attempts =>
      rw [parsed] at refused
      obtain rfl := Except.error.inj refused
      exact Location.standsIn_ofPosition
        (Position.standsIn_ofOffset (tried_of_parse parsed).not_splitsEnd)
  | ok tree => simp [parsed] at refused

/-- The warnings about a stylesheet and their fixits stand in the text. -/
theorem standsIn_of_warned {source : String} {diagnostics : List Diagnostic}
    (linted : lint source = .ok diagnostics) {diagnostic : Diagnostic}
    (found : diagnostic ∈ diagnostics) {location : Location} (named : location ∈ diagnostic.ends) :
    location.StandsIn source.toList := by
  rw [lint] at linted
  cases parsed : parse source.toList with
  | error attempts => simp [parsed] at linted
  | ok tree =>
      rw [parsed] at linted
      obtain rfl := Except.ok.inj linted
      obtain ⟨node, node_found, rfl⟩ := List.mem_map.mp found
      obtain ⟨in_tree, empty⟩ := List.mem_filter.mp node_found
      rw [Node.isEmptyRuleset, Bool.and_eq_true, beq_iff_eq] at empty
      have ruleset := rulesetAt_of_parse parsed (Node.mem_flatten_iff.mp in_tree) empty.1
      obtain ⟨range, range_found, ends⟩ := Diagnostic.mem_ends named
      obtain rfl : range = node.range source.toList := by simpa [emptyWarning] using range_found
      rcases ends with rfl | rfl
      · exact Location.standsIn_ofPosition ruleset.standsIn.1
      · exact Location.standsIn_ofPosition ruleset.standsIn.2

end Css

namespace Json

/-- Nothing stands before the end of the bytes in its line. -/
def StartsLine (bytes : List UInt8) : Prop := ∀ byte ∈ bytes.getLast?, byte = 10

private theorem startsLine_iff {bytes : List UInt8} : StartsLine bytes ↔
    (bytePlace bytes).2 = 0 := by
  rw [StartsLine, List.getLast?_eq_head?_reverse, bytePlace]
  cases bytes.reverse with
  | nil => simp
  | cons last others => simp [List.takeWhile_cons]

private theorem startsBefore_eq_zero_iff {line : List Char} {byteColumn : Nat}
    (within : byteColumn ≤ byteCount line) : startsBefore line byteColumn = 0 ↔ byteColumn = 0 := by
  rw [← charactersBefore_eq]
  cases line with
  | nil => simpa [charactersBefore, byteCount] using within
  | cons character line => simp [charactersBefore]

/-- The problem of a text stands in every text with the same line feeds, unless it was noticed at
the start of a line, which it precedes then. -/
theorem location_of_refused {text : String} {problem : Problem}
    (refused : check text = .error problem) {source : List Char}
    (alike : List.Forall₂ SameFeed text.toList source) :
    ∃ error : ReadError, read text = .error error ∧
      (StartsLine ((bytesOf text).take error.offset) → problem.location.Precedes source) ∧
      (¬ StartsLine ((bytesOf text).take error.offset) → problem.location.StandsIn source) := by
  obtain ⟨error, piece, read_error, found, byteColumn_le, rfl⟩ := problem_of_refused refused
  refine ⟨error, read_error, ?_⟩
  rw [startsLine_iff, ← linePlace_eq]
  have line_pos : 1 ≤ (linePlace text.toList error.offset).1 := by
    rw [linePlace_eq, bytePlace]
    exact Nat.le_add_right 1 _
  generalize linePlace text.toList error.offset = place at found byteColumn_le line_pos
  obtain ⟨line, line_found, piece_le⟩ := exists_line_of_piece alike found
  have column_le := startsBefore_le piece place.2
  obtain ⟨within, line_eq⟩ := List.getElem?_eq_some_iff.mp line_found
  have stands {column : Nat} (pos : 1 ≤ column) (le : column ≤ line.length + 1) :
      (⟨place.1, column⟩ : Position).StandsIn source := by
    refine ⟨line_pos, ?_, pos, fun other other_found => ?_⟩
    · simp only
      omega
    · rw [line_found, Option.some.injEq] at other_found
      exact other_found ▸ le
  refine ⟨fun starts => ?_, fun later => ?_⟩
  · rw [(startsBefore_eq_zero_iff byteColumn_le).mpr starts]
    exact Location.precedes_ofPosition (stands (Nat.le_refl 1) (Nat.le_add_left 1 _))
  · have column_pos := mt (startsBefore_eq_zero_iff byteColumn_le).mp later
    exact Location.standsIn_ofPosition (stands (by omega) (by omega))

/-- The text that is read of a source: with blanks in place of its comments, if it may have some. -/
def CheckOptions.reading (options : CheckOptions) (source : String) : String :=
  if options.allowComments then blankOutComments source else source

private theorem sameFeed_reading (options : CheckOptions) (source : String) :
    List.Forall₂ SameFeed (options.reading source).toList source.toList := by
  rw [CheckOptions.reading]
  split
  · exact sameFeed_blankOutComments source
  · exact List.forall₂_same.mpr fun _ _ => Iff.rfl

end Json

namespace Backend

/-- Whatever the stylesheet backend reports on a text, its locations are places of the text: the
line is one of the text, and the column is that of a character of the line or of its end, both
counted from one.  So is the location of the problem of a text that is no JSON value, whether or not
comments are accepted, unless the reader noticed it where it had read nothing of a line yet; then
the location is in this line, which is one of the text, but in the column before the first one. -/
theorem ends_standIn (source : String) :
    (∀ problem, Css.lint source = .error problem →
      ∀ location ∈ problem.toDiagnostic.ends, location.StandsIn source.toList) ∧
    (∀ diagnostics, Css.lint source = .ok diagnostics →
      ∀ diagnostic ∈ diagnostics, ∀ location ∈ diagnostic.ends,
        location.StandsIn source.toList) ∧
    (∀ options problem, Json.checkSource options source = .error problem →
      ∃ error : Json.ReadError, Json.read (options.reading source) = .error error ∧
        ∀ location ∈ problem.toDiagnostic.ends,
          (Json.StartsLine ((Json.bytesOf (options.reading source)).take error.offset) →
            location.Precedes source.toList) ∧
          (¬ Json.StartsLine ((Json.bytesOf (options.reading source)).take error.offset) →
            location.StandsIn source.toList)) := by
  refine ⟨fun problem refused location named => ?_,
    fun diagnostics linted diagnostic found location named => ?_,
    fun options problem refused => ?_⟩
  · rw [Problem.eq_of_mem_ends named]
    exact Css.standsIn_of_refused refused
  · exact Css.standsIn_of_warned linted found named
  · obtain ⟨error, read_error, placed⟩ :=
      Json.location_of_refused refused (Json.sameFeed_reading options source)
    refine ⟨error, read_error, fun location named => ?_⟩
    rw [Problem.eq_of_mem_ends named]
    exact placed

/-- The empty text has one line without characters, and what is missing there is reported in the
column before the first one. -/
theorem empty_text_precedes :
    ∃ problem, Json.checkSource ⟨false⟩ "" = .error problem ∧ problem.location = ⟨1, 0⟩ ∧
      linesOf "".toList = [[]] ∧ ¬ problem.location.StandsIn "".toList := by
  have location :
      (match Json.checkSource ⟨false⟩ "" with
      | .ok () => none
      | .error problem => some problem.location) = some ⟨1, 0⟩ := by
    decide +kernel
  cases refused : Json.checkSource ⟨false⟩ "" with
  | ok => simp [refused] at location
  | error problem =>
      simp only [refused, Option.some.injEq] at location
      refine ⟨problem, rfl, location, rfl, ?_⟩
      rintro ⟨position, stands, -, counts⟩
      have column_eq := (counts (by decide)).2
      have column_pos := stands.column_pos
      have column_zero : problem.location.column.toInt = 0 := by
        rw [location]
        rfl
      omega

end Backend
end LintBus

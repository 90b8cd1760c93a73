import LintBus.Backend

/-!
# Scripted backends

A scripted backend does what the options of each call tell it to: leave diagnostics, look at and
touch documents of a project, and end in any way that a handler can end. It serves to rehearse
how a service deals with the backends it hosts.
-/

namespace LintBus
namespace Script

open Json (Value Entries)

/-- The text of a value; any other value counts as the empty text. -/
def text : Value → String
  | .string text => text
  | _ => ""

/-- The integer of a value; any other value counts as zero. -/
def integer : Value → Int64
  | .number (.integer value) => .ofInt value
  | _ => 0

/-- The items of a value; any other value counts as the empty list. -/
def items : Value → List Value
  | .array items => items
  | _ => []

/-- A location, as a pair of integers. -/
def location (value : Value) : Location :=
  match items value with
  | [line, column] => ⟨integer line, integer column⟩
  | _ => .origin

/-- A range, as a file and two locations. -/
def range (value : Value) : Range :=
  match items value with
  | [file, start, stop] => ⟨integer file, location start, location stop⟩
  | _ => ⟨0, .origin, .origin⟩

/-- A fixit, as a range and a text. -/
def fixit (value : Value) : Fixit :=
  match items value with
  | [target, replacement] => ⟨range target, text replacement⟩
  | _ => ⟨⟨0, .origin, .origin⟩, ""⟩

/-- The severity with a given word. -/
def severity (word : String) : Severity :=
  match word with
  | "info" => .info
  | "warning" => .warning
  | "deprecated" => .deprecated
  | "error" => .error
  | "fatal" => .fatal
  | _ => .none

/-- The value of a key of an object. -/
def field (value : Value) (key : String) : Value :=
  match value with
  | .object entries => (Entries.find? key entries).getD .null
  | _ => .null

/-- A diagnostic, as an object whose fields may be left out. -/
def diagnostic (value : Value) : Diagnostic :=
  { severity := severity (text (field value "severity"))
    fixits := (items (field value "fixits")).map fixit
    locations := (items (field value "locations")).map range
    message := text (field value "message") }

/-- A problem, as a line, a column and a message. -/
def problem (value : Value) : Problem :=
  match items value with
  | [line, column, message] => ⟨⟨integer line, integer column⟩, text message⟩
  | _ => ⟨.origin, ""⟩

/-- How a handler ends. -/
def outcome (script : Value) : Outcome Unit :=
  match field script "panic" with
  | .string message => .panicked (some message)
  | _ =>
    match field script "panic_str" with
    | .boolean true => .panicked (some "static panic text")
    | _ =>
      match field script "panic_other" with
      | .boolean true => .panicked none
      | _ =>
        match field script "fail" with
        | .array [name, message] => .failed (.raised "script" (text name) (text message))
        | _ =>
          match field script "problems" with
          | .array found => .problems (found.map problem)
          | _ =>
            match field script "problem" with
            | .array found => .problems [problem (.array found)]
            | _ => .done ()

/-- The documents that a project handler touches, each with the message it leaves there. -/
def touches (script : Value) : List (FilePath × String) :=
  (items (field script "touch")).map fun touch =>
    match items touch with
    | [path, message] => (⟨text path⟩, text message)
    | _ => (⟨""⟩, "")

end Script

/-- What a scripted project handler was given, and what it saw of the documents it touched. -/
structure Sighting where
  root : FilePath
  members : List FilePath
  /-- Each path with whether it belongs to the project and whether there is a document. -/
  looked : List (FilePath × Bool × Bool)
deriving DecidableEq

/-- The world of scripted backends. -/
structure Stage where
  files : FileTree
  /-- Documents whose release panics. -/
  traps : List FilePath
  /-- What project handlers have seen, in order. -/
  sightings : List Sighting

namespace Scripted

/-- A stage with given files and nothing else. -/
def stage (files : FileTree) : Stage := ⟨files, [], []⟩

/-- Read a file on a stage. -/
def fileText (stage : Stage) (path : FilePath) : Except FileError String :=
  stage.files.read path

/-- Touch some documents after those in `looked`, and go on with what was seen. -/
def touchAll {α : Type} (finish : List (FilePath × Bool × Bool) → ProjectRun α) :
    List (FilePath × Bool × Bool) → List (FilePath × String) → ProjectRun α
  | looked, [] => finish looked
  | looked, (path, message) :: rest =>
      .contains path fun known =>
        .look path fun
          | none => touchAll finish (looked ++ [(path, known, false)]) rest
          | some document =>
              .revise path (document.diagnostics ++ [.errorAt ⟨1, 1⟩ message])
                (touchAll finish (looked ++ [(path, known, true)]) rest)

/-- The paths that a project handler reports: those of the script, or all of the project. -/
def reported (script : Json.Value) (root : FilePath) (members : List FilePath) : List FilePath :=
  match Script.field script "report" with
  | .array paths => paths.map fun path => ⟨Script.text path⟩
  | _ => root :: members

/-- How a project handler ends. -/
def projectOutcome (script : Json.Value) (root : FilePath) (members : List FilePath) :
    Outcome (List FilePath) :=
  match Script.outcome script with
  | .done () => .done (reported script root members)
  | .problems found => .problems found
  | .failed failure => .failed failure
  | .panicked message => .panicked message

/-- A backend that plays back the options of each call. -/
def backend (language : String) (capabilities : List Capability) : Backend Stage Unit :=
  { language := language
    capabilities := capabilities
    create := ()
    parse := fun stage state document options =>
      let script := .object options
      let left := (Script.items (Script.field script "diagnostics")).map Script.diagnostic
      ⟨stage, state, document.diagnostics ++ left, Script.outcome script⟩
    parseAll := fun stage state root members options =>
      let script := .object options
      touchAll
        (fun looked =>
          let sightings := stage.sightings ++ [⟨root, members, looked⟩]
          .finish
            ⟨{ stage with sightings := sightings }, state, projectOutcome script root members⟩)
        [] (Script.touches script)
    dispose := some fun stage state document =>
      let trapped := stage.traps.any document.path.same
      ⟨stage, state, if trapped then .panicked (some "trapped") else .done ()⟩ }

/-- A backend that plays back how each parse ends and does nothing else. -/
def plainBackend (language : String) (capabilities : List Capability) : Backend Stage Unit :=
  { language := language
    capabilities := capabilities
    create := ()
    parse := fun stage state document options =>
      ⟨stage, state, document.diagnostics, Script.outcome (.object options)⟩
    parseAll := fun stage state root _ _ => Backend.noProject stage state root
    dispose := none }

end Scripted
end LintBus

import LintBus.Backend
import LintBus.Json.Check
import LintBus.Json.Decode

/-!
# The JSON backend

A document is one JSON value; with the option `allowComments` comments are read as blanks.
-/

namespace LintBus
namespace Json

/-- Options of the JSON backend. -/
structure CheckOptions where
  /-- Accept comments. -/
  allowComments : Bool
deriving DecidableEq, Repr

/-- Take over the remaining options; an option that is not known is refused. -/
def CheckOptions.decodeFrom (options : CheckOptions) : Entries → Except DecodeError CheckOptions
  | [] => .ok options
  | (name, value) :: rest =>
      if name = "allowComments" then
        match Decoder.boolean value with
        | .error error => .error error
        | .ok allow => decodeFrom ⟨allow⟩ rest
      else .error (.unknownField name ["allowComments"])

/-- The options of a call; comments are not accepted unless a call says so. -/
def CheckOptions.decode (options : Options) : Except DecodeError CheckOptions :=
  decodeFrom ⟨false⟩ options

/-- Check the text of a document. -/
def checkSource (options : CheckOptions) (source : String) : Except Problem Unit :=
  check (if options.allowComments then blankOutComments source else source)

/-- Parse a document. Options are decoded before the file is read. -/
def parseDocument {ω : Type} (fileText : ω → FilePath → Except FileError String) (world : ω)
    (document : Document) (options : Options) : Attempt :=
  let outcome :=
    match CheckOptions.decode options with
    | .error error => .failed (.raised "options" "InvalidOptions" error.message)
    | .ok options =>
        match fileText world document.contents with
        | .error error => .failed (.ofFileError error)
        | .ok source =>
            match checkSource options source with
            | .error problem => .problems [problem]
            | .ok () => .done ()
  ⟨document.diagnostics, outcome⟩

/-- The JSON backend over worlds whose files can be read. -/
def backend {ω : Type} (fileText : ω → FilePath → Except FileError String) : Backend ω Unit :=
  { language := "json"
    capabilities := [.diagnostics]
    create := ()
    parse := fun world state document options =>
      ⟨world, state, parseDocument fileText world document options⟩
    parseAll := fun world state root _ _ => Backend.noProject world state root
    dispose := none }

end Json
end LintBus

import LintBus.Backend.Builtin
import LintBus.Rpc.Endpoint
import LintBus.File.Socket

/-!
# The command line

The program serves one language on a socket until the last session has gone away, or until it is
interrupted when it is told to persist. It can also list the languages that it knows.
-/

namespace LintBus
namespace CommandLine

/-- The arguments of the program. -/
structure Arguments where
  /-- The language to serve. -/
  language : Option String
  /-- The socket to listen on. -/
  socket : Option String
  /-- Keep running after the last session has gone. -/
  persist : Bool
  /-- Print the languages and exit. -/
  listing : Bool
deriving DecidableEq, Repr

namespace Arguments

/-- No arguments. -/
def none : Arguments := ⟨.none, .none, false, false⟩

/-- Take over the language; there is only one. -/
def setLanguage? (arguments : Arguments) (language : String) : Option Arguments :=
  if arguments.language.isSome then .none
  else some { arguments with language := some language }

/-- Take over the socket; there is only one, and its path is not empty. -/
def setSocket? (arguments : Arguments) (path : String) : Option Arguments :=
  if arguments.socket.isSome || path.isEmpty then .none
  else some { arguments with socket := some path }

end Arguments

/-- The argument is an option and no value. -/
def isOption (argument : String) : Bool :=
  argument.startsWith "-" && argument != "-"

/-- The option for the socket with its value in the same argument. -/
def socketOption : String := "--socket="

/-- Take over arguments that come after two dashes alone. -/
def takeValues : List String → Arguments → Option Arguments
  | [], arguments => some arguments
  | value :: rest, arguments => (arguments.setLanguage? value).bind (takeValues rest)

/-- Take over arguments one by one; nothing comes of arguments that are not known, repeated or
without their value. -/
def takeArguments : List String → Arguments → Option Arguments
  | [], arguments => some arguments
  | "--" :: rest, arguments => takeValues rest arguments
  | "--list" :: rest, arguments =>
      if arguments.listing then none else takeArguments rest { arguments with listing := true }
  | "--persist" :: rest, arguments =>
      if arguments.persist then none else takeArguments rest { arguments with persist := true }
  | "--socket" :: path :: rest, arguments =>
      if isOption path then none else (arguments.setSocket? path).bind (takeArguments rest)
  | argument :: rest, arguments =>
      if argument.startsWith socketOption then
        (arguments.setSocket? (argument.drop socketOption.length).toString).bind
          (takeArguments rest)
      else if isOption argument then none
      else (arguments.setLanguage? argument).bind (takeArguments rest)

/-- Read the arguments; a language is needed unless the languages are to be listed. -/
def parse (arguments : List String) : Option Arguments :=
  (takeArguments arguments .none).filter fun parsed =>
    parsed.listing || parsed.language.isSome

/-- How the program ends. -/
structure Ending where
  code : Nat
  output : String
  /-- What is written about an error; the words of usage errors are not laid down. -/
  errors : Option String
deriving DecidableEq, Repr

namespace Ending

/-- Everything went well. -/
def success (output : String) : Ending := ⟨0, output, some ""⟩

/-- The arguments make no sense. -/
def usage : Ending := ⟨2, "", none⟩

/-- The program could not start. -/
def failure (message : String) : Ending := ⟨1, "", some s!"Error: {message}\n"⟩

/-- The program could not start, for a reason. -/
def failureFor (message cause : String) : Ending :=
  ⟨1, "", some s!"Error: {message}\n\nCaused by:\n    {cause}\n"⟩

end Ending

/-- The socket of a language, unless another one is given. -/
def usualSocket (runtimeDirectory : FilePath) (language : String) : FilePath :=
  (runtimeDirectory.join ⟨"codeassist"⟩).join ⟨language ++ ".sock"⟩

/-- A program that serves a language. -/
structure Serving (ω : Type) where
  service : Service ω Unit
  endpoint : Endpoint ω Unit
  persist : Bool
  socket : FilePath

/-- Either the program ends at once or it serves a language at a socket. -/
inductive Start (ω : Type) where
  | ended (ending : Ending)
  | serving (serving : Serving ω)

/-- What the program needs to know of the world to start. -/
structure Setting (ω : Type) where
  /-- How files are read. -/
  fileText : ω → FilePath → Except FileError String
  /-- Bind a socket. -/
  bind : ω → FilePath → Except FileError ω
  /-- Where sockets are kept. -/
  runtimeDirectory : FilePath
  /-- Directory against which relative paths of clients are resolved. -/
  baseDirectory : FilePath

/-- The languages that the program knows, one a line. -/
def languageList {ω : Type} (setting : Setting ω) : String :=
  String.join ((Backend.builtin setting.fileText).map fun backend => backend.language ++ "\n")

/-- Serve a language. -/
def serve {ω : Type} (setting : Setting ω) (world : ω) (language : String)
    (socket : Option String) (persist : Bool) : Start ω :=
  match Backend.lookup? setting.fileText language with
  | none => .ended (.failure s!"unknown language `{language}`, see --list")
  | some backend =>
      let service := Service.ofBackend backend setting.baseDirectory
      match service.start .empty with
      | (.error error, _) => .ended (.failure error.message)
      | (.ok (), bus) =>
          let path := (socket.map FilePath.mk).getD
            (usualSocket setting.runtimeDirectory language)
          match setting.bind world path with
          | .error error =>
              .ended (.failureFor s!"failed to listen on {path.text}" error.message)
          | .ok world =>
              .serving ⟨service, .opened (.opened bus world), persist, path⟩

/-- Start the program with some arguments. -/
def start {ω : Type} (setting : Setting ω) (world : ω) (arguments : List String) : Start ω :=
  match parse arguments with
  | none => .ended .usage
  | some parsed =>
      if parsed.listing then .ended (.success (languageList setting))
      else
        match parsed.language with
        | none => .ended .usage
        | some language => serve setting world language parsed.socket parsed.persist

namespace Serving

variable {ω : Type}

/-- The program stops by itself: the last session has gone and it need not persist. -/
def isOver (serving : Serving ω) : Bool :=
  !serving.persist && serving.endpoint.roster.emptied != 0

/-- Accept a connection. -/
def accept (serving : Serving ω) : String × Serving ω :=
  let (name, endpoint) := serving.endpoint.accept
  (name, { serving with endpoint := endpoint })

/-- Handle bytes of a client; a program that is over has no more answers, and neither has a
connection that is closed. -/
def receive (serving : Serving ω) (name : String) (bytes : List UInt8) :
    List Rpc.Response × Serving ω :=
  if serving.isOver || !serving.endpoint.names.contains name then ([], serving)
  else
    let (responses, _, endpoint) := serving.endpoint.receive serving.service name bytes
    (responses, { serving with endpoint := endpoint })

/-- Handle the end of a connection. -/
def hangUp (serving : Serving ω) (name : String) : Serving ω :=
  { serving with endpoint := serving.endpoint.hangUp serving.service name }

end Serving
end CommandLine
end LintBus

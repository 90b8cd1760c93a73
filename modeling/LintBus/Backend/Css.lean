import LintBus.Backend
import LintBus.Css.Lint

/-!
# The stylesheet backend

A project is its root and the members under the root's directory. Each is parsed like a single
document; a member that cannot be read gets an error that says so.
-/

namespace LintBus
namespace Css

/-- How the file of a document is read in a world. -/
abbrev FileText (ω : Type) := ω → FilePath → Except FileError String

/-- Parse a document. Its diagnostics stay as they are when its file cannot be read. -/
def parseDocument {ω : Type} (fileText : FileText ω) (world : ω) (document : Document) :
    Attempt :=
  match fileText world document.contents with
  | .error error => ⟨document.diagnostics, .failed (.ofFileError error)⟩
  | .ok source =>
      match lint source with
      | .error problem => ⟨document.diagnostics, .problems [problem]⟩
      | .ok diagnostics => ⟨diagnostics, .done ()⟩

/-- The directory of a project: that of its root, or the root itself if it has none. -/
def projectDirectory (root : FilePath) : List FilePath.Component :=
  root.parent?.getD root.components

/-- The path is parsed with the project. -/
def inProject (root path : FilePath) : Bool :=
  path.same root || path.startsWith (projectDirectory root)

/-- Parse the remaining paths of a project after those in `parsed`, the last one first. -/
def parsePaths {ω : Type} (fileText : FileText ω) (world : ω) (root : FilePath)
    (parsed : List FilePath) :
    List FilePath → ProjectRun (Handled ω Unit (Outcome (List FilePath)))
  | [] => .finish ⟨world, (), .done parsed.reverse⟩
  | path :: rest =>
      if inProject root path && !parsed.any path.same then
        .look path fun
          | none => parsePaths fileText world root parsed rest
          | some document =>
              let attempt := parseDocument fileText world document
              match (document.diagnosed attempt.diagnostics).conclude attempt.outcome with
              | (.ok (), concluded) =>
                  .revise path concluded.diagnostics
                    (parsePaths fileText world root (path :: parsed) rest)
              | (.error failure, concluded) =>
                  if path.same root then
                    .revise path concluded.diagnostics
                      (.finish ⟨world, (), .failed failure⟩)
                  else
                    .revise path [.errorAt ⟨1, 1⟩ failure.message]
                      (parsePaths fileText world root (path :: parsed) rest)
      else parsePaths fileText world root parsed rest

/-- The stylesheet backend over worlds whose files can be read. It has no options. -/
def backend {ω : Type} (fileText : FileText ω) : Backend ω Unit :=
  { language := "css"
    capabilities := [.diagnostics, .project]
    create := ()
    parse := fun world state document _ => ⟨world, state, parseDocument fileText world document⟩
    parseAll := fun world _ root members _ =>
      parsePaths fileText world root [] (root :: members)
    dispose := none }

end Css
end LintBus

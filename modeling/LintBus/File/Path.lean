import LintBus.Text.Pieces

/-!
# File paths

A path is a text. It names a file by its components: the root of an absolute path, and the
segments between slashes. Empty segments do not count, nor does a dot, except that a relative path
may begin with one. Two paths are the same when their components are; `..` is a component like any
other until a path is resolved.
-/

namespace LintBus

/-- A path as it is written. -/
structure FilePath where
  text : String
deriving DecidableEq, Repr

namespace FilePath

/-- A part of a path. -/
inductive Component where
  /-- The slash at the front of an absolute path. -/
  | root
  /-- A dot at the front of a relative path. -/
  | current
  /-- Two dots. -/
  | parent
  /-- Any other segment. -/
  | name (segment : List Char)
deriving DecidableEq, Repr

/-- The component that a segment stands for. -/
def Component.ofSegment (segment : List Char) : Component :=
  if segment = ['.', '.'] then .parent else .name segment

/-- The path begins with a slash. -/
def isAbsolute (path : FilePath) : Bool :=
  path.text.toList.head? == some '/'

/-- A slash ends the path, so only a directory can be meant. -/
def isSlashed (path : FilePath) : Bool :=
  path.text.toList.getLast? == some '/'

/-- The segments of a text that are neither empty nor a dot. -/
def properSegments (text : List Char) : List (List Char) :=
  (piecesAt '/' text).filter fun segment => segment != [] && segment != ['.']

/-- The components of a text. -/
def componentsOf (text : List Char) : List Component :=
  let proper := (properSegments text).map Component.ofSegment
  if text.head? = some '/' then .root :: proper
  else if (piecesAt '/' text).head? = some ['.'] then .current :: proper
  else proper

/-- The components of a path. -/
def components (path : FilePath) : List Component := componentsOf path.text.toList

/-- Two paths have the same components. -/
def same (left right : FilePath) : Bool := left.components == right.components

/-- The first components of the path are those of `directory`. -/
def startsWith (path : FilePath) (directory : List Component) : Bool :=
  directory.isPrefixOf path.components

/-- All components but the last; a path with no component to give up has no parent. -/
def parent? (path : FilePath) : Option (List Component) :=
  match path.components.getLast? with
  | none | some .root => none
  | some _ => some path.components.dropLast

/-- The segment that a component is written as. -/
def Component.segment : Component → List Char
  | .root => []
  | .current => ['.']
  | .parent => ['.', '.']
  | .name segment => segment

/-- A path with the given components. -/
def ofComponents : List Component → FilePath
  | [.root] => ⟨"/"⟩
  | components => ⟨String.ofList (List.intercalate ['/'] (components.map Component.segment))⟩

/-- Append a path; an absolute one stands for itself. -/
def join (base path : FilePath) : FilePath :=
  if path.isAbsolute then path
  else if base.text.isEmpty ∨ base.text.toList.getLast? = some '/' then
    ⟨base.text ++ path.text⟩
  else ⟨base.text ++ "/" ++ path.text⟩

/-- The names that are left after `..` has removed the name before it; the last name first. -/
def pushComponent (names : List (List Char)) : Component → List (List Char)
  | .root | .current => names
  | .parent => names.tail
  | .name segment => segment :: names

/-- The names from the root, or from where a relative path begins, down to the file. -/
def resolve (components : List Component) : List (List Char) :=
  (components.foldl pushComponent []).reverse

/-- The path with the given names. -/
def ofNames (absolute : Bool) (names : List (List Char)) : FilePath :=
  ⟨String.ofList ((if absolute then ['/'] else []) ++ List.intercalate ['/'] names)⟩

/-- Resolve a path against a base directory, without looking at any file: the result has no empty
segments, no dots and no `..`. -/
def canonical (path : String) (base : FilePath) : FilePath :=
  let joined := base.join ⟨path⟩
  ofNames joined.isAbsolute (resolve joined.components)

end FilePath
end LintBus

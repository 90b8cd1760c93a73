import LintBus.File.Path
import LintBus.Text.Bytes

/-!
# A tree of files

Files and directories below one working directory, which is known by a fixed place under the root.
Paths are followed segment by segment, so a path through a file, a missing segment or a segment
that is too long is refused where it is met.
-/

namespace LintBus

/-- Why a file cannot be used. -/
inductive FileError where
  | notFound
  | alreadyExists
  | isDirectory
  | notDirectory
  | notPermitted
  | invalidUtf8
  | nameTooLong
  | nulByte
  /-- A socket is not read like a file. -/
  | noDevice
  | addressTaken
  | socketPathTooLong
  | socketPathNul
  | socketNameTooLong
  /-- Someone answers at the socket. -/
  | served (path : String)
deriving DecidableEq, Repr

/-- The name of the kind of an error. -/
def FileError.kind : FileError → String
  | .notFound => "NotFound"
  | .alreadyExists => "AlreadyExists"
  | .isDirectory => "IsADirectory"
  | .notDirectory => "NotADirectory"
  | .notPermitted => "PermissionDenied"
  | .invalidUtf8 => "InvalidData"
  | .nameTooLong => "InvalidFilename"
  | .nulByte | .socketPathTooLong | .socketPathNul | .socketNameTooLong => "InvalidInput"
  | .noDevice => "Uncategorized"
  | .addressTaken | .served _ => "AddrInUse"

/-- The text of an error. -/
def FileError.message : FileError → String
  | .notFound => "No such file or directory (os error 2)"
  | .alreadyExists => "File exists (os error 17)"
  | .isDirectory => "Is a directory (os error 21)"
  | .notDirectory => "Not a directory (os error 20)"
  | .notPermitted => "Operation not permitted (os error 1)"
  | .invalidUtf8 => "stream did not contain valid UTF-8"
  | .nameTooLong => "File name too long (os error 36)"
  | .nulByte => "file name contained an unexpected NUL byte"
  | .noDevice => "No such device or address (os error 6)"
  | .addressTaken => "Address already in use (os error 98)"
  | .socketPathTooLong => "path must be shorter than SUN_LEN"
  | .socketPathNul => "paths must not contain interior null bytes"
  | .socketNameTooLong => "abstract socket name must be shorter than SUN_LEN"
  | .served path => s!"{path} is served by another process"

/-- What stands at a place in the tree. -/
inductive FileEntry where
  | directory
  | file (bytes : ByteArray)
  /-- A socket, at which someone answers or nobody does any more. -/
  | socket (live : Bool)

/-- Files and directories by the names that lead to them from the root. -/
structure FileTree where
  /-- Every entry but the root; the directories above an entry are entries too. -/
  entries : List (List (List Char) × FileEntry)
  /-- Names of the sockets that stand apart from the files. -/
  detached : List (List Char)

namespace FileTree

/-- The names that lead to the working directory. -/
def workingNames : List (List Char) :=
  ["proc".toList, "self".toList, "cwd".toList]

/-- The working directory as it is known to the service. -/
def workingDirectory : FilePath := .ofNames true workingNames

/-- The directory only leads to the working directory and takes no entries of its own. -/
def isClosed (names : List (List Char)) : Bool :=
  names != [] && names != workingNames && names.isPrefixOf workingNames

/-- The names are those of a link to a directory: the process and its working directory stand
elsewhere. -/
def isLink (names : List (List Char)) : Bool :=
  names == workingNames || names == workingNames.dropLast

/-- What stands at the end of some names. -/
def entry? (tree : FileTree) (names : List (List Char)) : Option FileEntry :=
  if names = [] then some .directory else tree.entries.lookup names

/-- Put an entry in place of what stood there. -/
def set (tree : FileTree) (names : List (List Char)) (entry : FileEntry) : FileTree :=
  { tree with entries := (names, entry) :: tree.entries.filter (·.1 != names) }

/-- Take an entry away. -/
def erase (tree : FileTree) (names : List (List Char)) : FileTree :=
  { tree with entries := tree.entries.filter (·.1 != names) }

/-- A tree with an empty working directory. -/
def empty : FileTree :=
  ⟨(List.range workingNames.length).map fun count => (workingNames.take (count + 1), .directory),
    []⟩

/-- The greatest number of bytes of a segment. -/
def longestName : Nat := 255

/-- The greatest number of bytes of a path. -/
def longestPath : Nat := 4095

/-- The directory above another one. The working directory is reached by a link, so the one above
it is not the one that the names tell; it is taken for the root. -/
def above (names : List (List Char)) : List (List Char) :=
  if names = workingNames then [] else names.dropLast

/-- Follow the segments of a path from a directory. -/
def follow (tree : FileTree) :
    List (List Char) → List (List Char) → Except FileError (List (List Char) × FileEntry)
  | names, [] =>
      match tree.entry? names with
      | some entry => .ok (names, entry)
      | none => .error .notFound
  | names, segment :: rest =>
      match tree.entry? names with
      | none => .error .notFound
      | some (.file _) | some (.socket _) => .error .notDirectory
      | some .directory =>
          if segment = [] ∨ segment = ['.'] then follow tree names rest
          else if segment = ['.', '.'] then follow tree (above names) rest
          else if longestName < byteCount segment then .error .nameTooLong
          else follow tree (names ++ [segment]) rest

/-- Where a path starts: at the root, or in the working directory if it is relative. -/
def startOf (path : FilePath) : Except FileError (List (List Char)) :=
  if path.text.toList.contains '\x00' then .error .nulByte
  else if path.text.isEmpty then .error .notFound
  else if longestPath < path.text.utf8ByteSize then .error .nameTooLong
  else .ok (if path.isAbsolute then [] else workingNames)

/-- Find what stands at the end of a path. -/
def find (tree : FileTree) (path : FilePath) :
    Except FileError (List (List Char) × FileEntry) := do
  let start ← startOf path
  follow tree start (piecesAt '/' path.text.toList)

/-- Something stands at the end of a path. -/
def isThere (tree : FileTree) (path : FilePath) : Bool := (tree.find path).isOk

/-- A directory stands at the end of a path. -/
def isDirectory (tree : FileTree) (path : FilePath) : Bool :=
  match tree.find path with
  | .ok (_, .directory) => true
  | _ => false

/-- The place that the last segment of a path names in the directory to which the others lead,
whether or not something stands there. A path that ends in a dot or in two dots, or that has no
segments, names no place to put something at, but a directory that is there. -/
def place (tree : FileTree) (path : FilePath) : Except FileError (List (List Char)) := do
  let start ← startOf path
  let segments := (piecesAt '/' path.text.toList).filter (· != [])
  let (names, entry) ← follow tree start segments.dropLast
  match entry, segments.getLast? with
  | .directory, none => .error .alreadyExists
  | .directory, some segment =>
      if segment = ['.'] ∨ segment = ['.', '.'] then .error .alreadyExists
      else if longestName < byteCount segment then .error .nameTooLong
      else .ok (names ++ [segment])
  | _, _ => .error .notDirectory

/-- Put an entry at a place where nothing stands, unless its directory takes none. -/
def create (tree : FileTree) (names : List (List Char)) (entry : FileEntry) :
    Except FileError FileTree :=
  if isClosed names.dropLast then .error .notFound else .ok (tree.set names entry)

/-- Make a directory at the end of a path; the one above it must be there. -/
def makeOne (tree : FileTree) (path : FilePath) : Except FileError FileTree := do
  let names ← tree.place path
  match tree.entry? names with
  | some _ => .error .alreadyExists
  | none => tree.create names .directory

/-- Make a directory at the end of a path, unless there is one. -/
def ensureOne (tree : FileTree) (path : FilePath) : Except FileError FileTree :=
  match tree.makeOne path with
  | .ok tree => .ok tree
  | .error error => if tree.isDirectory path then .ok tree else .error error

/-- Make a directory at the end of a path and at each beginning of it that is missing. -/
def makeAll (tree : FileTree) (path : FilePath) : Except FileError FileTree :=
  match tree.ensureOne path with
  | .error .notFound =>
      let components := path.components
      (List.range components.length).foldlM
        (fun tree count => tree.ensureOne (.ofComponents (components.take (count + 1))))
        tree
  | result => result

/-- Make the directory that a path stands in. -/
def makeParent (tree : FileTree) (path : FilePath) : Except FileError FileTree :=
  match path.parent? with
  | none | some [] => .ok tree
  | some components => tree.makeAll (.ofComponents components)

/-- Write a file, with the directories above it. -/
def write (tree : FileTree) (path : FilePath) (bytes : ByteArray) : Except FileError FileTree := do
  let tree ← tree.makeParent path
  let names ← tree.place path
  if path.isSlashed then .error .isDirectory
  else
    match tree.entry? names with
    | some .directory => .error .isDirectory
    | some (.socket _) => .error .noDevice
    | some (.file _) => .ok (tree.set names (.file bytes))
    | none => tree.create names (.file bytes)

/-- Remove a file or a socket. A link to a directory stays too. -/
def remove (tree : FileTree) (path : FilePath) : Except FileError FileTree := do
  let (names, entry) ← tree.find path
  match entry with
  | .directory =>
      if isLink names ∧ (tree.place path).toOption = some names then
        .error (if path.isSlashed then .notDirectory else .notPermitted)
      else .error .isDirectory
  | _ => .ok (tree.erase names)

/-- The text of a file. -/
def read (tree : FileTree) (path : FilePath) : Except FileError String :=
  match tree.find path with
  | .error error => .error error
  | .ok (_, .directory) => .error .isDirectory
  | .ok (_, .socket _) => .error .noDevice
  | .ok (_, .file bytes) =>
      match String.fromUTF8? bytes with
      | some text => .ok text
      | none => .error .invalidUtf8

end FileTree
end LintBus

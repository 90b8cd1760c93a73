import LintBus.File.Tree

/-!
# Binding a socket

A socket is bound at a path whose directories are made when they are missing. A file or a socket
at which nobody answers any more gives way to it; one at which someone answers stays. A path that
begins with a NUL is a name for a socket that stands apart from the files, and the empty path
leaves the choice of such a name open.
-/

namespace LintBus
namespace Socket

/-- Number of bytes that hold the path of a socket and the NUL behind it, or the NUL before a name
and the name. -/
def pathLimit : Nat := 108

/-- Clear the place of a socket. -/
def clear (tree : FileTree) (path : FilePath) : Except FileError FileTree :=
  match tree.find path with
  | .error _ => .ok tree
  | .ok (_, .socket true) => .error (.served path.text)
  | .ok _ => tree.remove path

/-- Put a socket that stands apart from the files at a name that is not taken. -/
def detach (tree : FileTree) (name : List Char) : Except FileError FileTree :=
  if pathLimit < byteCount name + 1 then .error .socketNameTooLong
  else if tree.detached.contains name then .error .addressTaken
  else .ok { tree with detached := name :: tree.detached }

/-- Put a socket at a path among the files where nothing stands. -/
def attach (tree : FileTree) (path : FilePath) : Except FileError FileTree :=
  if path.text.toList.contains '\x00' then .error .socketPathNul
  else if pathLimit ≤ path.text.utf8ByteSize then .error .socketPathTooLong
  else
    match tree.place path with
    | .error .alreadyExists => .error .addressTaken
    | .error error => .error error
    | .ok names =>
        if (tree.entry? names).isSome then .error .addressTaken
        else if path.isSlashed then .error .notFound
        else tree.create names (.socket true)

/-- Bind a socket at a path. -/
def bind (tree : FileTree) (path : FilePath) : Except FileError FileTree := do
  let tree ← tree.makeParent path
  let tree ← clear tree path
  match path.text.toList with
  | [] => .ok tree
  | '\x00' :: name => detach tree name
  | _ => attach tree path

/-- Take back what stands at the path of a socket, unless it is a directory by now. -/
def release (tree : FileTree) (path : FilePath) : FileTree :=
  (tree.remove path).toOption.getD tree

end Socket
end LintBus

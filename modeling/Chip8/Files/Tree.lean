import Chip8.Files

/-!
# Trees of files

Directories and files in memory, and the way a path is followed through them.

* **`FileTree`**, with `FileTree.entry`;
* `FileTree.follow`: the entry that names lead to, one name after the other;
* **`FileTree.read`**: the tree as a file system.
-/

namespace Chip8

/-- A directory, or a file with its content. -/
inductive FileEntry where
  | directory
  | file (content : List UInt8)
  deriving DecidableEq, Repr

/-- **A tree of files**, given by the paths of its directories and files. A path is the list of its
names from the root, which is always a directory. -/
structure FileTree where
  directories : List (List String)
  files : List (List String × List UInt8)
  /-- Where relative paths start. -/
  workingDirectory : List String

namespace FileTree

/-- The longest name, in bytes. -/
abbrev maxNameSize : Nat := 255

/-- The longest path, in bytes. -/
abbrev maxPathSize : Nat := 4095

/-- The entry with a path. -/
def entry (t : FileTree) (path : List String) : Option FileEntry :=
  if path.isEmpty || t.directories.contains path then some .directory
  else (t.files.lookup path).map .file

/-- The entry that names lead to from a directory. Empty names and a dot stay, two dots go up. Only a
directory can be gone through, also by a last slash. -/
def follow (t : FileTree) (here : List String) : List String → Except FileError FileEntry
  | [] => .ok .directory
  | name :: rest =>
    if name = "" ∨ name = "." then t.follow here rest
    else if name = ".." then t.follow here.dropLast rest
    else if maxNameSize < name.utf8ByteSize then .error .nameTooLong
    else
      match t.entry (here ++ [name]) with
      | none => .error .notFound
      | some .directory => t.follow (here ++ [name]) rest
      | some (.file content) => if rest.isEmpty then .ok (.file content) else .error .notADirectory

/-- The entry of a path. -/
def find (t : FileTree) (path : String) : Except FileError FileEntry :=
  if path.contains '\x00' then .error .nullInPath
  else if path.isEmpty then .error .notFound
  else if maxPathSize < path.utf8ByteSize then .error .nameTooLong
  else
    let start := if path.startsWith "/" then [] else t.workingDirectory
    t.follow start (path.splitOn "/")

/-- **The content of the file at a path.** A directory can be opened, but not read. -/
def read (t : FileTree) : FileSystem := fun path =>
  match t.find path with
  | .error cause => .error (.opening cause)
  | .ok .directory => .error (.reading .isADirectory)
  | .ok (.file content) => .ok content

end FileTree

end Chip8

/-!
# Files

A program may be read from a file. What a path leads to is up to the surroundings.

* `FileError`: why a file cannot be used, with `FileError.message`;
* `FileFailure`: whether it could not be opened or not be read;
* **`FileSystem`**: the content of each path, or the failure.
-/

namespace Chip8

/-- Why a file cannot be used. -/
inductive FileError where
  /-- Nothing has this path. -/
  | notFound
  /-- The path goes through something that is no directory. -/
  | notADirectory
  /-- A directory has no content to read. -/
  | isADirectory
  /-- The path holds a null character. -/
  | nullInPath
  /-- The path, or a name in it, is too long. -/
  | nameTooLong
  /-- Access is not allowed. -/
  | permissionDenied
  /-- Any other reason. -/
  | other (message : String)
  deriving DecidableEq, Repr

/-- The reason in words; those the operating system gives come with their number. -/
def FileError.message : FileError → String
  | notFound => "No such file or directory (os error 2)"
  | notADirectory => "Not a directory (os error 20)"
  | isADirectory => "Is a directory (os error 21)"
  | nullInPath => "file name contained an unexpected NUL byte"
  | nameTooLong => "File name too long (os error 36)"
  | permissionDenied => "Permission denied (os error 13)"
  | other message => message

/-- The step that failed. -/
inductive FileFailure where
  | opening (cause : FileError)
  | reading (cause : FileError)
  deriving DecidableEq, Repr

/-- **The content of the file at each path**, or why there is none. -/
abbrev FileSystem := String → Except FileFailure (List UInt8)

end Chip8

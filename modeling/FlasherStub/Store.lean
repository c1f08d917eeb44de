/-!
The file operations the program needs, as a class over a monad: reading a file, asking whether a
path names a regular file, writing a file and creating a directory with its parents. Failures are
`IoError`s with the operating system's wording. A path holding a NUL byte cannot be handed to
the operating system at all, and is refused before any call. `FlasherStub.Tree` is a model of a
directory in which they are pure functions, and a program's outer layer implements them on real
files.
-/

namespace FlasherStub

/-- Why a file operation failed. -/
inductive IoError where
  | notFound
  | notADirectory
  | isADirectory
  | alreadyExists
  | permissionDenied
  | nameTooLong
  | nulInName
  | invalidUtf8
  | other (text : String)
  deriving DecidableEq, Repr

/-- The wording of an I/O failure. -/
def IoError.message : IoError → String
  | .notFound => "No such file or directory (os error 2)"
  | .notADirectory => "Not a directory (os error 20)"
  | .isADirectory => "Is a directory (os error 21)"
  | .alreadyExists => "File exists (os error 17)"
  | .permissionDenied => "Permission denied (os error 13)"
  | .nameTooLong => "File name too long (os error 36)"
  | .nulInName => "file name contained an unexpected NUL byte"
  | .invalidUtf8 => "stream did not contain valid UTF-8"
  | .other t => t

/-- The refusal of a path before the operating system sees it: one holding a NUL byte. -/
def pathRefusal? (p : String) : Option IoError :=
  if p.contains '\x00' then some .nulInName else none

/-- File operations in a monad. Paths are text, relative to the working directory unless they
start with `/`. -/
class Store (m : Type → Type) where
  /-- The bytes of a file. -/
  read : String → m (Except IoError (List UInt8))
  /-- Whether a path names a regular file. -/
  isFile : String → m Bool
  /-- Whether a path names a directory. -/
  isDir : String → m Bool
  /-- Replaces or creates a file. -/
  write : String → List UInt8 → m (Except IoError Unit)
  /-- Creates one directory, whose parent must exist. -/
  makeDir : String → m (Except IoError Unit)

end FlasherStub

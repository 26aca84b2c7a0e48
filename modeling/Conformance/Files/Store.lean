import Conformance.Files.Path

/-!
# Stores of files

The one view of files that this library has: a text can be read, a directory can be listed, and a
path can be asked what it is. Everything that loads files is written against this view, over any
monad, so that it runs on the files of the system as well as on a tree in memory.
-/

namespace Conformance

/-- Why a file could not be read, or a directory not be listed. -/
inductive FileError where
  /-- There is nothing at the path. -/
  | notFound
  /-- A part of the path is not a directory. -/
  | notADirectory
  /-- The path is a directory. -/
  | isADirectory
  /-- The file is not text. -/
  | notText
  /-- Any other reason, in the words of the system. -/
  | other (words : String)
deriving DecidableEq, Repr

/-- The wording of an error, with the number that the system gives it. -/
def FileError.message : FileError → String
  | notFound => "No such file or directory (os error 2)"
  | notADirectory => "Not a directory (os error 20)"
  | isADirectory => "Is a directory (os error 21)"
  | notText => "stream did not contain valid UTF-8"
  | other words => words

/-- A view of files. -/
structure FileStore (m : Type → Type) where
  /-- The text of a file. -/
  read : String → m (Except FileError String)
  /-- The names in a directory, in any order. -/
  list : String → m (Except FileError (List String))
  /-- Whether there is a directory at a path. -/
  isDirectory : String → m Bool
  /-- Whether there is a file at a path. -/
  isFile : String → m Bool

end Conformance

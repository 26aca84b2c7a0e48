import Conformance.CommandLine.Run

/-!
# The command line program

The files of the system as a `Conformance.FileStore`, and the program that runs its command line on
them.
-/

namespace Conformance

namespace FileError

/-- What an error of the system means. -/
def ofSystem : IO.Error → FileError
  | .noFileOrDirectory _ _ _ => .notFound
  | .inappropriateType _ _ _ => .notADirectory
  | e => .other (toString e)

end FileError

namespace SystemFiles

/-- The entry of a path. -/
def entry (path : String) : IO.FS.DirEntry := ⟨path, ""⟩

/-- Whether there is something of a type at a path. -/
def hasType (path : String) (type : IO.FS.FileType) : IO Bool := do
  match ← (entry path).root.metadata.toBaseIO with
  | .ok m => return m.type == type
  | .error _ => return false

/-- Reads the text of a file. -/
def readText (path : String) : IO (Except FileError String) := do
  if ← hasType path .dir then return .error .isADirectory
  match ← (IO.FS.readBinFile path).toBaseIO with
  | .error e => return .error (.ofSystem e)
  | .ok content =>
    match String.fromUTF8? content with
    | some text => return .ok text
    | none => return .error .notText

/-- Lists the names in a directory. -/
def names (path : String) : IO (Except FileError (List String)) := do
  if ← hasType path .file then return .error .notADirectory
  match ← (entry path).root.readDir.toBaseIO with
  | .error e => return .error (.ofSystem e)
  | .ok entries => return .ok (entries.toList.map (·.fileName))

/-- The files of the system. -/
def store : FileStore IO where
  read := readText
  list := names
  isDirectory path := hasType path .dir
  isFile path := hasType path .file

end SystemFiles

end Conformance

/-- Runs the command line, prints what it has to say and exits with its code. -/
def main (words : List String) : IO UInt32 := do
  let exit ← Conformance.CommandLine.run Conformance.SystemFiles.store words
  (← IO.getStdout).putStr exit.output
  return exit.code.toUInt32

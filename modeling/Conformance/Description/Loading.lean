import Conformance.Description.Reading
import Conformance.Files.Store
import Conformance.Source.Text

/-!
# Loading type descriptions

Type descriptions come from a text, a file, or a directory of description files. A type that is
described twice is an error, within one text as well as across files.

* `Conformance.Registry.parse` – the registry of a text;
* `Conformance.Registry.loadFile`, `Conformance.Registry.loadDirectory`,
  `Conformance.Registry.load` – the registry of a file, of a directory, and of either.
-/

namespace Conformance

/-- Why type descriptions or a document could not be loaded. -/
inductive LoadCause where
  /-- The file could not be read. -/
  | unreadable (e : FileError)
  /-- The directory could not be listed. -/
  | unlistable (e : FileError)
  /-- The text is faulty. -/
  | malformed (fault : ReadFault)
deriving DecidableEq, Repr

/-- Why there is no registry. -/
inductive DescriptionError where
  /-- The descriptions of this origin could not be loaded. -/
  | notLoaded (origin : String) (cause : LoadCause)
  /-- A type of this origin had been described before. -/
  | duplicateType (name origin : String)
deriving DecidableEq, Repr

/-- The wording of an error. -/
def DescriptionError.message : DescriptionError → String
  | notLoaded origin cause =>
    let reason := match cause with
      | .unreadable e => e.message
      | .unlistable e => "cannot read type directory: " ++ e.message
      | .malformed fault => fault.reason
    "failed to load type descriptions " ++ origin ++ ": " ++ reason
  | duplicateType name origin =>
    "type '" ++ name ++ "' is described more than once (duplicate in " ++ origin ++ ")"

namespace Registry

/-- The origin named for a text that is no file. -/
def inlineOrigin : String := "<inline>"

/-- Adds types of one origin, none of which may be there already. -/
def mergeFrom (r : Registry) (origin : String) (types : List ObjectType) :
    Except DescriptionError Registry :=
  match r.merge types with
  | .ok r => .ok r
  | .error name => .error (.duplicateType name origin)

/-- The registry of a text that has been read. -/
def ofSource (t : SourceText) (origin : String) : Except DescriptionError Registry :=
  match t.decode t.readTypes with
  | .error fault => .error (.notLoaded origin (.malformed fault))
  | .ok types => empty.mergeFrom origin types

/-- The registry of a text. -/
def parse (format : Format) (text : String) (origin : String) : Except DescriptionError Registry :=
  ofSource (.ofText format text) origin

section Files

variable {m : Type → Type} [Monad m]

/-- The registry of a file. -/
def loadFile (files : FileStore m) (path : String) : m (Except DescriptionError Registry) := do
  match ← files.read path with
  | .error e => return .error (.notLoaded path (.unreadable e))
  | .ok text => return parse (FilePath.format path) text path

/-- Adds the types of a file, in the order of their names. -/
def mergeFile (files : FileStore m) (r : Registry) (path : String) :
    m (Except DescriptionError Registry) := do
  match ← loadFile files path with
  | .error e => return .error e
  | .ok types => return r.mergeFrom path types.toList

/-- Adds the types of files in turn, up to the first error. -/
def mergeFiles (files : FileStore m) (r : Registry) :
    List String → m (Except DescriptionError Registry)
  | [] => return .ok r
  | path :: rest => do
    match ← mergeFile files r path with
    | .error e => return .error e
    | .ok r => mergeFiles files r rest

/-- How the names of description files end. -/
def fileSuffixes : List String := [".types.yaml", ".types.yml", ".types.json"]

/-- Whether a file of this name in a directory is a description file. -/
def isDescriptionFile (name : String) : Bool :=
  fileSuffixes.any fun suffix => suffix.toList.isSuffixOf name.toList

/-- The names in order. -/
def sortNames (names : List String) : List String :=
  names.mergeSort fun a b => !Text.before b a

/-- The registry of all description files in a directory, in the order of their names. -/
def loadDirectory (files : FileStore m) (path : String) : m (Except DescriptionError Registry) := do
  match ← files.list path with
  | .error e => return .error (.notLoaded path (.unlistable e))
  | .ok names =>
    let paths := (sortNames (names.filter isDescriptionFile)).map (FilePath.join path)
    let paths ← paths.filterM files.isFile
    mergeFiles files empty paths

/-- The registry of a directory or a file. -/
def load (files : FileStore m) (path : String) : m (Except DescriptionError Registry) := do
  if ← files.isDirectory path then loadDirectory files path else loadFile files path

end Files

end Registry

end Conformance

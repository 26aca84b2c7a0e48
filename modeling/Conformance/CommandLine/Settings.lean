import Conformance.Files.Store
import Conformance.Schema.ModeReading
import Conformance.Source.Text

/-!
# The settings file

An optional YAML file that names the type descriptions and the mode. It allows no other keys. A
relative path in it is taken from the directory that holds the file.

* `Conformance.Settings.load` – the settings of a file.
-/

namespace Conformance

/-- The settings that a file may give. -/
structure Settings where
  /-- Where the type descriptions are. -/
  types : Option String
  /-- What holds where a description is silent. -/
  mode : Option Mode
deriving DecidableEq, Repr

/-- Why there are no settings. -/
inductive SettingsError where
  /-- The file could not be read. -/
  | unreadable (path : String) (e : FileError)
  /-- The text is faulty. -/
  | malformed (path : String) (fault : ReadFault)
deriving DecidableEq, Repr

/-- The wording of an error, the outermost context first. -/
def SettingsError.chain : SettingsError → List String
  | unreadable path e => ["cannot read config file " ++ path, e.message]
  | malformed path fault => ["invalid config file " ++ path, fault.reason]

namespace Settings

/-- No settings. -/
def empty : Settings := ⟨none, none⟩

/-- The keys that are allowed. -/
def keys : List String := ["types", SourceText.modeKey]

/-- The settings read so far, a key being there once it was met. -/
structure Draft where
  /-- Where the type descriptions are. -/
  types : Option (Option String)
  /-- What holds where a description is silent. -/
  mode : Option (Option Mode)

/-- Adds one entry to the settings read so far. -/
def readEntry (t : SourceText) (depth : Nat) (d : Draft) (k v : Source) : Reading Draft := do
  let key ← t.readKey k
  if key == "types" then
    if d.types.isSome then throw (.duplicateField key)
    return { d with types := some (← t.readOptional t.readString v) }
  else if key == SourceText.modeKey then
    if d.mode.isSome then throw (.duplicateField key)
    return { d with mode := some (← t.readOptional (t.readMode depth) v) }
  else throw (.unknownField key keys)

/-- The settings of a node. -/
def read (t : SourceText) (depth : Nat) (s : Source) : Reading Settings := do
  let entries ← t.readEntries depth s
  let draft ← entries.foldlM (fun d e => readEntry t (depth - 1) d e.1 e.2) ⟨none, none⟩
  return ⟨draft.types.join, draft.mode.join⟩

/-- The settings with paths taken from the directory of their file. -/
def relativeTo (s : Settings) (path : String) : Settings :=
  match FilePath.parent? path with
  | none => s
  | some base => { s with types := s.types.map (FilePath.join base) }

/-- The settings of a file. -/
def load {m : Type → Type} [Monad m] (files : FileStore m) (path : String) :
    m (Except SettingsError Settings) := do
  match ← files.read path with
  | .error e => return .error (.unreadable path e)
  | .ok text =>
    let t := SourceText.ofText .yaml text
    match t.decode (read t) with
    | .error fault => return .error (.malformed path fault)
    | .ok s => return .ok (s.relativeTo path)

/-- The settings of a file, or none without a file. -/
def loadOptional {m : Type → Type} [Monad m] (files : FileStore m) :
    Option String → m (Except SettingsError Settings)
  | none => return .ok empty
  | some path => load files path

end Settings

end Conformance

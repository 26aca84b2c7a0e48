import Conformance.CommandLine.Settings
import Conformance.Description.Loading
import Conformance.Schema.Generator

/-!
# Where a schema comes from

A schema is derived from the type descriptions and the mode that the command line or the settings
name; the command line counts before the settings.

* `Conformance.SchemaSource.build` – the schema.
-/

namespace Conformance

/-- What the command line says about a schema. -/
structure SchemaSource where
  /-- Where the type descriptions are. -/
  types : Option String
  /-- The name of the root type. -/
  typeName : String
  /-- What holds where a description is silent. -/
  mode : Option Mode

/-- Why a command did not run. -/
inductive CommandError where
  /-- There are no settings. -/
  | settings (e : SettingsError)
  /-- No type descriptions are named. -/
  | noTypes
  /-- The type descriptions could not be loaded. -/
  | types (path : String) (e : DescriptionError)
  /-- The root type has no schema. -/
  | schema (typeName : String) (e : GenerationError)
deriving DecidableEq, Repr

/-- The wording of an error, the outermost context first. -/
def CommandError.chain : CommandError → List String
  | settings e => e.chain
  | noTypes =>
    ["no type descriptions given: pass --types or set \x60types\x60 in the config file"]
  | types path e => ["failed to load type descriptions from " ++ path, e.message]
  | schema typeName e => ["cannot derive a schema for type '" ++ typeName ++ "'", e.message]

namespace SchemaSource

/-- The schema, with what the settings add. -/
def build {m : Type → Type} [Monad m] (files : FileStore m) (s : SchemaSource)
    (settings : Settings) : m (Except CommandError Schema) := do
  match s.types.or settings.types with
  | none => return .error .noTypes
  | some path =>
    match ← Registry.load files path with
    | .error e => return .error (.types path e)
    | .ok registry =>
      match Schema.generate registry s.typeName ((s.mode.or settings.mode).getD .explicitOnly) with
      | .error e => return .error (.schema s.typeName e)
      | .ok schema => return .ok schema

end SchemaSource

end Conformance

import Conformance.Schema.Mode
import Conformance.Source.Reading

/-!
# Reading modes

A mode is written as its name. A JSON text may also write it as an object with that name as its only
key and null under it, and a YAML text as a tag with that name on an empty value.

* `Conformance.SourceText.readMode` – the decoder;
* `Conformance.Mode.ofSource` – the mode in a mapping of options.
-/

namespace Conformance.SourceText

/-- The mode of a name. -/
def modeOfName (name : String) : Reading Mode :=
  match Mode.ofName? name with
  | some m => return m
  | none => throw (.unknownVariant name Mode.names)

/-- Checks that a node is null. -/
def readNull (t : SourceText) (s : Source) : Reading Unit := do
  match ← t.follow s with
  | .json .null => return ()
  | .scalar scalar =>
    if scalar.style = .plain && (scalar.text.isEmpty || Scalar.looksNull scalar.text) then return ()
    else throw .invalidValue
  | s => throw (mismatch s)

/-- The name in a tag of the document's own. -/
def localTagName? (tag : Option String) : Option String :=
  match tag.map String.toList with
  | some ('!' :: name) => some (String.ofList name)
  | _ => none

/-- A mode written as a JSON object. -/
def readModeObject (t : SourceText) (depth : Nat) :
    List (Source × Source) → Reading Mode
  | (k, v) :: rest => do
    if depth == 0 then throw .recursionLimit
    let m ← modeOfName (← t.readString k)
    t.readNull v
    if rest.isEmpty then return m else throw .syntaxFault
  | [] => do
    if depth == 0 then throw .recursionLimit
    throw .syntaxFault

/-- A mode. -/
def readMode (t : SourceText) (depth : Nat) (s : Source) : Reading Mode := do
  match ← t.follow s with
  | .json (.string name) => modeOfName name
  | .json _ => throw .syntaxFault
  | .scalar scalar =>
    match localTagName? scalar.tag with
    | none => modeOfName scalar.text
    | some name =>
      let m ← modeOfName name
      t.readNull (.scalar scalar)
      return m
  | .seq tag items =>
    match t.format, localTagName? tag with
    | .json, _ => throw .syntaxFault
    | .yaml, none => throw .invalidType
    | .yaml, some name =>
      let _ ← modeOfName name
      t.readNull (.seq tag items)
      throw .invalidType
  | .map tag entries =>
    match t.format, localTagName? tag with
    | .json, _ => t.readModeObject depth entries
    | .yaml, none => throw .invalidType
    | .yaml, some name =>
      let _ ← modeOfName name
      t.readNull (.map tag entries)
      throw .invalidType
  | s => throw (mismatch s)

/-- The key under which options name the mode. -/
def modeKey : String := "default_required"

/-- Adds one entry to the options that have been read. -/
def readModeEntry (t : SourceText) (depth : Nat) (d : Option Mode) (k v : Source) :
    Reading (Option Mode) := do
  let key ← t.readKey k
  if key == modeKey then
    if d.isSome then throw (.duplicateField key)
    return some (← t.readMode depth v)
  else
    skip v
    return d

/-- The mode in a mapping of options; other keys are passed over. A JSON text may write the mapping
as an array of its one value. -/
def readModeOption (t : SourceText) (depth : Nat) (s : Source) : Reading Mode := do
  match ← t.positional? depth s with
  | some [] => return .explicitOnly
  | some [m] => t.readMode (depth - 1) m
  | some (m :: _) =>
    let _ ← t.readMode (depth - 1) m
    throw .syntaxFault
  | none =>
    let entries ← t.readEntries depth s
    let mode ← entries.foldlM (fun d e => t.readModeEntry (depth - 1) d e.1 e.2) none
    return mode.getD .explicitOnly

end Conformance.SourceText

/-- The mode in a text with options. -/
def Conformance.Mode.ofSource (t : Conformance.SourceText) :
    Except Conformance.ReadFault Conformance.Mode :=
  t.decode t.readModeOption

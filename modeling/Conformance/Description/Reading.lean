import Conformance.Description.Registry
import Conformance.Document.Reading
import Conformance.TypeExpr.Reading

/-!
# Reading description files

A description file is a mapping with a list of types, a type is a mapping with a name and a list of
fields, and a field is a mapping with its constraints. In JSON the first two may also be written as
arrays of their values in this order. Keys without a meaning are passed over in files and types, and
kept as annotations in fields.

* `Conformance.SourceText.readField`, `Conformance.SourceText.readType`,
  `Conformance.SourceText.readTypes` – the decoders;
* `Conformance.Registry.ofSource` – the registry of a whole text.
-/

namespace Conformance.SourceText

/-! ### Annotations -/

/-- The value of a YAML scalar in an annotation. What no JSON value can stand for becomes null. -/
def scalarAnnotationValue (s : Scalar) : Except ReadFault Document :=
  if Scalar.hasLocalTag s.tag then .error .syntaxFault
  else
    match s.meaning with
    | .nonFinite _ => .ok .null
    | _ => scalarDocument s

/-- Whether a node may be a key inside an annotation: it has to be a text by its own look. -/
def isTextKey : Source → Bool
  | .json (.string _) => true
  | .scalar s =>
    match s.meaning with
    | .text _ => true
    | _ => false
  | _ => false

/-- The value of an annotation, and whether all keys inside it are texts. -/
def readAnnotationValue (t : SourceText) : Nat → Source → Reading (Document × Bool)
  | depth, s => do
    match ← t.follow s with
    | .json leaf => return (← leafDocument leaf, true)
    | .scalar scalar => return (← scalarAnnotationValue scalar, true)
    | .nothing => return (.null, true)
    | .seq tag items =>
      if Scalar.hasLocalTag tag then throw .syntaxFault
      match depth with
      | 0 => throw .recursionLimit
      | depth + 1 =>
        let items ← items.mapM (readAnnotationValue t depth)
        return (.array (items.map (·.1)), items.all (·.2))
    | .map tag entries =>
      if Scalar.hasLocalTag tag then throw .syntaxFault
      match depth with
      | 0 => throw .recursionLimit
      | depth + 1 =>
        let entries ← entries.mapM fun (k, v) => do
          match t.format, ← t.follow k with
          | .json, k =>
            let key ← t.readKey k
            return (key, ← readAnnotationValue t depth v, true)
          | .yaml, k =>
            let (_, keyed) ← readAnnotationValue t depth k
            let key := match k with
              | .scalar s => s.text
              | _ => ""
            return (key, ← readAnnotationValue t depth v, keyed && isTextKey k)
        return (.ofMembers (entries.map fun e => (e.1, e.2.1.1)),
          entries.all fun e => e.2.1.2 && e.2.2)
    | s => throw (mismatch s)

/-! ### Fields -/

/-- A type expression. -/
def readTypeExpr (t : SourceText) (s : Source) : Reading TypeExpr := do
  let text ← t.readString s
  match TypeExpr.parse text with
  | .ok e => return e
  | .error e => throw (.typeExpression e.text)

/-- The part of a field that has been read. -/
structure FieldDraft where
  /-- The key of the field. -/
  name : Option String
  /-- Its type. -/
  type : Option TypeExpr
  /-- Whether it has to be there, if that key was met. -/
  required : Option (Option Bool)
  /-- Whether it may be null, if that key was met. -/
  nullable : Option (Option Bool)
  /-- Its pattern, if that key was met. -/
  pattern : Option (Option String)
  /-- Its least number of items, if that key was met. -/
  minLength : Option (Option Nat)
  /-- Whether it must not be empty, if that key was met. -/
  nonEmpty : Option Bool
  /-- The annotations met. -/
  annotations : List (String × Document)
  /-- Whether all keys inside annotations are texts. -/
  keyed : Bool

/-- A key may be met once. -/
def once {α : Type} (key : String) (known : Option α) : Reading Unit :=
  if known.isSome then throw (.duplicateField key) else return ()

/-- Adds one entry to the part of a field that has been read. -/
def readFieldEntry (t : SourceText) (depth : Nat) (d : FieldDraft) (k v : Source) :
    Reading FieldDraft := do
  let key ← t.readKey k
  if key == "name" then
    once key d.name
    return { d with name := some (← t.readString v) }
  else if key == "type" then
    once key d.type
    return { d with type := some (← t.readTypeExpr v) }
  else if key == "required" then
    once key d.required
    return { d with required := some (← t.readOptional t.readBool v) }
  else if key == "nullable" then
    once key d.nullable
    return { d with nullable := some (← t.readOptional t.readBool v) }
  else if key == "pattern" then
    once key d.pattern
    return { d with pattern := some (← t.readOptional t.readString v) }
  else if key == "min_length" then
    once key d.minLength
    return { d with minLength := some (← t.readOptional t.readCount v) }
  else if key == "non_empty" then
    once key d.nonEmpty
    return { d with nonEmpty := some (← t.readBool v) }
  else
    let (value, keyed) ← t.readAnnotationValue depth v
    return { d with
      annotations := Keyed.insert key value d.annotations
      keyed := d.keyed && keyed }

/-- A field. It needs a name and a type; the first one that is missing is reported. -/
def readField (t : SourceText) (depth : Nat) (s : Source) : Reading FieldDescription := do
  let entries ← t.readEntries depth s
  let draft ← entries.foldlM (fun d e => t.readFieldEntry (depth - 1) d e.1 e.2)
    ⟨none, none, none, none, none, none, none, [], true⟩
  match draft.name, draft.type with
  | none, _ => throw (.missingField "name")
  | some _, none => throw (.missingField "type")
  | some name, some type =>
    if draft.keyed then
      return ⟨name, type, draft.required.join, draft.nullable.join, draft.pattern.join,
        draft.minLength.join, draft.nonEmpty.getD false, draft.annotations⟩
    else throw .invalidType

/-! ### Types and files -/

/-- The fields of a type. -/
def readFields (t : SourceText) (depth : Nat) (s : Source) : Reading (List FieldDescription) := do
  (← t.readItems depth s).mapM (t.readField (depth - 1))

/-- Adds one entry to the part of a type that has been read. -/
def readTypeEntry (t : SourceText) (depth : Nat)
    (d : Option String × Option (List FieldDescription)) (k v : Source) :
    Reading (Option String × Option (List FieldDescription)) := do
  let key ← t.readKey k
  if key == "name" then
    once key d.1
    return (some (← t.readString v), d.2)
  else if key == "fields" then
    once key d.2
    return (d.1, some (← t.readFields depth v))
  else
    skip v
    return d

/-- A type written as an array of its name and, unless there are none, its fields. -/
def readPositionalType (t : SourceText) (depth : Nat) : List Source → Reading ObjectType
  | [] => throw .invalidLength
  | [name] => return ⟨← t.readString name, []⟩
  | name :: fields :: rest => do
    let name ← t.readString name
    let fields ← t.readFields depth fields
    if rest.isEmpty then return ⟨name, fields⟩ else throw .syntaxFault

/-- A type. It needs a name. -/
def readType (t : SourceText) (depth : Nat) (s : Source) : Reading ObjectType := do
  match ← t.positional? depth s with
  | some items => t.readPositionalType (depth - 1) items
  | none =>
    let entries ← t.readEntries depth s
    let (name, fields) ← entries.foldlM (fun d e => t.readTypeEntry (depth - 1) d e.1 e.2)
      (none, none)
    match name with
    | none => throw (.missingField "name")
    | some name => return ⟨name, fields.getD []⟩

/-- A list of types. -/
def readTypeList (t : SourceText) (depth : Nat) (s : Source) : Reading (List ObjectType) := do
  (← t.readItems depth s).mapM (t.readType (depth - 1))

/-- Adds one entry to the part of a file that has been read. -/
def readFileEntry (t : SourceText) (depth : Nat) (d : Option (List ObjectType)) (k v : Source) :
    Reading (Option (List ObjectType)) := do
  let key ← t.readKey k
  if key == "types" then
    once key d
    return some (← t.readTypeList depth v)
  else
    skip v
    return d

/-- The types of a file. -/
def readTypes (t : SourceText) (depth : Nat) (s : Source) : Reading (List ObjectType) := do
  match ← t.positional? depth s with
  | some [] => return []
  | some [types] => t.readTypeList (depth - 1) types
  | some (types :: _) => do
    let _ ← t.readTypeList (depth - 1) types
    throw .syntaxFault
  | none =>
    let entries ← t.readEntries depth s
    let types ← entries.foldlM (fun d e => t.readFileEntry (depth - 1) d e.1 e.2) none
    return types.getD []

end Conformance.SourceText

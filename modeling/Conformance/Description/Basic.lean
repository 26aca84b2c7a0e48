import Conformance.TypeExpr.Basic

/-!
# Type descriptions

What the schema is derived from: named object types, each an ordered list of fields with a type and
constraints.

* `Conformance.FieldDescription` – one field;
* `Conformance.FieldDescription.effectiveMinLength` – the least number of items, from two
  constraints that both ask for some;
* `Conformance.FieldDescription.toDocument` – the field as it stands in a description file;
* `Conformance.ObjectType` – one type.
-/

namespace Conformance

/-- One field of an object type. -/
structure FieldDescription where
  /-- The key of the field. -/
  name : String
  /-- Its type. -/
  type : TypeExpr
  /-- Whether it has to be there; left open unless said. -/
  required : Option Bool
  /-- Whether it may be null; left open unless said. -/
  nullable : Option Bool
  /-- A regular expression that texts have to match as a whole. -/
  pattern : Option String
  /-- The least number of items of an array. -/
  minLength : Option Nat
  /-- Whether an array needs at least one item. -/
  nonEmpty : Bool
  /-- Further keys of the description, none of which is a known constraint. -/
  annotations : List (String × Document)

namespace FieldDescription

/-- A field without any constraint. -/
def plain (name : String) (type : TypeExpr) : FieldDescription :=
  ⟨name, type, none, none, none, none, false, []⟩

/-- Attaches a further key, in place of one of the same name. -/
def annotate (f : FieldDescription) (key : String) (value : Document) : FieldDescription :=
  { f with annotations := Keyed.insert key value f.annotations }

/-- The least number of items that the field asks for. A field that must not be empty asks for at
least one, whatever else it asks for. -/
def effectiveMinLength (f : FieldDescription) : Option Nat :=
  match f.minLength, f.nonEmpty with
  | some n, true => some (Nat.max n 1)
  | some n, false => some n
  | none, true => some 1
  | none, false => none

/-- The keys with a meaning of their own. -/
def knownKeys : List String :=
  ["name", "type", "required", "nullable", "pattern", "min_length", "non_empty"]

/-- The known keys that are written, with their values: those with a default only where they differ
from it. -/
def knownMembers (f : FieldDescription) : List (String × Document) :=
  [("name", .string f.name), ("type", .string f.type.text)]
    ++ (f.required.map fun b => ("required", .bool b)).toList
    ++ (f.nullable.map fun b => ("nullable", .bool b)).toList
    ++ (f.pattern.map fun p => ("pattern", .string p)).toList
    ++ (f.minLength.map fun n => ("min_length", .ofCount n)).toList
    ++ (if f.nonEmpty then [("non_empty", .bool true)] else [])

/-- The field as it stands in a description file. An annotation with the name of a known key takes
its place. -/
def toDocument (f : FieldDescription) : Document :=
  .ofMembers (f.knownMembers ++ f.annotations)

/-- Whether two fields are described alike; the two zeros count as one number. -/
def same (f g : FieldDescription) : Bool :=
  f.name == g.name && f.type == g.type && f.required == g.required && f.nullable == g.nullable
    && f.pattern == g.pattern && f.minLength == g.minLength && f.nonEmpty == g.nonEmpty
    && Document.sameMembers f.annotations g.annotations

end FieldDescription

/-- A named object type. -/
structure ObjectType where
  /-- The name it is referred to by. -/
  name : String
  /-- Its fields, in the order of their declaration. -/
  fields : List FieldDescription

namespace ObjectType

/-- The type as it stands in a description file. -/
def toDocument (t : ObjectType) : Document :=
  .ofMembers [("name", .string t.name), ("fields", .array (t.fields.map (·.toDocument)))]

/-- Whether two lists of fields are described alike. -/
def sameFields : List FieldDescription → List FieldDescription → Bool
  | [], [] => true
  | f :: fs, g :: gs => f.same g && sameFields fs gs
  | _, _ => false

/-- Whether two types are described alike. -/
def same (s t : ObjectType) : Bool := s.name == t.name && sameFields s.fields t.fields

end ObjectType

end Conformance

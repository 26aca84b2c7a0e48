import Conformance.Pattern.Basic
import Conformance.TypeExpr.Basic

/-!
# Schemas

A schema is a table of nodes that refer to each other by their place in it, so that types may refer
to themselves and share what they have in common.

* `Conformance.Node` – an object, an array or a scalar;
* `Conformance.SchemaSet` – a finished table, with the places of the named types;
* `Conformance.Schema` – a node of a table, taken as the root.
-/

namespace Conformance

/-- The place of a node in its table. -/
abbrev NodeId := Nat

/-- A field of an object node. -/
structure FieldSchema where
  /-- The key of the field. -/
  name : String
  /-- The node of its value. -/
  schema : NodeId
  /-- Whether the key has to be there. -/
  required : Bool
  /-- Whether null is allowed as its value. -/
  nullable : Bool
deriving DecidableEq, Repr

/-- An object node. -/
structure ObjectSchema where
  /-- The name of its type. -/
  name : String
  /-- Its fields, in the order of their declaration. -/
  fields : List FieldSchema
deriving DecidableEq, Repr

/-- An array node. -/
structure ArraySchema where
  /-- The node of the elements. -/
  element : NodeId
  /-- The least number of elements. -/
  minLength : Option Nat
  /-- Whether null is allowed as an element. -/
  nullableElements : Bool
deriving DecidableEq, Repr

/-- A scalar node. -/
structure ScalarSchema where
  /-- The kind of scalar. -/
  kind : ScalarKind
  /-- A pattern that texts have to match. -/
  pattern : Option Pattern

/-- A node of a schema. -/
inductive Node where
  /-- An object. -/
  | object (o : ObjectSchema)
  /-- An array. -/
  | array (a : ArraySchema)
  /-- A scalar. -/
  | scalar (s : ScalarSchema)

namespace ObjectSchema

/-- The names of the fields that have to be there, in the order of their declaration. -/
def requiredFields (o : ObjectSchema) : List String :=
  (o.fields.filter (·.required)).map (·.name)

/-- The field of a name. -/
def field? (o : ObjectSchema) (name : String) : Option FieldSchema :=
  o.fields.find? fun f => f.name == name

end ObjectSchema

/-- The name of the kind of a node: of an object, an array, or the kind of scalar. -/
def Node.kindName : Node → String
  | .object _ => "object"
  | .array _ => "array"
  | .scalar s => s.kind.keyword

/-- A finished table of nodes. -/
structure SchemaSet where
  /-- The nodes, by place. -/
  nodes : List Node
  /-- The places of the named types, in the order of their names. -/
  types : List (String × NodeId)

namespace SchemaSet

/-- The node at a place. -/
def node? (s : SchemaSet) (id : NodeId) : Option Node := s.nodes[id]?

/-- The place of a named type. -/
def typeId? (s : SchemaSet) (name : String) : Option NodeId := Keyed.find? name s.types

/-- The number of nodes. -/
def size (s : SchemaSet) : Nat := s.nodes.length

end SchemaSet

/-- A table of nodes and the place of its root. -/
structure Schema where
  /-- The table. -/
  set : SchemaSet
  /-- The place of the root. -/
  root : NodeId

/-- The schema with its root at a place, if there is a node. -/
def SchemaSet.schema? (s : SchemaSet) (id : NodeId) : Option Schema :=
  (s.node? id).map fun _ => ⟨s, id⟩

/-- The names of the types in the table, in order. -/
def SchemaSet.typeNames (s : SchemaSet) : List String := Keyed.keys s.types

/-- The schema with its root at a named type, if the type is in the table. -/
def SchemaSet.typeSchema? (s : SchemaSet) (name : String) : Option Schema :=
  (s.typeId? name).bind s.schema?

end Conformance

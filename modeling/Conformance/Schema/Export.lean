import Conformance.Schema.Basic

/-!
# Schemas as JSON Schema

A schema is rendered in the vocabulary of JSON Schema, draft 2020-12. Every object type that is
reached stands once under `$defs` and is referred to by `$ref`, which keeps types that refer to
themselves finite. What may be null is written as a choice with null, and a pattern in its anchored
form, since a search is what JSON Schema does with it.

* `Conformance.Schema.toJsonSchema` – the rendering of a schema, as a document.
-/

namespace Conformance

namespace JsonSchema

/-- The dialect named at the top of every rendering. -/
def dialect : String := "https://json-schema.org/draft/2020-12/schema"

/-- Where the object types stand. -/
def definitionsPointer : String := "#/$defs/"

/-- A schema that asks for a type. -/
def ofType (name : String) : List (String × Document) := [("type", .string name)]

/-- A reference to the object type of a name. -/
def reference (name : String) : List (String × Document) :=
  [("$ref", .string (definitionsPointer ++ name))]

/-- A schema, or a choice between it and null. -/
def orNull (schema : Document) (nullable : Bool) : Document :=
  if nullable then .ofMembers [("anyOf", .array [schema, .ofMembers (ofType "null")])] else schema

/-- The members of the schema of a scalar. A pattern holds for texts only. -/
def ofScalar (s : ScalarSchema) : List (String × Document) :=
  match s.pattern with
  | some p => ofType "string" ++ [("pattern", .string p.anchored)]
  | none => if s.kind == .any then [] else ofType s.kind.keyword

end JsonSchema

namespace SchemaSet

open JsonSchema

/-- The members of the schema of a node. The elements of an array lie below it in the table, which
is why this ends; a place outside the table asks for nothing. -/
def nodeMembers (set : SchemaSet) (id : NodeId) : List (String × Document) :=
  match set.node? id with
  | none => []
  | some (.scalar s) => ofScalar s
  | some (.object o) => reference o.name
  | some (.array a) =>
    let items := if _h : a.element < id then nodeMembers set a.element else []
    ofType "array" ++ [("items", orNull (.ofMembers items) a.nullableElements)]
      ++ (a.minLength.map fun n => ("minItems", Document.ofCount n)).toList
termination_by id

/-- The schema of a node. -/
def nodeSchema (set : SchemaSet) (id : NodeId) : Document := .ofMembers (set.nodeMembers id)

/-- The object node that the schema of a node refers to: the node itself, or the innermost element
of an array. -/
def referred? (set : SchemaSet) (id : NodeId) : Option ObjectSchema :=
  match set.node? id with
  | some (.object o) => some o
  | some (.array a) => if _h : a.element < id then referred? set a.element else none
  | _ => none
termination_by id

/-- The schema of an object type. -/
def objectBody (set : SchemaSet) (o : ObjectSchema) : Document :=
  let properties := o.fields.map fun f => (f.name, orNull (set.nodeSchema f.schema) f.nullable)
  .ofMembers [("type", .string "object"), ("properties", .ofMembers properties),
    ("required", .array (o.requiredFields.map .string))]

/-- The names of all object nodes. -/
def objectNames (set : SchemaSet) : List String :=
  set.nodes.filterMap fun
    | .object o => some o.name
    | _ => none

/-- The schemas of the object types that are reached from the pending ones. Each type is rendered
once: it is taken out of the names that are left. -/
def definitions (set : SchemaSet) (left : List String) (pending : List ObjectSchema) :
    List (String × Document) :=
  match pending with
  | [] => []
  | o :: rest =>
    if _h : o.name ∈ left then
      let reached := o.fields.filterMap fun f => set.referred? f.schema
      (o.name, set.objectBody o) :: definitions set (left.erase o.name) (reached ++ rest)
    else definitions set left rest
termination_by (left.length, pending.length)
decreasing_by
  · refine Prod.Lex.left _ _ ?_
    have := List.length_pos_of_mem _h
    rw [List.length_erase_of_mem _h]
    omega
  · exact Prod.Lex.right _ (by simp)

end SchemaSet

/-- The JSON Schema of a schema. -/
def Schema.toJsonSchema (s : Schema) : Document :=
  let definitions := s.set.definitions s.set.objectNames (s.set.referred? s.root).toList
  let members := s.set.nodeMembers s.root ++ [("$schema", .string JsonSchema.dialect)]
  .ofMembers (if definitions.isEmpty then members
    else members ++ [("$defs", .ofMembers definitions)])

end Conformance

import Conformance.Description.Registry
import Conformance.Schema.Basic
import Conformance.Schema.Mode

/-!
# From descriptions to schemas

A generator turns type expressions into nodes. It remembers the node of every type expression it has
met, so that each has one node only, and it reserves the node of an object type before it looks at
the fields, so that a type that refers to itself finds its own node. A field with constraints of its
own always gets a node of its own.

* `Conformance.Generator.generateExpr`, `Conformance.Generator.generate` – the node of a type
  expression or of a named type; a failure leaves the generator as it was;
* `Conformance.Generator.generateAll` – the nodes of all types of the registry;
* `Conformance.Generator.finish` – the finished table;
* `Conformance.Schema.generate` – the schema of one type.

The recursion ends because the types whose fields are being looked at are taken out of the registry
that is passed on: such a type is remembered, and is not looked up again.
-/

namespace Conformance

/-! ### Errors -/

/-- Why a description has no schema. -/
inductive GenerationError where
  /-- A field carries a key that is no known constraint. -/
  | unsupportedConstraint (type field constraint : String)
  /-- A type is referred to, but not described. -/
  | unknownType (name referencedFrom : String)
  /-- A pattern is not a regular expression. -/
  | invalidPattern (type field pattern : String)
  /-- A constraint does not apply to the type of its field. -/
  | constraintMismatch (type field constraint expr : String)
  /-- Two fields of a type have one name. -/
  | duplicateField (type field : String)
deriving DecidableEq, Repr

/-- The wording of an error. -/
def GenerationError.message : GenerationError → String
  | unsupportedConstraint type field constraint =>
    "unsupported constraint '" ++ constraint ++ "' on " ++ type ++ "." ++ field
  | unknownType name referencedFrom =>
    "unknown type '" ++ name ++ "' referenced from " ++ referencedFrom
  | invalidPattern type field pattern =>
    "invalid pattern '" ++ pattern ++ "' on " ++ type ++ "." ++ field
  | constraintMismatch type field constraint expr =>
    "constraint '" ++ constraint ++ "' on " ++ type ++ "." ++ field
      ++ " does not apply to type " ++ expr
  | duplicateField type field => "field '" ++ field ++ "' is declared more than once on " ++ type

/-! ### State -/

/-- The nodes made so far, and the node of each type expression met. -/
structure Arena where
  /-- The nodes, by place. -/
  nodes : List Node
  /-- The place of each type expression met, the last one first. -/
  cache : List (TypeExpr × NodeId)

namespace Arena

/-- Nothing made yet. -/
def empty : Arena := ⟨[], []⟩

/-- The place of a type expression that was met before. -/
def cached? (a : Arena) (e : TypeExpr) : Option NodeId := a.cache.lookup e

/-- Adds a node; also its place. -/
def push (a : Arena) (n : Node) : NodeId × Arena :=
  (a.nodes.length, { a with nodes := a.nodes ++ [n] })

/-- Remembers the place of a type expression, instead of one remembered before. -/
def remember (a : Arena) (e : TypeExpr) (id : NodeId) : Arena :=
  { a with cache := (e, id) :: a.cache.filter (·.1 != e) }

/-- Puts a node at a place. -/
def fill (a : Arena) (id : NodeId) (n : Node) : Arena := { a with nodes := a.nodes.set id n }

/-- Drops the nodes from a place on, and forgets the type expressions that have theirs there. -/
def rollback (a : Arena) (mark : NodeId) : Arena :=
  ⟨a.nodes.take mark, a.cache.filter (·.2 < mark)⟩

end Arena

/-- A step of generation. What was made before a failure stays until it is rolled back. -/
abbrev Generating (α : Type) := EStateM GenerationError Arena α

namespace Generating

/-- Adds a node. -/
def push (n : Node) : Generating NodeId := modifyGet (·.push n)

/-- Adds the node of a type expression. -/
def pushCached (e : TypeExpr) (n : Node) : Generating NodeId := do
  let id ← push n
  modify (·.remember e id)
  return id

/-! ### Constraints of a field -/

/-- The constraints of a field that need a node of its own. -/
inductive Constraint where
  /-- None. -/
  | none
  /-- A least number of elements, which are of this type. -/
  | minLength (element : TypeExpr) (n : Nat)
  /-- A pattern for scalars of this kind. -/
  | pattern (kind : ScalarKind) (p : Pattern)

/-- The constraint of a field, if the field is well formed: it has no annotation, a least number of
elements only on an array, and a pattern only on texts or on anything. The first fault counts, in
this order. -/
def constraintOf (owner : String) (f : FieldDescription) : Except GenerationError Constraint :=
  match f.annotations with
  | (key, _) :: _ => .error (.unsupportedConstraint owner f.name key)
  | [] =>
    if f.effectiveMinLength.isSome && !f.type.isArray then
      .error (.constraintMismatch owner f.name "min_length" f.type.text)
    else
      match f.pattern, f.type with
      | none, .array element =>
        match f.effectiveMinLength with
        | some n => .ok (.minLength element n)
        | none => .ok .none
      | none, _ => .ok .none
      | some source, .scalar kind =>
        if kind == .string || kind == .any then
          match Pattern.compile? source with
          | some p => .ok (.pattern kind p)
          | none => .error (.invalidPattern owner f.name source)
        else .error (.constraintMismatch owner f.name "pattern" f.type.text)
      | some _, type => .error (.constraintMismatch owner f.name "pattern" type.text)

/-! ### Nodes -/

/-- The node of a field, given the nodes of type expressions. A field with a constraint has a node
of its own; `seen` holds the names of the fields before it. -/
def fieldNode (m : Mode) (nodeOf : TypeExpr → String → Generating NodeId) (owner : String)
    (seen : List String) (f : FieldDescription) : Generating NodeId := do
  if seen.contains f.name then throw (.duplicateField owner f.name)
  let referencedFrom := owner ++ "." ++ f.name
  match ← ofExcept (constraintOf owner f) with
  | .none => nodeOf f.type referencedFrom
  | .minLength element n =>
    let id ← nodeOf element referencedFrom
    push (.array ⟨id, some n, m.nullableElements⟩)
  | .pattern kind p => push (.scalar ⟨kind, some p⟩)

mutual

/-- The node of a type expression, made unless it was met before. Named types are looked up in the
registry given. -/
def exprNode (m : Mode) (r : Registry) (e : TypeExpr) (referencedFrom : String) :
    Generating NodeId := do
  match (← get).cached? e with
  | some id => return id
  | none =>
    match e with
    | .scalar kind => pushCached (.scalar kind) (.scalar ⟨kind, none⟩)
    | .array element =>
      let id ← exprNode m r element referencedFrom
      pushCached (.array element) (.array ⟨id, none, m.nullableElements⟩)
    | .named name =>
      match _h : r.find? name with
      | none => throw (.unknownType name referencedFrom)
      | some type =>
        let id ← pushCached (.named name) (.object ⟨name, []⟩)
        let fields ← fieldNodes m (r.erase name) name [] type.fields
        modify (·.fill id (.object ⟨name, fields⟩))
        return id
termination_by (r.size, 0, sizeOf e)
decreasing_by
  · exact Prod.Lex.right _ (Prod.Lex.right _ (by simp +arith))
  · exact Prod.Lex.left _ _ (Registry.size_erase_lt _h)

/-- The fields of an object node, in order; `seen` holds the names of the fields before them. -/
def fieldNodes (m : Mode) (r : Registry) (owner : String) (seen : List String)
    (fields : List FieldDescription) : Generating (List FieldSchema) := do
  match fields with
  | [] => return []
  | f :: rest =>
    let id ← fieldNode m (fun e referencedFrom => exprNode m r e referencedFrom) owner seen f
    let others ← fieldNodes m r owner (f.name :: seen) rest
    return ⟨f.name, id, m.required f, m.nullable f⟩ :: others
termination_by (r.size, 1, sizeOf fields)
decreasing_by
  · exact Prod.Lex.right _ (Prod.Lex.left _ _ Nat.zero_lt_one)
  · exact Prod.Lex.right _ (Prod.Lex.right _ (by simp +arith))

end

end Generating

/-! ### Generators -/

/-- A generator: the types it may refer to, the mode, and what it has made so far. -/
structure Generator where
  /-- The types that may be referred to. -/
  registry : Registry
  /-- What holds where a description is silent. -/
  mode : Mode
  /-- What has been made so far. -/
  arena : Arena

namespace Generator

/-- A generator that has made nothing. -/
def new (r : Registry) (m : Mode) : Generator := ⟨r, m, .empty⟩

/-- The node of a type expression. What a failure leaves behind is rolled back. -/
def generateExpr (g : Generator) (e : TypeExpr) : Except GenerationError NodeId × Generator :=
  match (Generating.exprNode g.mode g.registry e "<root>").run g.arena with
  | .ok id arena => (.ok id, { g with arena })
  | .error error arena =>
    (.error error, { g with arena := arena.rollback g.arena.nodes.length })

/-- The node of a named type. The name is not read as a type expression. -/
def generate (g : Generator) (name : String) : Except GenerationError NodeId × Generator :=
  g.generateExpr (.named name)

/-- The nodes of named types, in turn, up to the first failure. -/
def generateNames (g : Generator) : List String → Except GenerationError Unit × Generator
  | [] => (.ok (), g)
  | name :: rest =>
    match g.generate name with
    | (.ok _, g) => g.generateNames rest
    | (.error error, g) => (.error error, g)

/-- The nodes of all types of the registry, in the order of their names, up to the first failure. -/
def generateAll (g : Generator) : Except GenerationError Unit × Generator :=
  g.generateNames g.registry.names

/-- The named types among the type expressions met. -/
def namedTypes (g : Generator) : List (String × NodeId) :=
  g.arena.cache.filterMap fun
    | (.named name, id) => some (name, id)
    | _ => none

/-- The finished table. -/
def finish (g : Generator) : SchemaSet := ⟨g.arena.nodes, Keyed.ofList g.namedTypes⟩

end Generator

/-- The schema of one named type. -/
def Schema.generate (r : Registry) (name : String) (m : Mode) : Except GenerationError Schema :=
  match (Generator.new r m).generate name with
  | (.ok id, g) => .ok ⟨g.finish, id⟩
  | (.error error, _) => .error error

end Conformance

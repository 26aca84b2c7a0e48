import Conformance.Schema.Basic
import Conformance.Violation.Basic

/-!
# Checking documents

A document is walked along its schema, and everything that departs from it is found in one pass.
What is found in the fields of an object comes in the order of their declaration and before what is
wrong with the object itself; a short array is reported before what is found in its elements. A node
of the wrong kind is not looked into.

* `Conformance.Finding` – a departure and its place;
* `Conformance.SchemaSet.findings` – everything found in a document;
* `Conformance.Schema.validate` – the same as violations;
* `Conformance.Schema.require` – acceptance or rejection as a whole.
-/

namespace Conformance

/-- How a node departs from its schema. -/
inductive Departure where
  /-- An object lacks required fields. -/
  | missing (names : List String)
  /-- A value does not match the pattern. -/
  | patternFailure (value : Document)
  /-- An array has too few elements. -/
  | tooShort (count : Nat)
  /-- A value has the wrong kind. -/
  | wrongKind (value : Document)

/-- A departure and the place of its node. -/
structure Finding where
  /-- The place. -/
  location : Location
  /-- What is wrong there. -/
  departure : Departure

/-- A finding as a violation. -/
def Finding.toViolation (f : Finding) : Violation :=
  match f.departure with
  | .missing names => .required f.location.path names
  | .patternFailure value => .pattern f.location.path value
  | .tooShort count => .minLength f.location.path count
  | .wrongKind value => .typeMismatch f.location.path value

namespace ScalarSchema

/-- Whether a document satisfies the pattern, if there is one; only texts can. -/
def patternHolds (s : ScalarSchema) (d : Document) : Bool :=
  match s.pattern with
  | none => true
  | some p =>
    match d.asString? with
    | some text => p.isMatch text
    | none => false

/-- What is found in a scalar: a failing pattern counts before a wrong kind. -/
def findings (s : ScalarSchema) (l : Location) (d : Document) : List Finding :=
  if !s.patternHolds d then [⟨l, .patternFailure d⟩]
  else if !s.kind.accepts d then [⟨l, .wrongKind d⟩]
  else []

end ScalarSchema

namespace ObjectSchema

/-- The required fields without a key, in the order of their declaration. -/
def missingFields (o : ObjectSchema) (members : List (String × Document)) : List String :=
  o.requiredFields.filter fun name => !Keyed.contains name members

/-- What is found at an object itself. -/
def ownFindings (o : ObjectSchema) (l : Location) (members : List (String × Document)) :
    List Finding :=
  match o.missingFields members with
  | [] => []
  | names => [⟨l, .missing names⟩]

end ObjectSchema

namespace ArraySchema

/-- What is found at an array itself. -/
def ownFindings (a : ArraySchema) (l : Location) (items : List Document) : List Finding :=
  match a.minLength with
  | none => []
  | some n => if items.length < n then [⟨l, .tooShort items.length⟩] else []

end ArraySchema

namespace SchemaSet

mutual

/-- What is found in a document at a place, for the node of a table. A place outside the table asks
for nothing. -/
def findings (set : SchemaSet) (id : NodeId) (l : Location) (d : Document) : List Finding :=
  match set.node? id with
  | none => []
  | some (.scalar s) => s.findings l d
  | some (.object o) =>
    match d with
    | .object members =>
      (o.fields.flatMap fun f =>
        match _h : Keyed.find? f.name members with
        | none => []
        | some .null => if f.nullable then [] else [⟨l ++ [.field f.name], .wrongKind .null⟩]
        | some value => findings set f.schema (l ++ [.field f.name]) value)
        ++ o.ownFindings l members
    | d => [⟨l, .wrongKind d⟩]
  | some (.array a) =>
    match d with
    | .array items => a.ownFindings l items ++ elementFindings set a l 0 items
    | d => [⟨l, .wrongKind d⟩]
termination_by sizeOf d
decreasing_by
  · have := Keyed.sizeOf_find?_lt _h
    simp only [Document.object.sizeOf_spec]
    omega
  · simp only [Document.array.sizeOf_spec]
    omega

/-- What is found in the elements of an array, counted from `i`. -/
def elementFindings (set : SchemaSet) (a : ArraySchema) (l : Location) (i : Nat)
    (items : List Document) : List Finding :=
  match items with
  | [] => []
  | item :: rest =>
    (if item.isNull && a.nullableElements then []
      else findings set a.element (l ++ [.index i]) item)
      ++ elementFindings set a l (i + 1) rest
termination_by sizeOf items

end

end SchemaSet

namespace Schema

/-- What is found in a document. -/
def findings (s : Schema) (d : Document) : List Finding := s.set.findings s.root [] d

/-- The violations of a document, in the order of the walk. -/
def validate (s : Schema) (d : Document) : List Violation := (s.findings d).map (·.toViolation)

/-- Accepts a document without violations and rejects any other with all of them. -/
def require (s : Schema) (d : Document) : Except Rejection Unit :=
  match Rejection.ofViolations? (s.validate d) with
  | none => .ok ()
  | some r => .error r

end Schema

end Conformance

import Conformance.Document.Basic
import Conformance.Location

/-!
# Violations

A violation says where a document departs from its schema and how: required fields are missing, a
pattern does not match, an array is too short, or a value has the wrong kind. It carries the value
it complains about, or the names of the missing fields.

* `Conformance.Violation.message`, `Conformance.Violation.text` – its wording, without and with the
  path;
* `Conformance.Rejection` – a nonempty list of violations, as one error.
-/

namespace Conformance

/-- How a document departs from its schema. -/
inductive ViolationKind where
  /-- Required fields are missing. -/
  | required
  /-- A value does not match its pattern. -/
  | pattern
  /-- An array has too few items. -/
  | minLength
  /-- A value has the wrong kind. -/
  | typeMismatch
deriving DecidableEq, Repr

/-- The name of a kind of violation. -/
def ViolationKind.name : ViolationKind → String
  | required => "required"
  | pattern => "pattern"
  | minLength => "min_length"
  | typeMismatch => "type_mismatch"

/-- What a violation complains about. -/
inductive Payload where
  /-- A value. -/
  | value (d : Document)
  /-- The names of fields. -/
  | fields (names : List String)

/-- One departure of a document from its schema. -/
structure Violation where
  /-- The path of the place; empty for the root. -/
  path : String
  /-- The kind of departure. -/
  kind : ViolationKind
  /-- What it complains about. -/
  payload : Payload

namespace Violation

/-- Required fields are missing. -/
def required (path : String) (missing : List String) : Violation :=
  ⟨path, .required, .fields missing⟩

/-- A value does not match its pattern. -/
def pattern (path : String) (value : Document) : Violation := ⟨path, .pattern, .value value⟩

/-- An array has only so many items. -/
def minLength (path : String) (count : Nat) : Violation :=
  ⟨path, .minLength, .value (.ofCount count)⟩

/-- A value has the wrong kind. -/
def typeMismatch (path : String) (value : Document) : Violation :=
  ⟨path, .typeMismatch, .value value⟩

/-- The names of the missing fields, if names are what it carries. -/
def missingFields? (v : Violation) : Option (List String) :=
  match v.payload with
  | .fields names => some names
  | .value _ => none

/-- The wording without the path. A kind with a payload that does not belong to it is worded by its
name. -/
def message (v : Violation) : String :=
  match v.kind, v.payload with
  | .required, .fields names => "required properties are missing: " ++ ", ".intercalate names
  | .pattern, .value d => "value " ++ d.text ++ " does not match the declared pattern"
  | .minLength, .value d =>
    "array item count " ++ d.text ++ " is less than the declared minimum"
  | .typeMismatch, .value d => "unexpected " ++ d.kind.name ++ " value " ++ d.text
  | kind, .fields names => kind.name ++ ": " ++ ", ".intercalate names
  | kind, .value d => kind.name ++ ": " ++ d.text

/-- The wording with the path in front. -/
def text (v : Violation) : String :=
  (if v.path.isEmpty then "(root)" else v.path) ++ ": " ++ v.message

/-- The payload as a JSON value. -/
def payloadJson (v : Violation) : Json :=
  match v.payload with
  | .value d => d.toJson
  | .fields names => .array (names.map .string)

/-- A violation as a JSON value. -/
def toJson (v : Violation) : Json :=
  .object [("path", .string v.path), ("kind", .string v.kind.name), ("value", v.payloadJson)]

end Violation

/-- A document is rejected: it has at least one violation. -/
structure Rejection where
  /-- All violations, in their order. -/
  violations : List Violation
  /-- There is one. -/
  nonempty : violations ≠ []

namespace Rejection

/-- The rejection of a document with these violations; nothing if there are none. -/
def ofViolations? : List Violation → Option Rejection
  | [] => none
  | v :: rest => some ⟨v :: rest, List.cons_ne_nil v rest⟩

/-- The wording in one line. -/
def message (r : Rejection) : String :=
  "document failed schema validation with " ++ Number.natText r.violations.length ++ " error(s)"

/-- One indented line for each violation. -/
def report (r : Rejection) : String :=
  "\n".intercalate (r.violations.map fun v => "  " ++ v.text)

end Rejection

end Conformance

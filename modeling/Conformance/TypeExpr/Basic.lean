import Conformance.Document.Basic

/-!
# Type expressions

The type of a field is a scalar keyword, an array of another type, or the name of an object type.

* `Conformance.TypeExpr.text` – the way a type expression is written;
* `Conformance.ScalarKind.accepts` – the documents that a scalar kind admits.
-/

namespace Conformance

/-- The kinds of scalar a field may hold. -/
inductive ScalarKind where
  /-- Any document at all. -/
  | any
  /-- A text. -/
  | string
  /-- A number. -/
  | number
  /-- A number that is an integer of one word. -/
  | integer
  /-- A truth value. -/
  | boolean
deriving DecidableEq, Repr

namespace ScalarKind

/-- The keyword of a kind. -/
def keyword : ScalarKind → String
  | any => "any"
  | string => "string"
  | number => "number"
  | integer => "integer"
  | boolean => "boolean"

/-- The kind with a keyword. -/
def ofKeyword? (s : String) : Option ScalarKind :=
  if s == "any" then some any
  else if s == "string" then some string
  else if s == "number" then some number
  else if s == "integer" then some integer
  else if s == "boolean" then some boolean
  else none

/-- Whether a document is of the kind. -/
def accepts : ScalarKind → Document → Bool
  | any, _ => true
  | string, .string _ => true
  | number, .number _ => true
  | integer, d => d.isInteger
  | boolean, .bool _ => true
  | _, _ => false

end ScalarKind

/-- The type of a field. -/
inductive TypeExpr where
  /-- A scalar. -/
  | scalar (kind : ScalarKind)
  /-- An array of elements of one type. -/
  | array (element : TypeExpr)
  /-- An object type, by name. -/
  | named (name : String)
deriving DecidableEq, Repr

namespace TypeExpr

/-- The written form: a keyword, `[T]`, or a name. -/
def text : TypeExpr → String
  | scalar kind => kind.keyword
  | array element => "[" ++ element.text ++ "]"
  | named name => name

/-- Whether the type is an array. -/
def isArray : TypeExpr → Bool
  | array _ => true
  | _ => false

end TypeExpr

end Conformance

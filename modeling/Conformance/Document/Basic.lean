import Conformance.Json.Basic
import Conformance.Keyed

/-!
# Documents

The generic value tree that is checked against a schema: null, truth values, numbers and texts as
leaves, arrays, and objects whose keys are unique. The members of an object are kept in the order of
their keys (`Conformance.Keyed`), so that documents with the same content are the same document.

* `Conformance.Document.kind` – the structural kind of a node;
* `Conformance.Document.get?` – the value under a key;
* `Conformance.Document.text` – the compact JSON text, as shown in messages;
* `Conformance.Document.ofJson`, `Conformance.Document.toJson` – the passage from and to JSON
  values.
-/

namespace Conformance

/-- A semi-structured document. -/
inductive Document where
  /-- An explicit null. -/
  | null
  /-- A truth value. -/
  | bool (b : Bool)
  /-- A number. -/
  | number (n : Number)
  /-- A text. -/
  | string (s : String)
  /-- A sequence of documents. -/
  | array (items : List Document)
  /-- A mapping from keys to documents, in the order of the keys. -/
  | object (members : List (String × Document))
deriving Inhabited

/-- The structural kind of a document node. -/
inductive DocumentKind where
  /-- Null. -/
  | null
  /-- A truth value. -/
  | boolean
  /-- A number, integer or double. -/
  | number
  /-- A text. -/
  | string
  /-- A sequence. -/
  | array
  /-- A mapping. -/
  | object
deriving DecidableEq, Repr

/-- The name of a kind in messages. -/
def DocumentKind.name : DocumentKind → String
  | .null => "null"
  | .boolean => "boolean"
  | .number => "number"
  | .string => "string"
  | .array => "array"
  | .object => "object"

namespace Document

/-- The kind of a node. -/
def kind : Document → DocumentKind
  | .null => .null
  | .bool _ => .boolean
  | .number _ => .number
  | .string _ => .string
  | .array _ => .array
  | .object _ => .object

/-- Whether the node is null. -/
def isNull : Document → Bool
  | .null => true
  | _ => false

/-- Whether the node is an integer of one word; a double with an integral value is not. -/
def isInteger : Document → Bool
  | .number (.integer _) => true
  | _ => false

/-- The text of a string node. -/
def asString? : Document → Option String
  | .string s => some s
  | _ => none

/-- The items of an array node. -/
def asArray? : Document → Option (List Document)
  | .array items => some items
  | _ => none

/-- The members of an object node. -/
def asObject? : Document → Option (List (String × Document))
  | .object members => some members
  | _ => none

/-- The value under a key; only objects have any. -/
def get? (d : Document) (key : String) : Option Document :=
  d.asObject?.bind (Keyed.find? key)

/-- The object of a list of members in any order; of two members with one key the later counts. -/
def ofMembers (members : List (String × Document)) : Document := .object (Keyed.ofList members)

/-- A count as a document. -/
def ofCount (n : Nat) : Document := .number (.ofNat n)

/-! ### JSON values -/

mutual

/-- The document of a JSON value. -/
def ofJson : Json → Document
  | .null => .null
  | .bool b => .bool b
  | .number n => .number n
  | .string s => .string s
  | .array items => .array (ofJsonItems items)
  | .object members => .ofMembers (ofJsonMembers members)

/-- The documents of the items of a JSON array. -/
def ofJsonItems : List Json → List Document
  | [] => []
  | v :: rest => ofJson v :: ofJsonItems rest

/-- The documents of the members of a JSON object. -/
def ofJsonMembers : List (String × Json) → List (String × Document)
  | [] => []
  | (k, v) :: rest => (k, ofJson v) :: ofJsonMembers rest

end

mutual

/-- A document as a JSON value, its members in the order of their names. -/
def toJson : Document → Json
  | .null => .null
  | .bool b => .bool b
  | .number n => .number n
  | .string s => .string s
  | .array items => .array (toJsonItems items)
  | .object members => .object (toJsonMembers members)

/-- The items of an array as JSON values. -/
def toJsonItems : List Document → List Json
  | [] => []
  | d :: rest => toJson d :: toJsonItems rest

/-- The members of an object as JSON members. -/
def toJsonMembers : List (String × Document) → List (String × Json)
  | [] => []
  | (k, d) :: rest => (k, toJson d) :: toJsonMembers rest

end

/-! ### Text -/

mutual

/-- The compact JSON text of a document. -/
def text : Document → String
  | .null => "null"
  | .bool b => if b then "true" else "false"
  | .number n => n.text
  | .string s => Json.quote s
  | .array items => "[" ++ itemsText items ++ "]"
  | .object members => "\x7b" ++ membersText members ++ "\x7d"

/-- The items of an array, separated by commas. -/
def itemsText : List Document → String
  | [] => ""
  | [d] => text d
  | d :: rest => text d ++ "," ++ itemsText rest

/-- The members of an object, separated by commas. -/
def membersText : List (String × Document) → String
  | [] => ""
  | [(k, d)] => Json.quote k ++ ":" ++ text d
  | (k, d) :: rest => Json.quote k ++ ":" ++ text d ++ "," ++ membersText rest

end

mutual

/-- **A document is written like its JSON value.** -/
theorem compact_toJson : ∀ d : Document, d.toJson.compact = d.text
  | .null => rfl
  | .bool _ => rfl
  | .number _ => rfl
  | .string _ => rfl
  | .array items => by rw [toJson, Json.compact, text, compactItems_toJsonItems items]
  | .object members => by rw [toJson, Json.compact, text, compactMembers_toJsonMembers members]

theorem compactItems_toJsonItems :
    ∀ items : List Document, Json.compactItems (toJsonItems items) = itemsText items
  | [] => rfl
  | [d] => by rw [itemsText, toJsonItems, toJsonItems, Json.compactItems, compact_toJson d]
  | d :: e :: rest => by
    have hrest := compactItems_toJsonItems (e :: rest)
    rw [toJsonItems] at hrest
    rw [itemsText, toJsonItems, toJsonItems, Json.compactItems, compact_toJson d, hrest]
    all_goals simp

theorem compactMembers_toJsonMembers : ∀ members : List (String × Document),
    Json.compactMembers (toJsonMembers members) = membersText members
  | [] => rfl
  | [(k, d)] => by
    rw [membersText, toJsonMembers, toJsonMembers, Json.compactMembers, compact_toJson d]
  | (k, d) :: e :: rest => by
    have hrest := compactMembers_toJsonMembers (e :: rest)
    rw [toJsonMembers] at hrest
    rw [membersText, toJsonMembers, toJsonMembers, Json.compactMembers, compact_toJson d, hrest]
    all_goals simp

end

/-! ### Equality of values -/

mutual

/-- Whether two documents have the same content; the two zeros count as one number. -/
def sameValue : Document → Document → Bool
  | .null, .null => true
  | .bool a, .bool b => a == b
  | .number a, .number b => a.sameValue b
  | .string a, .string b => a == b
  | .array a, .array b => sameItems a b
  | .object a, .object b => sameMembers a b
  | _, _ => false

/-- Whether two sequences have the same content. -/
def sameItems : List Document → List Document → Bool
  | [], [] => true
  | a :: as, b :: bs => sameValue a b && sameItems as bs
  | _, _ => false

/-- Whether two mappings have the same content. -/
def sameMembers : List (String × Document) → List (String × Document) → Bool
  | [], [] => true
  | (k, a) :: as, (l, b) :: bs => k == l && sameValue a b && sameMembers as bs
  | _, _ => false

end

end Document

end Conformance

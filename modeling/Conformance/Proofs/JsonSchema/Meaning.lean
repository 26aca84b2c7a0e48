import Conformance.Pattern.Basic
import Conformance.Proofs.Documents
import Conformance.Proofs.Entries

/-!
# What a JSON Schema means

The meaning of JSON Schema, draft 2020-12, for the keywords that a rendering uses and in the form in
which it uses them. A schema is a document; it is satisfied by a document if each of its keywords is
(`Conformance.JsonSchema.Valid`), and a member that is no keyword asserts nothing. Most keywords
assert something of one kind of document only, and hold of any other.

| keyword | what it asserts |
|---|---|
| `$ref` | the schema at a place of the whole is satisfied |
| `type` | the document is of a type; a number without a fraction is an `integer` |
| `properties` | the value under each of these keys, where there is one, satisfies its schema |
| `required` | there is a value under each of these keys |
| `items` | every element satisfies the schema |
| `minItems` | there are so many elements |
| `anyOf` | one of the schemas is satisfied |
| `pattern` | the text contains a match of the regular expression |

Validity is defined by its derivations, which are finite: a schema that refers to itself, with no
step into the document in between, is satisfied by nothing.

* `Conformance.JsonSchema.resolve?` – what a reference refers to;
* `Conformance.JsonSchema.valid_ofMembers_iff` – a schema is satisfied if its keywords are.
-/

namespace Conformance

/-! ### Numbers -/

/-- Whether a number has no fraction. -/
def Number.IsIntegral : Number → Prop
  | .integer _ => True
  | .double x => x.toRatio.2 ∣ x.toRatio.1

instance (n : Number) : Decidable n.IsIntegral :=
  match n with
  | .integer _ => inferInstanceAs (Decidable True)
  | .double x => inferInstanceAs (Decidable (x.toRatio.2 ∣ x.toRatio.1))

/-- Whether a number is at most a natural number. -/
def Number.AtMost (k : Nat) : Number → Prop
  | .integer i => i.val ≤ k
  | .double x => x.negative = true ∨ x.toRatio.1 ≤ k * x.toRatio.2

/-- A natural number that fits a word is at most those it is at most. -/
theorem Number.atMost_ofNat {n k : Nat} (h : (n : Int) ≤ WordInt.max) :
    (Number.ofNat n).AtMost k ↔ n ≤ k := by
  rw [ofNat_of_le h]
  exact Int.ofNat_le

namespace JsonSchema

/-! ### References -/

/-- A step of a pointer, in which a slash is written `~1` and a tilde `~0`. -/
def unescape : List Char → List Char
  | '~' :: '1' :: rest => '/' :: unescape rest
  | '~' :: '0' :: rest => '~' :: unescape rest
  | c :: rest => c :: unescape rest
  | [] => []

/-- The steps of a pointer: each follows a slash. -/
def steps? : List Char → Option (List String)
  | [] => some []
  | '/' :: rest => some ((rest.splitOn '/').map fun cs => String.ofList (unescape cs))
  | _ => none

/-- What is reached from a document in steps, each a key or the number of an element. -/
def follow? : List String → Document → Option Document
  | [], d => some d
  | step :: rest, .object members => (Keyed.find? step members).bind (follow? rest)
  | step :: rest, .array items =>
    (items.zipIdx.find? fun p => Number.natText p.2 == step).bind fun p => follow? rest p.1
  | _, _ => none

/-- **What a reference refers to** in the whole: a number sign, and a pointer. -/
def resolve? (root : Document) (ref : String) : Option Document :=
  match ref.toList with
  | '#' :: pointer => (steps? pointer).bind (follow? · root)
  | _ => none

/-! ### Validity -/

/-- The keywords that assert something. -/
inductive Keyword where
  /-- A reference. -/
  | ref
  /-- A type. -/
  | type
  /-- The values of an object. -/
  | properties
  /-- The keys of an object. -/
  | required
  /-- The elements of an array. -/
  | items
  /-- The number of elements of an array. -/
  | minItems
  /-- A choice. -/
  | anyOf
  /-- A regular expression. -/
  | pattern
deriving DecidableEq, Repr

/-- The key of a keyword. -/
def Keyword.key : Keyword → String
  | ref => "$ref"
  | type => "type"
  | properties => "properties"
  | required => "required"
  | items => "items"
  | minItems => "minItems"
  | anyOf => "anyOf"
  | pattern => "pattern"

/-- Whether a document is of the type of a name. -/
def HasType (name : String) : Document → Prop
  | .null => name = "null"
  | .bool _ => name = "boolean"
  | .number n => name = "number" ∨ name = "integer" ∧ n.IsIntegral
  | .string _ => name = "string"
  | .array _ => name = "array"
  | .object _ => name = "object"

mutual

/-- **A document is valid** against a schema, which may refer to the whole it stands in. -/
inductive Valid (root : Document) : Document → Document → Prop where
  /-- Every keyword of the schema holds. -/
  | keywords {members : List (String × Document)} {d : Document}
    (h : ∀ (k : Keyword) (value : Document), Keyed.find? k.key members = some value →
      Holds root k value d) : Valid root (.object members) d

/-- **A keyword holds** of a document, with what stands under it. -/
inductive Holds (root : Document) : Keyword → Document → Document → Prop where
  /-- What is referred to is satisfied. -/
  | ref {ref : String} {target d : Document} (resolves : resolve? root ref = some target)
    (h : Valid root target d) : Holds root .ref (.string ref) d
  /-- The document is of the type. -/
  | type {name : String} {d : Document} (h : HasType name d) : Holds root .type (.string name) d
  /-- Each value with a schema satisfies it. -/
  | properties {schemas : List (String × Document)} {d : Document}
    (h : ∀ (members : List (String × Document)) (key : String) (schema value : Document),
      d = .object members → Keyed.find? key schemas = some schema →
        Keyed.find? key members = some value → Valid root schema value) :
    Holds root .properties (.object schemas) d
  /-- Each key is there. -/
  | required {names : List Document} {d : Document}
    (h : ∀ (members : List (String × Document)) (name : String), d = .object members →
      .string name ∈ names → Keyed.contains name members = true) :
    Holds root .required (.array names) d
  /-- Each element satisfies the schema. -/
  | items {schema d : Document}
    (h : ∀ (elements : List Document) (value : Document), d = .array elements →
      value ∈ elements → Valid root schema value) : Holds root .items schema d
  /-- There are so many elements. -/
  | minItems {n : Number} {d : Document}
    (h : ∀ elements : List Document, d = .array elements → n.AtMost elements.length) :
    Holds root .minItems (.number n) d
  /-- One of the schemas is satisfied. -/
  | anyOf {schemas : List Document} {schema d : Document} (mem : schema ∈ schemas)
    (h : Valid root schema d) : Holds root .anyOf (.array schemas) d
  /-- The text contains a match. -/
  | pattern {source : String} {d : Document}
    (h : ∀ text : String, d = .string text → ∃ regex : Regex RegexLeaf,
      Regex.ofPattern? source.toList = some regex ∧ regex.occursIn text.toList = true) :
    Holds root .pattern (.string source) d

end

variable {root d schema : Document} {members : List (String × Document)}

/-- **A schema is satisfied if its keywords are**, whatever their order; no key may occur twice. -/
theorem valid_ofMembers_iff (h : (members.map (·.1)).Nodup) :
    Valid root (.ofMembers members) d ↔
      ∀ (k : Keyword) (value : Document), (k.key, value) ∈ members → Holds root k value d := by
  constructor
  · intro hv k value hmem
    cases hv with
    | keywords hall => exact hall k value ((Keyed.find?_ofList h).mpr hmem)
  · exact fun hall => .keywords fun k value hfind => hall k value ((Keyed.find?_ofList h).mp hfind)

end JsonSchema

end Conformance

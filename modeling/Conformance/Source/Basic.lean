import Conformance.Number.Literal

/-!
# Text read as far as it goes

A faulty text is not refused as a whole: what stands before the fault can still be wrong in other
ways, and the **first** fault in the order of the text is the one to report. So both text formats
are read into a tree that contains the place where reading stopped, and the decoders
(`Conformance.Source.Reading`) walk this tree in the order of the text.

* `Conformance.Source` – the tree;
* `Conformance.SourceText` – the tree of a whole text, with what follows it;
* `Conformance.ReadFault` – everything that can be wrong with a text.
-/

namespace Conformance

/-- The two text formats. -/
inductive Format where
  /-- JSON. -/
  | json
  /-- YAML. -/
  | yaml
deriving DecidableEq, Repr

/-! ### Faults -/

/-- What is wrong with a text. -/
inductive ReadFault where
  /-- The text does not follow the grammar of its format. -/
  | syntaxFault
  /-- The text is nested too deeply. -/
  | recursionLimit
  /-- A value is of the wrong kind. -/
  | invalidType
  /-- A value is of the right kind, but impossible. -/
  | invalidValue
  /-- A positional form has too few items. -/
  | invalidLength
  /-- A key that has to be there is not. -/
  | missingField (key : String)
  /-- A key that may be given once is given again. -/
  | duplicateField (key : String)
  /-- A key is not one of the keys that are allowed. -/
  | unknownField (key : String) (expected : List String)
  /-- A name is not one of the names that are allowed. -/
  | unknownVariant (name : String) (expected : List String)
  /-- A text is not a type expression. -/
  | typeExpression (text : String)
  /-- A number is infinite or not a number; the text names it. -/
  | nonFinite (text : String)
deriving DecidableEq, Repr

namespace ReadFault

/-- A name between backquotes. -/
def ticked (name : String) : String := "\x60" ++ name ++ "\x60"

/-- A choice of names between backquotes. -/
def choice (names : List String) : String := " or ".intercalate (names.map ticked)

/-- The reason as it is shown. -/
def reason : ReadFault → String
  | syntaxFault => "syntax error"
  | recursionLimit => "recursion limit exceeded"
  | invalidType => "invalid type"
  | invalidValue => "invalid value"
  | invalidLength => "invalid length"
  | missingField key => "missing field " ++ ticked key
  | duplicateField key => "duplicate field " ++ ticked key
  | unknownField key expected =>
    "unknown field " ++ ticked key ++ ", expected " ++ choice expected
  | unknownVariant name expected =>
    "unknown variant " ++ ticked name ++ ", expected " ++ choice expected
  | typeExpression text => "invalid type expression '" ++ text ++ "'"
  | nonFinite text => "non-finite number " ++ text ++ " is not supported"

end ReadFault

/-! ### Leaves -/

/-- A leaf of a JSON text. -/
inductive JsonLeaf where
  /-- The null literal. -/
  | null
  /-- A truth literal. -/
  | bool (b : Bool)
  /-- A number literal. -/
  | number (n : Number)
  /-- A text in quotes. -/
  | string (s : String)
  /-- A literal that is written correctly and denotes nothing: a number that is too large, or a text
  with half a surrogate pair. It may be passed over, but not used. -/
  | void
deriving DecidableEq

/-- How a YAML scalar is written. -/
inductive ScalarStyle where
  /-- Without any marks. -/
  | plain
  /-- In single or double quotes. -/
  | quoted
  /-- As a block that keeps its line breaks. -/
  | literal
  /-- As a block that folds its line breaks. -/
  | folded
deriving DecidableEq, Repr

/-- A scalar of a YAML text. -/
structure Scalar where
  /-- Its text, unescaped and folded. -/
  text : String
  /-- How it is written. -/
  style : ScalarStyle
  /-- Its tag, resolved; nothing if it has none. -/
  tag : Option String
deriving DecidableEq, Repr

/-! ### Trees -/

/-- The tree of a text. -/
inductive Source where
  /-- A leaf of a JSON text. -/
  | json (leaf : JsonLeaf)
  /-- A leaf of a YAML text. -/
  | scalar (s : Scalar)
  /-- A sequence, with its tag. -/
  | seq (tag : Option String) (items : List Source)
  /-- A mapping, with its tag. -/
  | map (tag : Option String) (entries : List (Source × Source))
  /-- A reference to the anchored node of this number. -/
  | alias (anchor : Nat)
  /-- A text with no content at all. -/
  | nothing
  /-- The place where reading stopped. -/
  | broken

/-- A whole text. -/
structure SourceText where
  /-- The format it is written in. -/
  format : Format
  /-- The tree of its content. -/
  root : Source
  /-- The fault met behind the content, if there is one. -/
  after : Option ReadFault
  /-- The anchored nodes. -/
  anchored : List (Nat × Source)
  /-- How many references may be followed. -/
  jumps : Nat

/-- The number of arrays and objects that may lie around a value in JSON. -/
def nestingLimit : Nat := 127

/-- The number of arrays and mappings that may lie around a value: in YAML there is room for one
more than in JSON. -/
def Format.levels : Format → Nat
  | .json => nestingLimit
  | .yaml => nestingLimit + 1

namespace Source

mutual

/-- Whether reading stopped somewhere inside this tree. -/
def isBroken : Source → Bool
  | .broken => true
  | .seq _ items => anyBroken items
  | .map _ entries => anyEntryBroken entries
  | _ => false

/-- Whether reading stopped inside one of the items. -/
def anyBroken : List Source → Bool
  | [] => false
  | s :: rest => isBroken s || anyBroken rest

/-- Whether reading stopped inside one of the entries. -/
def anyEntryBroken : List (Source × Source) → Bool
  | [] => false
  | (k, v) :: rest => isBroken k || isBroken v || anyEntryBroken rest

end

end Source

end Conformance

import Conformance.Document.Basic
import Conformance.Source.Reading

/-!
# Reading documents

The document that a text denotes. Duplicate keys are allowed, and the last one counts; a YAML key is
the text of its scalar, whatever the scalar looks like.

* `Conformance.SourceText.readDocument` – the decoder;
* `Conformance.SourceText.document` – the document of a whole text.
-/

namespace Conformance.SourceText

/-- The document of a YAML scalar. -/
def scalarDocument (s : Scalar) : Except ReadFault Document :=
  if Scalar.hasLocalTag s.tag then .error .invalidType
  else
    match s.meaning with
    | .null => .ok .null
    | .bool b => .ok (.bool b)
    | .integer i => .ok (.number (.integer i))
    | .wide => .error .invalidType
    | .double x => .ok (.number (.double x))
    | .nonFinite name => .error (.nonFinite name)
    | .text s => .ok (.string s)
    | .contradiction => .error .invalidValue

/-- The document of a leaf of a JSON text. -/
def leafDocument : JsonLeaf → Except ReadFault Document
  | .null => .ok .null
  | .bool b => .ok (.bool b)
  | .number n => .ok (.number n)
  | .string s => .ok (.string s)
  | .void => .error .syntaxFault

/-- The document of a node. -/
def readDocument (t : SourceText) : Nat → Source → Reading Document
  | depth, s => do
    match ← t.follow s with
    | .json leaf => leafDocument leaf
    | .scalar scalar => scalarDocument scalar
    | .nothing => return .null
    | .seq tag items =>
      if Scalar.hasLocalTag tag then throw .invalidType
      match depth with
      | 0 => throw .recursionLimit
      | depth + 1 => return .array (← items.mapM (readDocument t depth))
    | .map tag entries =>
      if Scalar.hasLocalTag tag then throw .invalidType
      match depth with
      | 0 => throw .recursionLimit
      | depth + 1 =>
        let members ← entries.mapM fun (k, v) => do
          return (← t.readKey k, ← readDocument t depth v)
        return .ofMembers members
    | s => throw (mismatch s)

/-- The document of a whole text. -/
def document (t : SourceText) : Except ReadFault Document := t.decode t.readDocument

end Conformance.SourceText

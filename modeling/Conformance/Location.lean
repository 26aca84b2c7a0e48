import Conformance.Number.Basic

/-!
# Places in a document

A place is the list of steps that lead to it from the root; a step enters a field of an object or an
element of an array. Messages show a place as a **path**, such as `cc[0].email`.

* `Conformance.Location` – places;
* `Conformance.Location.path` – the path of a place, the empty text for the root.
-/

namespace Conformance

/-- One step into a document. -/
inductive Segment where
  /-- Into the field of this name. -/
  | field (name : String)
  /-- Into the element of this index, counted from zero. -/
  | index (i : Nat)
deriving DecidableEq, Repr

/-- The path one step further: a field follows a point, except right at the root, and an index
stands in brackets. -/
def Segment.extend (parent : String) : Segment → String
  | .field name => if parent.isEmpty then name else parent ++ "." ++ name
  | .index i => parent ++ "[" ++ Number.natText i ++ "]"

/-- A place in a document: the steps from the root. -/
abbrev Location := List Segment

namespace Location

/-- The path of a place. -/
def path (l : Location) : String := l.foldl Segment.extend ""

/-- The paths on the way from a path along further steps, one after each step. -/
def pathsFrom (start : String) : Location → List String
  | [] => []
  | s :: rest => s.extend start :: pathsFrom (s.extend start) rest

end Location

end Conformance

import Conformance.Yaml.Scalar

/-!
# Decoding in the order of the text

A decoder walks a `Conformance.SourceText` and ends at the first fault. It follows references
between nodes, of which only so many are allowed, and it counts the nesting that is left: a decoder
that takes `depth` may look inside arrays and mappings only while `depth` is positive.

* `Conformance.SourceText.readString`, `Conformance.SourceText.readBool`, … – decoders of leaves;
* `Conformance.SourceText.readItems`, `Conformance.SourceText.readEntries` – the parts of a
  sequence or a mapping;
* `Conformance.SourceText.decode` – a decoder applied to a whole text.
-/

namespace Conformance

/-- A decoding step: the state is the number of references that may still be followed. -/
abbrev Reading (α : Type) := StateT Nat (Except ReadFault) α

namespace SourceText

/-- The node a source stands for: a reference is followed, anything else is left alone. -/
def follow (t : SourceText) : Source → Reading Source
  | .alias anchor => do
    match ← get with
    | 0 => throw .syntaxFault
    | left + 1 =>
      set left
      match t.anchored.lookup anchor with
      | some s => return s
      | none => throw .syntaxFault
  | s => return s

/-- The fault of a node where a value of another kind is expected. -/
def mismatch : Source → ReadFault
  | .json .void => .syntaxFault
  | .json _ => .invalidType
  | .scalar s => s.mismatch
  | .seq _ _ => .invalidType
  | .map _ _ => .invalidType
  | .alias _ => .syntaxFault
  | .nothing => .syntaxFault
  | .broken => .syntaxFault

/-! ### Leaves -/

/-- A text; a YAML scalar of any look is one. -/
def readString (t : SourceText) (s : Source) : Reading String := do
  match ← t.follow s with
  | .json (.string text) => return text
  | .scalar scalar => return scalar.text
  | s => throw (mismatch s)

/-- A truth value. -/
def readBool (t : SourceText) (s : Source) : Reading Bool := do
  match ← t.follow s with
  | .json (.bool b) => return b
  | .scalar scalar =>
    match scalar.asBool? with
    | some b => return b
    | none => throw scalar.mismatch
  | s => throw (mismatch s)

/-- A count of one unsigned word. A negative integer is an impossible count in JSON. -/
def readCount (t : SourceText) (s : Source) : Reading Nat := do
  match ← t.follow s with
  | .json (.number (.integer i)) =>
    if i.val < 0 then throw .invalidValue else return i.val.toNat
  | .scalar scalar =>
    match scalar.asCount? with
    | some n => return n
    | none => throw scalar.mismatch
  | s => throw (mismatch s)

/-- An optional value: null stands for its absence. -/
def readOptional {α : Type} (t : SourceText) (read : Source → Reading α) (s : Source) :
    Reading (Option α) := do
  match ← t.follow s with
  | .json .null => return none
  | .nothing => return none
  | .scalar scalar =>
    match scalar.isAbsent? with
    | some true => return none
    | some false => return some (← read (.scalar scalar))
    | none => throw .invalidValue
  | s => return some (← read s)

/-! ### Parts -/

/-- The items of a sequence. In YAML nothing at all counts as an empty one. -/
def readItems (t : SourceText) (depth : Nat) (s : Source) : Reading (List Source) := do
  match ← t.follow s with
  | .seq _ items => if depth == 0 then throw .recursionLimit else return items
  | .nothing => return []
  | .scalar scalar => if scalar.isBlank then return [] else throw scalar.mismatch
  | s => throw (mismatch s)

/-- The entries of a mapping. In YAML nothing at all counts as an empty one. -/
def readEntries (t : SourceText) (depth : Nat) (s : Source) : Reading (List (Source × Source)) := do
  match ← t.follow s with
  | .map _ entries => if depth == 0 then throw .recursionLimit else return entries
  | .nothing => return []
  | .scalar scalar => if scalar.isBlank then return [] else throw scalar.mismatch
  | s => throw (mismatch s)

/-- The items of a record that JSON allows to be written as an array of its values; nothing if it is
not written that way. -/
def positional? (t : SourceText) (depth : Nat) (s : Source) : Reading (Option (List Source)) := do
  match t.format, ← t.follow s with
  | .json, .seq tag items => return some (← t.readItems depth (.seq tag items))
  | _, _ => return none

/-- The key of an entry. Only a text in quotes is one in JSON; in YAML any scalar is. -/
def readKey (t : SourceText) (s : Source) : Reading String :=
  match t.format, s with
  | .json, .json (.string key) => return key
  | .json, _ => throw .syntaxFault
  | .yaml, s => t.readString s

/-- Passes over a value without looking at it; only a place where reading stopped is a fault. -/
def skip (s : Source) : Reading Unit := if s.isBroken then throw .syntaxFault else return ()

/-! ### Whole texts -/

/-- A decoder applied to a whole text: its own fault comes first, then that of what follows. -/
def decode {α : Type} (t : SourceText) (read : Nat → Source → Reading α) : Except ReadFault α := do
  let (value, _) ← (read t.format.levels t.root).run t.jumps
  match t.after with
  | none => return value
  | some fault => throw fault

end SourceText

end Conformance

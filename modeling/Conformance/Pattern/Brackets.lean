import Conformance.Pattern.Escape

/-!
# Sets in brackets

A set in brackets is a union of characters, ranges, escapes, named sets of ASCII and further
brackets. Unions may be combined by `&&`, `--` and `~~`, all of one precedence and from left to
right. A hyphen is a character like others where no range can be meant, and so is a closing bracket
at the very start.

* `Conformance.Nested` – a part of a pattern, with the depth of its nesting;
* `Conformance.Brackets.read?` – the set behind an opening bracket.
-/

namespace Conformance

/-- A part of a pattern, with the number of levels that are nested in it. -/
structure Nested (α : Type) where
  /-- The part. -/
  value : α
  /-- The number of levels. -/
  depth : Nat
deriving Repr

namespace Nested

/-- The greatest depth of some parts. -/
def maxDepth {α : Type} (parts : List (Nested α)) : Nat := parts.foldl (fun d p => max d p.depth) 0

/-- Puts parts together. They form one more level, unless there is one part only. -/
def gather {α : Type} (combine : List α → α) (parts : List (Nested α)) : Nested α :=
  ⟨combine (parts.map (·.value)),
    if parts.length ≤ 1 then maxDepth parts else maxDepth parts + 1⟩

end Nested

/-- An operation on sets. -/
inductive SetOperation where
  /-- What is in both sets. -/
  | inter
  /-- What is in the first set only. -/
  | diff
  /-- What is in one set only. -/
  | symmDiff
deriving DecidableEq, Repr

namespace SetOperation

/-- The result of the operation. -/
def apply : SetOperation → CharClass → CharClass → CharClass
  | inter => .inter
  | diff => .diff
  | symmDiff => .symmDiff

/-- The operation written by a doubled character. -/
def ofChar? : Char → Option SetOperation
  | '&' => some inter
  | '-' => some diff
  | '~' => some symmDiff
  | _ => none

end SetOperation

namespace Brackets

/-- A set whose closing bracket has not come yet. -/
structure Level where
  /-- Whether the complement is meant. -/
  negated : Bool
  /-- What stands in front of the last operation, and that operation. -/
  pending : Option (Nested CharClass × SetOperation)
  /-- The parts of the union behind it, the last one first. -/
  parts : List (Nested CharClass)

namespace Level

/-- The level with one more part. -/
def add (level : Level) (part : Nested CharClass) : Level :=
  { level with parts := part :: level.parts }

/-- The value of all that has been read on the level. -/
def operand (flags : PatternFlags) (level : Level) : Nested CharClass :=
  let last := Nested.gather CharClass.unionOf level.parts.reverse
  match level.pending with
  | none => last
  | some (first, operation) =>
    ⟨operation.apply (flags.withCases first.value) (flags.withCases last.value),
      max first.depth last.depth + 1⟩

/-- The level behind an operation. -/
def operate (flags : PatternFlags) (level : Level) (operation : SetOperation) : Level :=
  { level with pending := some (level.operand flags, operation), parts := [] }

/-- The set of a level that is closed. -/
def close? (flags : PatternFlags) (level : Level) : Option (Nested CharClass) :=
  let operand := level.operand flags
  (flags.complement? level.negated (flags.withCases operand.value)).map fun set =>
    ⟨set, operand.depth + 1⟩

end Level

/-! ### The start of a set -/

/-- Reads the hyphens at the start of a set. The first argument bounds their number. -/
def readHyphens (flags : PatternFlags) : Nat → Level → List Char → Level × List Char
  | k + 1, level, '-' :: rest =>
    readHyphens flags k (level.add ⟨.single '-', 0⟩) (flags.skipBlanks rest)
  | _, level, cs => (level, cs)

/-- Reads the start of a set, where hyphens, or else a closing bracket, stand for themselves. -/
def readStart (flags : PatternFlags) (negated : Bool) (cs : List Char) : Level × List Char :=
  match readHyphens flags cs.length ⟨negated, none, []⟩ cs with
  | (level, ']' :: rest) =>
    if level.parts.isEmpty then (level.add ⟨.single ']', 0⟩, flags.skipBlanks rest)
    else (level, ']' :: rest)
  | start => start

/-- Opens a set behind its opening bracket. -/
def openLevel (flags : PatternFlags) (cs : List Char) : Level × List Char :=
  match flags.skipBlanks cs with
  | '^' :: rest => readStart flags true (flags.skipBlanks rest)
  | cs => readStart flags false cs

/-! ### The parts of a set -/

/-- Reads the name of a set of ASCII up to its closing mark. -/
def readAsciiName? (cs : List Char) : Option (CharClass × List Char) :=
  match cs.dropWhile (· != ':') with
  | ':' :: ']' :: rest =>
    (CharClass.ofAsciiName? (String.ofList (cs.takeWhile (· != ':')))).map fun set => (set, rest)
  | _ => none

/-- Reads a named set of ASCII behind its opening bracket, if there is one here. -/
def readAsciiSet? : List Char → Option (CharClass × Bool × List Char)
  | ':' :: '^' :: rest => (readAsciiName? rest).map fun (set, rest) => (set, true, rest)
  | ':' :: rest => (readAsciiName? rest).map fun (set, rest) => (set, false, rest)
  | _ => none

/-- The first character behind a hyphen that decides whether the hyphen makes a range. If spacing is
free, white space before it does not count, nor does a number sign and the white space behind it. -/
def decisive? (flags : PatternFlags) (cs : List Char) : Option Char :=
  if flags.freeSpacing then
    let found := match cs.dropWhile Text.isWhiteSpace with
      | '#' :: rest => (rest.dropWhile Text.isWhiteSpace).head?
      | rest => rest.head?
    found.or cs.head?
  else cs.head?

/-- Whether a hyphen in front of this text makes a range. -/
def makesRange (flags : PatternFlags) (cs : List Char) : Bool :=
  match decisive? flags cs with
  | some c => c != ']' && c != '-'
  | none => true

/-- The set of an atom in brackets. Without Unicode, it has to be one of ASCII. -/
def atomSet? (flags : PatternFlags) : PatternAtom → Option CharClass
  | .literal c _ => if !flags.unicode && 128 ≤ c.toNat then none else some (.single c)
  | atom => atom.set? flags

/-- The set of a range, given its ends. -/
def rangeSet? (flags : PatternFlags) : PatternAtom → PatternAtom → Option CharClass
  | .literal a _, .literal b _ =>
    if a.toNat ≤ b.toNat && (flags.unicode || b.toNat < 128) then some (.range a b) else none
  | _, _ => none

/-- Reads an atom or a range. -/
def readRange? (flags : PatternFlags) (cs : List Char) : Option (CharClass × List Char) := do
  let (first, rest) ← PatternAtom.read? flags cs
  match flags.skipBlanks rest with
  | [] => none
  | '-' :: behind =>
    if makesRange flags behind then
      let (last, rest) ← PatternAtom.read? flags (flags.skipBlanks behind)
      let set ← rangeSet? flags first last
      return (set, rest)
    else
      let set ← atomSet? flags first
      return (set, '-' :: behind)
  | rest =>
    let set ← atomSet? flags first
    return (set, rest)

/-! ### Whole sets -/

/-- Reads on in a set that is open, inside of others. The first argument bounds the number of parts
and brackets. -/
def readLevels? (flags : PatternFlags) :
    Nat → Level → List Level → List Char → Option (Nested CharClass × List Char)
  | 0, _, _, _ => none
  | k + 1, level, outer, cs =>
    match flags.skipBlanks cs with
    | [] => none
    | '[' :: rest =>
      match readAsciiSet? rest with
      | some (set, negated, rest) => do
        let set ← flags.complement? negated (flags.withCases set)
        readLevels? flags k (level.add ⟨set, 0⟩) outer rest
      | none =>
        let (inner, rest) := openLevel flags rest
        readLevels? flags k inner (level :: outer) rest
    | ']' :: rest =>
      match level.close? flags, outer with
      | none, _ => none
      | some set, [] => some (set, rest)
      | some set, around :: outer => readLevels? flags k (around.add set) outer rest
    | c :: rest =>
      match SetOperation.ofChar? c, rest with
      | some operation, d :: behind =>
        if c == d then readLevels? flags k (level.operate flags operation) outer behind
        else
          match readRange? flags (c :: rest) with
          | none => none
          | some (set, rest) => readLevels? flags k (level.add ⟨set, 0⟩) outer rest
      | _, _ =>
        match readRange? flags (c :: rest) with
        | none => none
        | some (set, rest) => readLevels? flags k (level.add ⟨set, 0⟩) outer rest

/-- Reads the set behind an opening bracket. -/
def read? (flags : PatternFlags) (cs : List Char) : Option (Nested CharClass × List Char) :=
  let (level, rest) := openLevel flags cs
  readLevels? flags (cs.length + 1) level [] rest

end Brackets

end Conformance

import Conformance.Pattern.Brackets

/-!
# Reading patterns

A pattern is read item by item: an atom, a repetition, a bar, or the start or the end of a group.
The items build up the expression on a stack with one level for each group that is open. Whether a
text is a pattern at all thus depends on nothing but the sequence of its items.

* `Conformance.PatternItem` – the items;
* `Conformance.PatternItem.read?` – the item at the beginning of a text;
* `Conformance.PatternReading` – what has been read so far;
* `Conformance.Regex.ofPattern?` – the expression of a pattern.
-/

namespace Conformance

/-! ### Items -/

/-- An item of a pattern. -/
inductive PatternItem where
  /-- A leaf: a character of a set, or a condition on the position. -/
  | leaf (a : Nested RegexLeaf)
  /-- The last thing is repeated. -/
  | repeated (least : Nat) (most : Option Nat)
  /-- Another alternative begins. -/
  | bar
  /-- A group begins, with flags of its own and perhaps a name. -/
  | groupStart (flags : PatternFlags) (name : Option (List Char))
  /-- A group ends. -/
  | groupEnd
  /-- The flags change up to the end of the group. -/
  | flagChange (flags : PatternFlags)
deriving Repr

namespace PatternItem

/-! ### Groups -/

/-- Whether a character may stand in the name of a group. -/
def isGroupNameChar (first : Bool) (c : Char) : Bool :=
  c == '_' || Unicode.alphabetic.contains c.toNat
    || (!first && (c == '.' || c == '[' || c == ']' || Unicode.numeric.contains c.toNat))

/-- Reads the name of a group, up to and including the closing angle bracket. -/
def readGroupName? (cs : List Char) : Option (List Char × List Char) :=
  match cs.takeWhile (· != '>'), cs.dropWhile (· != '>') with
  | c :: name, '>' :: rest =>
    if isGroupNameChar true c && name.all (isGroupNameChar false) then some (c :: name, rest)
    else none
  | _, _ => none

/-- Reads the start of a group, or a change of flags, behind the opening parenthesis. There are no
groups that look around. -/
def readGroupStart? (flags : PatternFlags) (cs : List Char) : Option (PatternItem × List Char) :=
  match flags.skipBlanks cs with
  | '?' :: '=' :: _ | '?' :: '!' :: _ | '?' :: '<' :: '=' :: _ | '?' :: '<' :: '!' :: _ => none
  | '?' :: 'P' :: '<' :: rest | '?' :: '<' :: rest =>
    (readGroupName? rest).map fun (name, rest) => (.groupStart flags (some name), rest)
  | '?' :: rest =>
    match PatternFlags.read? flags rest with
    | none => none
    | some (list, rest) =>
      match list.listEnd with
      | .colon => some (.groupStart list.flags none, rest)
      | .close => if list.isEmpty then none else some (.flagChange list.flags, rest)
  | rest => some (.groupStart flags none, rest)

/-! ### Repetitions -/

/-- The greatest number of repetitions that can be written. -/
def maxCount : Nat := 4294967295

/-- Reads decimal digits onto a value; blanks may stand between and behind them. The first argument
bounds the number of digits. -/
def readCountDigits (flags : PatternFlags) :
    Nat → Option Nat → List Char → Option Nat × List Char
  | k + 1, value, c :: rest =>
    if c.isDigit then
      readCountDigits flags k (some (value.getD 0 * 10 + (c.toNat - 48))) (flags.skipBlanks rest)
    else (value, c :: rest)
  | _, value, cs => (value, cs)

/-- Drops white space, and blanks of other sorts in between if spacing is free. The first argument
bounds the number of characters. -/
def dropSpace (flags : PatternFlags) : Nat → List Char → List Char
  | k + 1, c :: rest =>
    if Text.isWhiteSpace c then dropSpace flags k (flags.skipBlanks rest) else c :: rest
  | _, cs => cs

/-- Reads a count with white space around it. The count may be missing. -/
def readCount? (flags : PatternFlags) (cs : List Char) : Option (Option Nat × List Char) :=
  let cs := cs.dropWhile Text.isWhiteSpace
  let (value, rest) := readCountDigits flags cs.length none cs
  if value.all (· ≤ maxCount) then some (value, dropSpace flags rest.length rest) else none

/-- Drops a question mark, which makes a repetition short. -/
def dropShort : List Char → List Char
  | '?' :: rest => rest
  | cs => cs

/-- Reads what follows the counts of a repetition. -/
def readCountsEnd? (flags : PatternFlags) (least : Nat) (most : Option Nat) :
    List Char → Option (PatternItem × List Char)
  | '\x7d' :: rest =>
    if most.all (least ≤ ·) then some (.repeated least most, dropShort (flags.skipBlanks rest))
    else none
  | _ => none

/-- Reads the counts of a repetition behind its opening brace: one count, a least count with a
comma, or both. -/
def readCounts? (flags : PatternFlags) (cs : List Char) : Option (PatternItem × List Char) := do
  let (least, rest) ← readCount? flags (flags.skipBlanks cs)
  let least ← least
  match rest with
  | ',' :: rest =>
    match flags.skipBlanks rest with
    | '\x7d' :: rest => readCountsEnd? flags least none ('\x7d' :: rest)
    | rest =>
      let (most, rest) ← readCount? flags rest
      let most ← most
      readCountsEnd? flags least (some most) rest
  | rest => readCountsEnd? flags least (some least) rest

/-! ### Leaves -/

/-- The set that a dot stands for. -/
def dot? (flags : PatternFlags) : Option CharClass :=
  if !flags.unicode then none
  else if flags.dotAll then some .all
  else if flags.returns then some (.allBut ['\r', '\n'])
  else some (.allBut ['\n'])

/-- The condition that a caret stands for. -/
def lineStart (flags : PatternFlags) : Look :=
  if flags.multiLine then .lineStart flags.returns else .textStart

/-- The condition that a dollar sign stands for. -/
def lineEnd (flags : PatternFlags) : Look :=
  if flags.multiLine then .lineEnd flags.returns else .textEnd

/-- Reads the item at the beginning of a text, in which no blanks are left to skip. -/
def read? (flags : PatternFlags) : List Char → Option (PatternItem × List Char)
  | [] => none
  | '(' :: rest => readGroupStart? flags rest
  | ')' :: rest => some (.groupEnd, rest)
  | '|' :: rest => some (.bar, rest)
  | '[' :: rest =>
    (Brackets.read? flags rest).map fun (set, rest) => (.leaf ⟨.char set.value, set.depth⟩, rest)
  | '?' :: rest => some (.repeated 0 (some 1), dropShort rest)
  | '*' :: rest => some (.repeated 0 none, dropShort rest)
  | '+' :: rest => some (.repeated 1 none, dropShort rest)
  | '\x7b' :: rest => readCounts? flags rest
  | '.' :: rest => (dot? flags).map fun set => (.leaf ⟨.char set, 0⟩, rest)
  | '^' :: rest => some (.leaf ⟨.look (lineStart flags), 0⟩, rest)
  | '$' :: rest => some (.leaf ⟨.look (lineEnd flags), 0⟩, rest)
  | cs =>
    match PatternAtom.read? flags cs with
    | none => none
    | some (atom, rest) => (atom.leaf? flags).map fun leaf => (.leaf ⟨leaf, 0⟩, rest)

end PatternItem

/-! ### Building the expression -/

/-- A part of an alternative: an expression, or a change of flags, which can not be repeated. -/
structure PatternPart where
  /-- The expression. -/
  body : Nested (Regex RegexLeaf)
  /-- Whether a repetition may follow. -/
  repeatable : Bool

/-- A group that is open. -/
structure PatternLevel where
  /-- The flags in force. -/
  flags : PatternFlags
  /-- The alternatives that are complete, the last one first. -/
  alternatives : List (Nested (Regex RegexLeaf))
  /-- The parts of the alternative that is being read, the last one first. -/
  parts : List PatternPart

namespace PatternLevel

/-- The level of a group at its start. -/
def start (flags : PatternFlags) : PatternLevel := ⟨flags, [], []⟩

/-- The level with one more part. -/
def add (level : PatternLevel) (body : Nested (Regex RegexLeaf)) : PatternLevel :=
  { level with parts := ⟨body, true⟩ :: level.parts }

/-- The alternative that is being read. -/
def alternative (level : PatternLevel) : Nested (Regex RegexLeaf) :=
  Nested.gather Regex.catAll (level.parts.reverse.map (·.body))

/-- The expression of the whole level. -/
def expression (level : PatternLevel) : Nested (Regex RegexLeaf) :=
  Nested.gather Regex.altAll (level.alternative :: level.alternatives).reverse

end PatternLevel

/-- What has been read of a pattern. -/
structure PatternReading where
  /-- The innermost group that is open, or the whole pattern. -/
  level : PatternLevel
  /-- What is around it, from the inside out. -/
  outer : List PatternLevel
  /-- The names of groups. -/
  names : List (List Char)

namespace PatternReading

/-- Nothing has been read. -/
def start : PatternReading := ⟨.start .initial, [], []⟩

/-- Takes the name of a group, which no other group has. -/
def claimName? (r : PatternReading) : Option (List Char) → Option PatternReading
  | none => some r
  | some name =>
    if r.names.contains name then none else some { r with names := name :: r.names }

/-- Repeats the last part. -/
def repeatLast? (r : PatternReading) (least : Nat) (most : Option Nat) : Option PatternReading :=
  match r.level.parts with
  | [] => none
  | part :: parts =>
    if part.repeatable then
      let body := ⟨.times part.body.value least most, part.body.depth + 1⟩
      some { r with level := { r.level with parts := ⟨body, true⟩ :: parts } }
    else none

/-- Takes one item. -/
def take? (r : PatternReading) : PatternItem → Option PatternReading
  | .leaf a => some { r with level := r.level.add ⟨.leaf a.value, a.depth⟩ }
  | .repeated least most => r.repeatLast? least most
  | .bar =>
    some { r with level :=
      { r.level with alternatives := r.level.alternative :: r.level.alternatives, parts := [] } }
  | .groupStart flags name =>
    (r.claimName? name).map fun r =>
      { r with level := .start flags, outer := r.level :: r.outer }
  | .groupEnd =>
    match r.outer with
    | [] => none
    | around :: outer =>
      let group := r.level.expression
      some { r with level := around.add ⟨group.value, group.depth + 1⟩, outer := outer }
  | .flagChange flags =>
    some { r with level :=
      { r.level with flags := flags, parts := ⟨⟨.empty, 0⟩, false⟩ :: r.level.parts } }

/-- The expression, if no group is open any more. -/
def finish? (r : PatternReading) : Option (Nested (Regex RegexLeaf)) :=
  if r.outer.isEmpty then some r.level.expression else none

/-- Reads a text to its end. The first argument bounds the number of items. -/
def readAll? : Nat → PatternReading → List Char → Option (Nested (Regex RegexLeaf))
  | 0, _, _ => none
  | k + 1, r, cs =>
    match r.level.flags.skipBlanks cs with
    | [] => r.finish?
    | cs =>
      match PatternItem.read? r.level.flags cs with
      | none => none
      | some (item, rest) =>
        match r.take? item with
        | none => none
        | some r => readAll? k r rest

end PatternReading

/-! ### Limits -/

/-- The number of levels that may be nested in a pattern. -/
def patternDepthLimit : Nat := 250

/-- The number of bytes that the states of a pattern may take. What a pattern takes is estimated
here (`Regex.size`), and so near the limit this is an approximation. -/
def patternSizeLimit : Nat := 10485760

/-- The number of bytes that one state is taken to need. -/
def stateSize : Nat := 32

namespace CharClass

/-- The number of ranges by which a set is described. -/
def rangeCount : CharClass → Nat
  | ranges set => set.length
  | union a b | inter a b | diff a b | symmDiff a b => a.rangeCount + b.rangeCount
  | compl a => a.rangeCount + 1
  | anyCase a | anyAsciiCase a => 2 * a.rangeCount

end CharClass

namespace Regex

/-- Whether an expression matches the empty text only. -/
def isWidthless : Regex RegexLeaf → Bool
  | empty => true
  | leaf (.look _) => true
  | leaf (.char _) => false
  | cat a b | alt a b => a.isWidthless && b.isWidthless
  | times a _ most => a.isWidthless || most == some 0

/-- An estimate of the number of bytes that the states of an expression take: one state for each
place that a character or a condition is tested at, and some more for the ranges of a set. A
repetition repeats states, unless it repeats nothing. The compiled form shares states and splits
ranges by the bytes of their characters, which is not counted. -/
def size : Regex RegexLeaf → Nat
  | empty => 0
  | leaf (.look _) => stateSize
  | leaf (.char set) => stateSize + 8 * (set.rangeCount - 1)
  | cat a b => a.size + b.size
  | alt a b => a.size + b.size + stateSize
  | times a least most =>
    if a.isWidthless then a.size
    else
      match most with
      | some m => least * a.size + (m - least) * (a.size + stateSize)
      | none => max 1 least * a.size + stateSize

/-- The expression of a pattern, if the text is one, and neither nests too deeply nor takes too many
states. -/
def ofPattern? (cs : List Char) : Option (Regex RegexLeaf) :=
  match PatternReading.readAll? (cs.length + 1) .start cs with
  | none => none
  | some r =>
    if r.depth ≤ patternDepthLimit && r.value.size ≤ patternSizeLimit then some r.value else none

end Regex

end Conformance

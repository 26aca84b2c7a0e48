import Conformance.Number.Literal
import Conformance.Pattern.Flags
import Conformance.Pattern.Regex

/-!
# Escapes of patterns

What may follow a backslash: a mark taken literally, a character by its number or by a letter, a set
of characters, or a condition on the position. References back to a group are no escapes, and
neither is a letter without a meaning.

* `Conformance.PatternAtom` – what an escape stands for;
* `Conformance.PatternAtom.readEscape?` – the escape behind a backslash;
* `Conformance.PatternAtom.leaf?` – the leaf of an atom outside of brackets.
-/

namespace Conformance

/-- A smallest part of a pattern. -/
inductive PatternAtom where
  /-- A character; it may have been given by the number of a byte. -/
  | literal (c : Char) (byByte : Bool)
  /-- A set of characters by its letter, or all other characters. -/
  | named (set : CharClass) (negated : Bool)
  /-- A set of code points with a property, or of all others. -/
  | property (set : Unicode.CodePoints) (negated : Bool)
  /-- A condition on the position. -/
  | condition (look : Look)
deriving Repr

namespace PatternAtom

/-! ### Characters by number -/

/-- The value of a hexadecimal digit. -/
def hexDigit? (c : Char) : Option Nat :=
  let n := c.toNat
  if 48 ≤ n && n ≤ 57 then some (n - 48)
  else if 97 ≤ n && n ≤ 102 then some (n - 87)
  else if 65 ≤ n && n ≤ 70 then some (n - 55)
  else none

/-- The character of a code point, if it has one. -/
def charOf? (n : Nat) : Option Char :=
  if n < 0xD800 || (0xE000 ≤ n && n ≤ 0x10FFFF) then some (Char.ofNat n) else none

/-- Reads so many hexadecimal digits onto a value. Blanks may stand between and behind them. -/
def readHexDigits? (flags : PatternFlags) : Nat → Nat → List Char → Option (Nat × List Char)
  | 0, value, cs => some (value, cs)
  | _ + 1, _, [] => none
  | k + 1, value, c :: rest =>
    match hexDigit? c with
    | none => none
    | some d => readHexDigits? flags k (value * 16 + d) (flags.skipBlanks rest)

/-- Reads hexadecimal digits up to a closing brace onto a value, which is missing as long as there
is no digit. The first argument bounds the number of characters. -/
def readBracedHex? (flags : PatternFlags) : Nat → Option Nat → List Char → Option (Nat × List Char)
  | 0, _, _ => none
  | k + 1, value, cs =>
    match flags.skipBlanks cs with
    | [] => none
    | '\x7d' :: rest => value.map fun n => (n, flags.skipBlanks rest)
    | c :: rest =>
      match hexDigit? c with
      | none => none
      | some d => readBracedHex? flags k (some (value.getD 0 * 16 + d)) rest

/-- Reads a character by its number: in braces, or in a fixed number of digits. -/
def readNumbered? (flags : PatternFlags) (digits : Nat) (cs : List Char) :
    Option (PatternAtom × List Char) :=
  match flags.skipBlanks cs with
  | [] => none
  | '\x7b' :: rest => do
    let (n, rest) ← readBracedHex? flags (rest.length + 1) none rest
    let c ← charOf? n
    return (.literal c false, rest)
  | cs => do
    let (n, rest) ← readHexDigits? flags digits 0 cs
    let c ← charOf? n
    return (.literal c (digits == 2), rest)

/-! ### Properties -/

/-- Reads the characters up to a closing brace, leaving out blanks. The first argument bounds the
number of characters. -/
def readBracedName? (flags : PatternFlags) : Nat → List Char → Option (List Char × List Char)
  | 0, _ => none
  | k + 1, cs =>
    match flags.skipBlanks cs with
    | [] => none
    | '\x7d' :: rest => some ([], rest)
    | c :: rest => (readBracedName? flags k rest).map fun (name, rest) => (c :: name, rest)

/-- Splits at the first occurrence of a separator. -/
def splitAtSeparator? (separator : List Char) : List Char → Option (List Char × List Char)
  | [] => none
  | c :: rest =>
    if separator.isPrefixOf (c :: rest) then some ([], (c :: rest).drop separator.length)
    else (splitAtSeparator? separator rest).map fun (before, behind) => (c :: before, behind)

/-- The code points that the text in the braces of a property stands for: a property, or a property
and its value behind one of three separators, which mean the same. -/
def namedProperty? (name : List Char) : Option Unicode.CodePoints :=
  let split := [['!', '='], [':'], ['=']].findSome? (splitAtSeparator? · name)
  match split with
  | some (name, value) => Unicode.propertyValue? (String.ofList name) (String.ofList value)
  | none => Unicode.property? (String.ofList name)

/-- Reads a property: one letter, or a name in braces. -/
def readProperty? (flags : PatternFlags) (negated : Bool) (cs : List Char) :
    Option (PatternAtom × List Char) :=
  match flags.skipBlanks cs with
  | [] => none
  | '\x7b' :: rest => do
    let (name, rest) ← readBracedName? flags (rest.length + 1) rest
    let set ← namedProperty? name
    return (.property set negated, rest)
  | '\\' :: _ => none
  | c :: rest => do
    let set ← Unicode.property? (String.singleton c)
    return (.property set negated, flags.skipBlanks rest)

/-! ### Conditions on words -/

/-- Whether a character may stand in the name of a sort of word edge. -/
def isEdgeNameChar (c : Char) : Bool := c.isAlpha || c == '-'

/-- The sort of word edge with a name. -/
def wordEdge? (name : List Char) : Option WordEdge :=
  if name == "start".toList then some .start
  else if name == "end".toList then some .stop
  else if name == "start-half".toList then some .startHalf
  else if name == "end-half".toList then some .stopHalf
  else none

/-- Reads the characters of the name of a sort of word edge, leaving out blanks. The first argument
bounds the number of characters. -/
def readEdgeName (flags : PatternFlags) : Nat → List Char → List Char × List Char
  | 0, cs => ([], cs)
  | k + 1, cs =>
    match flags.skipBlanks cs with
    | [] => ([], [])
    | c :: rest =>
      if isEdgeNameChar c then
        let (name, rest) := readEdgeName flags k rest
        (c :: name, rest)
      else ([], c :: rest)

/-- Reads the sort of a word edge, if one stands in braces here. A brace with anything but a letter
or a hyphen behind it begins a repetition instead. -/
def readWordEdge? (flags : PatternFlags) (cs : List Char) : Option (WordEdge × List Char) :=
  match cs with
  | '\x7b' :: rest =>
    match flags.skipBlanks rest with
    | [] => none
    | c :: _ =>
      if isEdgeNameChar c then
        let (name, rest) := readEdgeName flags (rest.length + 1) rest
        match rest with
        | '\x7d' :: rest => (wordEdge? name).map fun edge => (edge, rest)
        | _ => none
      else some (.boundary, cs)
  | _ => some (.boundary, cs)

/-! ### Escapes -/

/-- Whether a character is a mark that may be taken literally by a backslash: one of ASCII that is
no letter, digit or angle bracket. -/
def isMark (c : Char) : Bool := c.toNat < 128 && !c.isAlphanum && c != '<' && c != '>'

/-- The control character that a letter stands for. -/
def control? : Char → Option Char
  | 'a' => some '\x07'
  | 'f' => some '\x0c'
  | 't' => some '\t'
  | 'n' => some '\n'
  | 'r' => some '\r'
  | 'v' => some '\x0b'
  | _ => none

/-- The set of characters that a letter stands for: a capital for the complement. -/
def letterClass? (unicode : Bool) : Char → Option PatternAtom
  | 'd' => some (.named (.digit unicode) false)
  | 's' => some (.named (.space unicode) false)
  | 'w' => some (.named (.word unicode) false)
  | 'D' => some (.named (.digit unicode) true)
  | 'S' => some (.named (.space unicode) true)
  | 'W' => some (.named (.word unicode) true)
  | _ => none

/-- The condition that a character stands for by itself. -/
def letterCondition? (unicode : Bool) : Char → Option Look
  | 'A' => some .textStart
  | 'z' => some .textEnd
  | 'B' => some (.word .noBoundary unicode)
  | '<' => some (.word .start unicode)
  | '>' => some (.word .stop unicode)
  | _ => none

/-- Reads the escape behind a backslash. -/
def readEscape? (flags : PatternFlags) : List Char → Option (PatternAtom × List Char)
  | [] => none
  | 'x' :: rest => readNumbered? flags 2 rest
  | 'u' :: rest => readNumbered? flags 4 rest
  | 'U' :: rest => readNumbered? flags 8 rest
  | 'p' :: rest => readProperty? flags false rest
  | 'P' :: rest => readProperty? flags true rest
  | 'b' :: rest =>
    (readWordEdge? flags rest).map fun (edge, rest) => (.condition (.word edge flags.unicode), rest)
  | c :: rest =>
    if isMark c then some (.literal c false, rest)
    else
      match control? c with
      | some k => some (.literal k false, rest)
      | none =>
        match letterCondition? flags.unicode c with
        | some look => some (.condition look, rest)
        | none => (letterClass? flags.unicode c).map fun atom => (atom, rest)

/-- Reads one atom: an escape, or a character that stands for itself. -/
def read? (flags : PatternFlags) : List Char → Option (PatternAtom × List Char)
  | [] => none
  | '\\' :: rest => readEscape? flags rest
  | c :: rest => some (.literal c false, rest)

end PatternAtom

/-! ### Sets under flags -/

namespace PatternFlags

/-- The set with the characters of the other case, if letters match in either case. -/
def withCases (flags : PatternFlags) (set : CharClass) : CharClass :=
  if flags.anyCase then (if flags.unicode then .anyCase set else .anyAsciiCase set) else set

/-- A set or its complement. Without Unicode, a set may hold ASCII characters only, so there are no
complements. -/
def complement? (flags : PatternFlags) (negated : Bool) (set : CharClass) : Option CharClass :=
  if negated then (if flags.unicode then some (.compl set) else none) else some set

end PatternFlags

namespace PatternAtom

/-- The set of characters that an atom stands for. Without Unicode, no atom stands for a byte or a
character beyond ASCII by its number, and there are neither properties nor complements. -/
def set? (flags : PatternFlags) : PatternAtom → Option CharClass
  | literal c byByte =>
    if !flags.unicode && byByte && 128 ≤ c.toNat then none else some (flags.withCases (.single c))
  | named set negated => flags.complement? negated set
  | property points negated =>
    if flags.unicode then flags.complement? negated (flags.withCases (.ranges points)) else none
  | condition _ => none

/-- The leaf of an atom outside of brackets. -/
def leaf? (flags : PatternFlags) (atom : PatternAtom) : Option RegexLeaf :=
  match atom with
  | condition look => some (.look look)
  | _ => (atom.set? flags).map .char

end PatternAtom

end Conformance

import Conformance.Unicode.Folding
import Conformance.Unicode.Property

/-!
# Sets of characters

What a pattern says about one character: ranges, put together by the operations on sets.

* `Conformance.CharClass` – the sets;
* `Conformance.CharClass.contains` – membership;
* `Conformance.CharClass.digit`, `space`, `word` – the sets with an escape of their own;
* `Conformance.CharClass.ofAsciiName?` – the named sets of ASCII.
-/

namespace Conformance

/-- A set of characters. -/
inductive CharClass where
  /-- The characters of ranges of code points. -/
  | ranges (set : Unicode.CodePoints)
  /-- The characters of either set. -/
  | union (a b : CharClass)
  /-- The characters of both sets. -/
  | inter (a b : CharClass)
  /-- The characters of the first set that are not in the second. -/
  | diff (a b : CharClass)
  /-- The characters of exactly one of the sets. -/
  | symmDiff (a b : CharClass)
  /-- All other characters. -/
  | compl (a : CharClass)
  /-- The characters that differ from one of the set in case at most. -/
  | anyCase (a : CharClass)
  /-- The characters that are in the set, or are ASCII letters and are in it in the other case. -/
  | anyAsciiCase (a : CharClass)
deriving Repr

namespace CharClass

/-! ### Membership -/

/-- A code point and, if it is an ASCII letter, the same letter in the other case. -/
def asciiOrbit (n : Nat) : List Nat :=
  if 65 ≤ n && n ≤ 90 then [n, n + 32]
  else if 97 ≤ n && n ≤ 122 then [n, n - 32]
  else [n]

/-- Whether a code point is in the set. -/
def containsPoint : CharClass → Nat → Bool
  | ranges set, n => set.contains n
  | union a b, n => a.containsPoint n || b.containsPoint n
  | inter a b, n => a.containsPoint n && b.containsPoint n
  | diff a b, n => a.containsPoint n && !b.containsPoint n
  | symmDiff a b, n => a.containsPoint n != b.containsPoint n
  | compl a, n => !a.containsPoint n
  | anyCase a, n => (Unicode.orbit n).any a.containsPoint
  | anyAsciiCase a, n => (asciiOrbit n).any a.containsPoint

/-- Whether a character is in the set. -/
def contains (a : CharClass) (c : Char) : Bool := a.containsPoint c.toNat

/-! ### Particular sets -/

/-- The empty set. -/
def empty : CharClass := ranges []

/-- The set of one character. -/
def single (c : Char) : CharClass := ranges [(c.toNat, c.toNat)]

/-- The characters from one to another, both included. -/
def range (first last : Char) : CharClass := ranges [(first.toNat, last.toNat)]

/-- The characters of some sets. -/
def unionOf (sets : List CharClass) : CharClass := sets.foldl union empty

/-- All characters. -/
def all : CharClass := ranges .all

/-- All characters but some. -/
def allBut (cs : List Char) : CharClass := compl (ranges (cs.map fun c => (c.toNat, c.toNat)))

/-- The ASCII digits. -/
def asciiDigit : CharClass := range '0' '9'

/-- White space of ASCII. -/
def asciiSpace : CharClass := ranges [(9, 13), (32, 32)]

/-- The ASCII characters of which words consist. -/
def asciiWord : CharClass := ranges [(48, 57), (65, 90), (95, 95), (97, 122)]

/-- The digits: of all scripts, or of ASCII. -/
def digit (unicode : Bool) : CharClass :=
  if unicode then ranges Unicode.decimalDigit else asciiDigit

/-- White space: all of it, or that of ASCII. -/
def space (unicode : Bool) : CharClass :=
  if unicode then ranges Unicode.whiteSpace else asciiSpace

/-- The characters of which words consist: of all scripts, or of ASCII. -/
def word (unicode : Bool) : CharClass :=
  if unicode then ranges Unicode.wordCharacter else asciiWord

/-- A set of ASCII characters by its name. -/
def ofAsciiName? (name : String) : Option CharClass :=
  if name == "alnum" then some (ranges [(48, 57), (65, 90), (97, 122)])
  else if name == "alpha" then some (ranges [(65, 90), (97, 122)])
  else if name == "ascii" then some (ranges .ascii)
  else if name == "blank" then some (ranges [(9, 9), (32, 32)])
  else if name == "cntrl" then some (ranges [(0, 31), (127, 127)])
  else if name == "digit" then some asciiDigit
  else if name == "graph" then some (ranges [(33, 126)])
  else if name == "lower" then some (ranges [(97, 122)])
  else if name == "print" then some (ranges [(32, 126)])
  else if name == "punct" then some (ranges [(33, 47), (58, 64), (91, 96), (123, 126)])
  else if name == "space" then some asciiSpace
  else if name == "upper" then some (ranges [(65, 90)])
  else if name == "word" then some asciiWord
  else if name == "xdigit" then some (ranges [(48, 57), (65, 70), (97, 102)])
  else none

end CharClass

end Conformance

/-!
# Sets of code points

The tables of this folder list sets of code points by their ranges. A set of several hundred ranges
is easier to keep, and quicker to compile, as a packed text than as a list of pairs, so a table
gives each set in packed form and `Conformance.Unicode.NamedSet.codePoints` unpacks it on demand.

* `Conformance.Unicode.CodePoints` – a set, as a list of inclusive ranges;
* `Conformance.Unicode.NamedSet` – a packed set with its names;
* `Conformance.Unicode.looseName` – the form in which names are compared.
-/

namespace Conformance.Unicode

/-- A set of code points: the code points of all its ranges, both ends of each included. -/
abbrev CodePoints := List (Nat × Nat)

namespace CodePoints

/-- Whether a code point is in the set. -/
def contains (set : CodePoints) (n : Nat) : Bool := set.any fun r => r.1 ≤ n && n ≤ r.2

/-- All code points. -/
def all : CodePoints := [(0, 0x10FFFF)]

/-- The code points of ASCII. -/
def ascii : CodePoints := [(0, 0x7F)]

end CodePoints

/-! ### Packed numbers -/

/-- The value of a digit in base 64: upper case letters, lower case letters, decimal digits, the
point and the colon, in this order. -/
def packedDigit (c : Char) : Nat :=
  let n := c.toNat
  if 65 ≤ n && n ≤ 90 then n - 65
  else if 97 ≤ n && n ≤ 122 then n - 71
  else if 48 ≤ n && n ≤ 57 then n + 4
  else if c == '.' then 62
  else 63

/-- The numbers of a packed text. Each digit carries five bits of a number, the least significant
first; a digit of 32 or more says that the number goes on. -/
def unpackNumbers (value weight : Nat) : List Char → List Nat
  | [] => []
  | c :: rest =>
    let d := packedDigit c
    if d < 32 then (value + d * weight) :: unpackNumbers 0 1 rest
    else unpackNumbers (value + (d - 32) * weight) (weight * 32) rest

/-- The ranges that numbers describe: by turns the distance from the end of the range before, and
the number of further code points in the range. -/
def unpackRanges (start : Nat) : List Nat → CodePoints
  | gap :: extent :: rest =>
    (start + gap, start + gap + extent) :: unpackRanges (start + gap + extent + 1) rest
  | _ => []

/-- The numbers of a packed text that is cut into lines. -/
def unpackLines (lines : List String) : List Nat :=
  unpackNumbers 0 1 (lines.flatMap String.toList)

/-! ### Named sets -/

/-- A set of code points with its names. -/
structure NamedSet where
  /-- The names, in the form of `Conformance.Unicode.looseName`. -/
  names : List String
  /-- The ranges as a packed text, cut into lines. -/
  packed : List String

/-- The code points of a named set. -/
def NamedSet.codePoints (s : NamedSet) : CodePoints := unpackRanges 0 (unpackLines s.packed)

/-- The set with a name. -/
def findSet? (table : List NamedSet) (name : String) : Option CodePoints :=
  (table.find? fun s => s.names.contains name).map NamedSet.codePoints

/-- The code points of all sets with one of these names. -/
def unionOf (table : List NamedSet) (names : List String) : CodePoints :=
  names.flatMap fun name => (findSet? table name).getD []

/-! ### Names -/

/-- Whether a character counts in a name. -/
def countsInName (c : Char) : Bool := c.toNat < 128 && !(c == ' ' || c == '_' || c == '-')

/-- The characters of a name without a leading `is` of either case. -/
def dropIs : List Char → List Char
  | i :: s :: rest =>
    if (i == 'i' || i == 'I') && (s == 's' || s == 'S') then rest else i :: s :: rest
  | cs => cs

/-- The form of a name in which neither case, spaces, underscores and hyphens nor a leading `is`
matter. The name `isc` stays as it is, for `c` alone is another name. -/
def looseName (name : String) : String :=
  let cs := name.toList
  let kept := ((dropIs cs).filter countsInName).map Char.toLower
  if kept == ['c'] && (dropIs cs).length < cs.length then "isc" else String.ofList kept

end Conformance.Unicode

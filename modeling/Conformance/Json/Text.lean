import Conformance.Source.Basic

/-!
# Reading JSON text

Strict JSON (RFC 8259), read into a `Conformance.Source` that breaks off at the first character that
does not fit the grammar. Nesting is not limited here: how deep a text may go is a question for
those who use its values.

* `Conformance.Json.readText` – the tree of a whole text;
* `Conformance.Json.readQuoted` – a text in quotes;
* `Conformance.Json.readNumber` – a number literal.
-/

namespace Conformance.Json

/-! ### Space -/

/-- The space between tokens. -/
def isSpace (c : Char) : Bool := c == ' ' || c == '\n' || c == '\t' || c == '\r'

/-- Drops leading space. -/
def skipSpace : List Char → List Char
  | [] => []
  | c :: rest => if isSpace c then skipSpace rest else c :: rest

/-! ### Texts in quotes -/

/-- The value of a hexadecimal digit of either case. -/
def hexValue? (c : Char) : Option Nat :=
  if '0' ≤ c && c ≤ '9' then some (c.toNat - 48)
  else if 'a' ≤ c && c ≤ 'f' then some (c.toNat - 87)
  else if 'A' ≤ c && c ≤ 'F' then some (c.toNat - 55)
  else none

/-- The value of four hexadecimal digits. -/
def hexFour? (a b c d : Char) : Option Nat := do
  let a ← hexValue? a
  let b ← hexValue? b
  let c ← hexValue? c
  let d ← hexValue? d
  return ((a * 16 + b) * 16 + c) * 16 + d

/-- Whether a code unit is the first half of a surrogate pair. -/
def isHighSurrogate (n : Nat) : Bool := 0xD800 ≤ n && n ≤ 0xDBFF

/-- Whether a code unit is the second half of a surrogate pair. -/
def isLowSurrogate (n : Nat) : Bool := 0xDC00 ≤ n && n ≤ 0xDFFF

/-- The code point of a surrogate pair. -/
def pairPoint (high low : Nat) : Nat := 0x10000 + (high - 0xD800) * 0x400 + (low - 0xDC00)

/-- The character that a backslash and a letter stand for. -/
def shortEscape? : Char → Option Char
  | '"' => some '"'
  | '\\' => some '\\'
  | '/' => some '/'
  | 'b' => some '\x08'
  | 'f' => some '\x0c'
  | 'n' => some '\n'
  | 'r' => some '\r'
  | 't' => some '\t'
  | _ => none

/-- The rest of a text after its opening quote: its characters, and what follows the closing quote.
The characters are missing when an escape names half a surrogate pair; the whole result is missing
when the text is not closed, or holds a control character or an unknown escape. -/
def readQuoted : List Char → Option (Option (List Char) × List Char)
  | [] => none
  | '"' :: rest => some (some [], rest)
  | '\\' :: 'u' :: a :: b :: c :: d :: '\\' :: 'u' :: e :: f :: g :: h :: rest =>
    match hexFour? a b c d with
    | none => none
    | some high =>
      if isHighSurrogate high then
        match hexFour? e f g h with
        | none => none
        | some low =>
          if isLowSurrogate low then
            (readQuoted rest).map fun (s, r) => (s.map (Char.ofNat (pairPoint high low) :: ·), r)
          else (readQuoted ('\\' :: 'u' :: e :: f :: g :: h :: rest)).map fun (_, r) => (none, r)
      else
        (readQuoted ('\\' :: 'u' :: e :: f :: g :: h :: rest)).map fun (s, r) =>
          (if isLowSurrogate high then none else s.map (Char.ofNat high :: ·), r)
  | '\\' :: 'u' :: a :: b :: c :: d :: rest =>
    match hexFour? a b c d with
    | none => none
    | some n =>
      (readQuoted rest).map fun (s, r) =>
        (if isHighSurrogate n || isLowSurrogate n then none else s.map (Char.ofNat n :: ·), r)
  | '\\' :: c :: rest =>
    match shortEscape? c with
    | none => none
    | some e => (readQuoted rest).map fun (s, r) => (s.map (e :: ·), r)
  | c :: rest =>
    if c == '\\' || c.toNat < 32 then none
    else (readQuoted rest).map fun (s, r) => (s.map (c :: ·), r)

/-! ### Numbers -/

/-- Leading decimal digits and what follows them. -/
def spanDigits : List Char → List Nat × List Char
  | [] => ([], [])
  | c :: rest =>
    if c.isDigit then
      let (ds, r) := spanDigits rest
      ((c.toNat - 48) :: ds, r)
    else ([], c :: rest)

/-- The digits before the point: a single zero, or digits that do not start with one. -/
def readWhole (cs : List Char) : Option (List Nat × List Char) :=
  match spanDigits cs with
  | ([], _) => none
  | (0 :: _ :: _, _) => none
  | (ds, rest) => some (ds, rest)

/-- A point and the digits after it; nothing when there is no point. -/
def readFraction : List Char → Option (List Nat × List Char)
  | '.' :: rest =>
    match spanDigits rest with
    | ([], _) => none
    | (ds, r) => some (ds, r)
  | cs => some ([], cs)

/-- The signed digits of an exponent. -/
def readExponentDigits (negative : Bool) (cs : List Char) : Option (Int × List Char) :=
  match spanDigits cs with
  | ([], _) => none
  | (ds, r) =>
    let n : Int := DecimalLiteral.ofDigits 10 ds
    some (if negative then -n else n, r)

/-- An exponent; nothing when there is none. -/
def readExponent : List Char → Option (Option Int × List Char)
  | c :: rest =>
    if c == 'e' || c == 'E' then
      let r := match rest with
        | '+' :: r => readExponentDigits false r
        | '-' :: r => readExponentDigits true r
        | r => readExponentDigits false r
      r.map fun (e, r) => (some e, r)
    else some (none, c :: rest)
  | [] => some (none, [])

/-- The number of a literal. Without point and exponent it is an integer if it fits a word, except
for a negative zero; otherwise it is a double, if it is not too large. -/
def numberOf (negative : Bool) (whole fraction : List Nat) (exponent : Option Int) : JsonLeaf :=
  let double : JsonLeaf :=
    match (DecimalLiteral.mk negative whole fraction (exponent.getD 0)).scaled? with
    | some x => .number (.double x)
    | none => .void
  if fraction.isEmpty && exponent.isNone then
    let n : Int := DecimalLiteral.ofDigits 10 whole
    if negative && n == 0 then double
    else
      match WordInt.ofInt? (if negative then -n else n) with
      | some i => .number (.integer i)
      | none => double
  else double

/-- A number literal and what follows it. -/
def readNumber (cs : List Char) : Option (JsonLeaf × List Char) := do
  let (negative, cs) := match cs with
    | '-' :: rest => (true, rest)
    | cs => (false, cs)
  let (whole, cs) ← readWhole cs
  let (fraction, cs) ← readFraction cs
  let (exponent, cs) ← readExponent cs
  return (numberOf negative whole fraction exponent, cs)

/-! ### Values -/

/-- A leaf and what follows it. -/
def readLeaf : List Char → Option (JsonLeaf × List Char)
  | 'n' :: 'u' :: 'l' :: 'l' :: rest => some (.null, rest)
  | 't' :: 'r' :: 'u' :: 'e' :: rest => some (.bool true, rest)
  | 'f' :: 'a' :: 'l' :: 's' :: 'e' :: rest => some (.bool false, rest)
  | '"' :: rest =>
    (readQuoted rest).map fun (s, r) =>
      (match s with
        | some cs => .string (String.ofList cs)
        | none => .void, r)
  | cs => readNumber cs

mutual

/-- A value, and what follows it unless reading stopped inside. Each level of nesting, each item and
each member takes one unit of fuel and at least one character. -/
def readValue : Nat → List Char → Source × Option (List Char)
  | 0, _ => (.broken, none)
  | fuel + 1, cs =>
    match skipSpace cs with
    | '[' :: rest =>
      match skipSpace rest with
      | ']' :: rest => (.seq none [], some rest)
      | rest =>
        let (items, r) := readItems fuel rest
        (.seq none items, r)
    | '\x7b' :: rest =>
      match skipSpace rest with
      | '\x7d' :: rest => (.map none [], some rest)
      | rest =>
        let (entries, r) := readMembers fuel rest
        (.map none entries, r)
    | rest =>
      match readLeaf rest with
      | some (leaf, r) => (.json leaf, some r)
      | none => (.broken, none)

/-- The items of an array that has at least one, up to and including the closing bracket. -/
def readItems : Nat → List Char → List Source × Option (List Char)
  | 0, _ => ([.broken], none)
  | fuel + 1, cs =>
    match readValue fuel cs with
    | (v, none) => ([v], none)
    | (v, some rest) =>
      match skipSpace rest with
      | ']' :: rest => ([v], some rest)
      | ',' :: rest =>
        let (vs, r) := readItems fuel rest
        (v :: vs, r)
      | _ => ([v, .broken], none)

/-- The members of an object that has at least one, up to and including the closing brace. A member
whose name is not a text in quotes breaks off after the name. -/
def readMembers : Nat → List Char → List (Source × Source) × Option (List Char)
  | 0, _ => ([(.broken, .broken)], none)
  | fuel + 1, cs =>
    match readValue fuel cs with
    | (k, none) => ([(k, .broken)], none)
    | (k, some rest) =>
      match k, skipSpace rest with
      | .json (.string _), ':' :: rest => readMember fuel k rest
      | .json .void, ':' :: rest => readMember fuel k rest
      | _, _ => ([(k, .broken)], none)

/-- The value of a member whose name has been read, and the members after it. -/
def readMember : Nat → Source → List Char → List (Source × Source) × Option (List Char)
  | 0, k, _ => ([(k, .broken)], none)
  | fuel + 1, k, cs =>
    match readValue fuel cs with
    | (v, none) => ([(k, v)], none)
    | (v, some rest) =>
      match skipSpace rest with
      | '\x7d' :: rest => ([(k, v)], some rest)
      | ',' :: rest =>
        let (es, r) := readMembers fuel rest
        ((k, v) :: es, r)
      | _ => ([(k, v), (.broken, .broken)], none)

end

/-- Reads a JSON text: one value with nothing but space around it. -/
def readText (text : String) : SourceText :=
  let cs := text.toList
  let (root, rest) := readValue (3 * cs.length + 3) cs
  let after := match rest with
    | some r => if (skipSpace r).isEmpty then none else some .syntaxFault
    | none => none
  ⟨.json, root, after, [], 0⟩

end Conformance.Json

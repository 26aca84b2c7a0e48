/-!
# Places in a YAML text

* `Conformance.Yaml.isBlank`, `isBreak`, … – the kinds of characters the grammar tells apart;
* `Conformance.Yaml.Cursor` – a place in a text, with its line and its column;
* `Conformance.Yaml.Gap` – the space between two pieces of a scalar, and what it folds into.
-/

namespace Conformance.Yaml

/-! ### Kinds of characters -/

/-- Whether a character may stand in a YAML text at all. -/
def isPermitted (c : Char) : Bool :=
  let n := c.toNat
  n == 0x9 || n == 0xA || n == 0xD || (0x20 ≤ n && n ≤ 0x7E) || n == 0x85
    || (0xA0 ≤ n && n ≤ 0xFFFD) || 0x10000 ≤ n

/-- Whether a character is a space or a tab. -/
def isBlank (c : Char) : Bool := c == ' ' || c == '\t'

/-- Whether a character breaks lines. A line feed behind a carriage return is part of the same
break. -/
def isBreak (c : Char) : Bool :=
  c == '\n' || c == '\r' || c == '\x85' || c == '\u2028' || c == '\u2029'

/-- Whether a text starts with space of any sort, or is at its end. -/
def startsWithSpace : List Char → Bool
  | [] => true
  | c :: _ => isBlank c || isBreak c

/-- Whether a text starts with a line break, or is at its end. -/
def startsWithBreak : List Char → Bool
  | [] => true
  | c :: _ => isBreak c

/-- Whether a character may stand in the names of anchors, directives and handles of tags. -/
def isWordChar (c : Char) : Bool := c.isAlphanum || c == '_' || c == '-'

/-! ### Places -/

/-- A place in a text. -/
structure Cursor where
  /-- The text from here on. -/
  rest : List Char
  /-- The number of characters before. -/
  index : Nat
  /-- The number of lines before. -/
  line : Nat
  /-- The number of characters before in the line. -/
  column : Nat

namespace Cursor

/-- The start of a text. -/
def start (cs : List Char) : Cursor := ⟨cs, 0, 0, 0⟩

/-- The place behind so many characters of the line. -/
def advance (c : Cursor) (n : Nat) : Cursor :=
  ⟨c.rest.drop n, c.index + n, c.line, c.column + n⟩

/-- The place of the same line from which the given text goes on. -/
def advanceTo (c : Cursor) (rest : List Char) : Cursor :=
  let n := c.rest.length - rest.length
  ⟨rest, c.index + n, c.line, c.column + n⟩

/-- The place behind the line break that stands here. -/
def nextLine (c : Cursor) : Cursor :=
  match c.rest with
  | '\r' :: '\n' :: rest => ⟨rest, c.index + 2, c.line + 1, 0⟩
  | _ :: rest => ⟨rest, c.index + 1, c.line + 1, 0⟩
  | [] => c

/-- The place behind all characters of a kind that stand here, none of them a line break. -/
def skipWhile (c : Cursor) (p : Char → Bool) : Cursor := c.advanceTo (c.rest.dropWhile p)

/-- The place at the end of the line. -/
def lineEnd (c : Cursor) : Cursor := c.skipWhile fun ch => !isBreak ch

/-- Whether a marker of three characters stands at the start of a line here, and space behind. -/
def atMarker (c : Cursor) (marker : Char) : Bool :=
  c.column == 0 &&
    match c.rest with
    | a :: b :: d :: rest => a == marker && b == marker && d == marker && startsWithSpace rest
    | _ => false

/-- Whether a document starts or ends here. -/
def atDocumentMarker (c : Cursor) : Bool := c.atMarker '-' || c.atMarker '.'

end Cursor

/-- The character that a line break counts for: a line feed, unless it separates lines or paragraphs
by a character of its own. -/
def breakValue (c : Char) : Char := if c == '\u2028' || c == '\u2029' then c else '\n'

/-! ### Space inside of scalars -/

/-- The space between two pieces of a scalar. -/
inductive Gap where
  /-- Blanks within a line. -/
  | blanks (cs : List Char)
  /-- Line breaks: the first one, unless it is escaped, and those of the empty lines behind it. -/
  | lines (first : Option Char) (more : List Char)
deriving DecidableEq, Repr

namespace Gap

/-- Whether the space goes over the end of a line. -/
def isMultiline : Gap → Bool
  | blanks _ => false
  | lines _ _ => true

/-- The space with one more blank. Blanks at the ends of lines do not count. -/
def addBlank (c : Char) : Gap → Gap
  | blanks cs => blanks (cs ++ [c])
  | g => g

/-- The space with one more line break. -/
def addBreak (c : Char) : Gap → Gap
  | blanks _ => lines (some c) []
  | lines first more => lines first (more ++ [c])

/-- What the space folds into: a single line feed becomes a space, and one in front of further
breaks is dropped. -/
def folded : Gap → List Char
  | blanks cs => cs
  | lines (some '\n') [] => [' ']
  | lines (some '\n') more => more
  | lines first more => first.toList ++ more

/-- Reads the space that stands at a place. A tab must not stand in front of the given column at the
start of a line. The first argument bounds the number of characters. -/
def read? (column : Nat) : Nat → Gap → Cursor → Option (Gap × Cursor)
  | 0, g, c => some (g, c)
  | k + 1, g, c =>
    match c.rest with
    | [] => some (g, c)
    | ch :: _ =>
      if isBlank ch then
        if ch == '\t' && g.isMultiline && c.column < column then none
        else read? column k (g.addBlank ch) (c.advance 1)
      else if isBreak ch then read? column k (g.addBreak (breakValue ch)) c.nextLine
      else some (g, c)

end Gap

end Conformance.Yaml

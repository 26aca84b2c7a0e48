import Conformance.Source.Basic
import Conformance.Yaml.Cursor

/-!
# The text of YAML scalars

How the characters of a scalar are read and its lines are folded, for each style of scalar. Every
reader is given the place at which the scalar starts, and returns its text together with the place
behind it.

* `Conformance.Yaml.readPlain?` – a scalar without marks;
* `Conformance.Yaml.readQuoted?` – a scalar in quotes of either sort;
* `Conformance.Yaml.readBlock?` – a scalar as a block of lines.
-/

namespace Conformance.Yaml

/-! ### Plain scalars -/

/-- Whether a character ends a plain scalar inside of brackets. -/
def isFlowMark (c : Char) : Bool := c == ',' || c == '[' || c == ']' || c == '{' || c == '}'

/-- The characters of a plain scalar up to space or to what ends it, and the text behind them. A
colon right in front of a mark is refused inside of brackets. -/
def plainRun? (inFlow : Bool) : List Char → Option (List Char × List Char)
  | [] => some ([], [])
  | c :: rest =>
    if isBlank c || isBreak c then some ([], c :: rest)
    else if inFlow && c == ':' && rest.head?.any (fun d => isFlowMark d || d == '?') then none
    else if (c == ':' && startsWithSpace rest) || (inFlow && isFlowMark c) then
      some ([], c :: rest)
    else (plainRun? inFlow rest).map fun (run, behind) => (c :: run, behind)

/-- A plain scalar that has been read. -/
structure PlainText where
  /-- Its characters. -/
  text : List Char
  /-- The place behind it and the space that follows. -/
  cursor : Cursor
  /-- Whether that space goes over the end of a line. -/
  endsLine : Bool

/-- Reads on in a plain scalar, given the text so far and the space behind it. The lines of a scalar
outside of brackets have to be indented to a column. The first argument bounds the pieces. -/
def readPlainFrom? (inFlow : Bool) (column : Nat) :
    Nat → List Char → Gap → Cursor → Option PlainText
  | 0, text, gap, c => some ⟨text, c, gap.isMultiline⟩
  | k + 1, text, gap, c =>
    if c.atDocumentMarker || c.rest.head? == some '#' then some ⟨text, c, gap.isMultiline⟩
    else
      match plainRun? inFlow c.rest with
      | none => none
      | some ([], _) => some ⟨text, c, gap.isMultiline⟩
      | some (run, rest) =>
        let text := text ++ gap.folded ++ run
        match Gap.read? column rest.length (.blanks []) (c.advanceTo rest) with
        | none => none
        | some (gap, c) =>
          if !inFlow && c.column < column then some ⟨text, c, gap.isMultiline⟩
          else readPlainFrom? inFlow column k text gap c

/-- Reads a plain scalar. -/
def readPlain? (inFlow : Bool) (column : Nat) (c : Cursor) : Option PlainText :=
  readPlainFrom? inFlow column (c.rest.length + 1) [] (.blanks []) c

/-! ### Scalars in quotes -/

/-- The character that a backslash and a letter stand for. -/
def escaped? : Char → Option Char
  | '0' => some '\x00'
  | 'a' => some '\x07'
  | 'b' => some '\x08'
  | 't' => some '\t'
  | '\t' => some '\t'
  | 'n' => some '\n'
  | 'v' => some '\x0b'
  | 'f' => some '\x0c'
  | 'r' => some '\r'
  | 'e' => some '\x1b'
  | ' ' => some ' '
  | '"' => some '"'
  | '/' => some '/'
  | '\\' => some '\\'
  | 'N' => some '\x85'
  | '_' => some '\xa0'
  | 'L' => some '\u2028'
  | 'P' => some '\u2029'
  | _ => none

/-- The value of a hexadecimal digit. -/
def hexDigit? (c : Char) : Option Nat :=
  let n := c.toNat
  if 48 ≤ n && n ≤ 57 then some (n - 48)
  else if 97 ≤ n && n ≤ 102 then some (n - 87)
  else if 65 ≤ n && n ≤ 70 then some (n - 55)
  else none

/-- The character with a code point in hexadecimal digits, if there is one. -/
def hexChar? (digits : List Char) : Option Char := do
  let digits ← digits.mapM hexDigit?
  let n := digits.foldl (fun n d => n * 16 + d) 0
  if n < 0xD800 || (0xE000 ≤ n && n ≤ 0x10FFFF) then some (Char.ofNat n) else none

/-- The characters in single quotes up to space or the closing quote, and the text behind them. -/
def singleRun : List Char → List Char × List Char
  | [] => ([], [])
  | '\'' :: '\'' :: rest =>
    let (run, behind) := singleRun rest
    ('\'' :: run, behind)
  | c :: rest =>
    if isBlank c || isBreak c || c == '\'' then ([], c :: rest)
    else
      let (run, behind) := singleRun rest
      (c :: run, behind)

/-- The characters in double quotes up to space, to the closing quote or to an escaped line break,
and the text behind them. -/
def doubleRun? : List Char → Option (List Char × List Char)
  | [] => some ([], [])
  | '\\' :: 'x' :: a :: b :: rest => do
    let c ← hexChar? [a, b]
    let (run, behind) ← doubleRun? rest
    return (c :: run, behind)
  | '\\' :: 'u' :: a :: b :: c :: d :: rest => do
    let c ← hexChar? [a, b, c, d]
    let (run, behind) ← doubleRun? rest
    return (c :: run, behind)
  | '\\' :: 'U' :: a :: b :: c :: d :: e :: f :: g :: h :: rest => do
    let c ← hexChar? [a, b, c, d, e, f, g, h]
    let (run, behind) ← doubleRun? rest
    return (c :: run, behind)
  | '\\' :: e :: rest =>
    if isBreak e then some ([], '\\' :: e :: rest)
    else do
      let c ← escaped? e
      let (run, behind) ← doubleRun? rest
      return (c :: run, behind)
  | c :: rest =>
    if isBlank c || isBreak c || c == '"' then some ([], c :: rest)
    else if c == '\\' then none
    else do
      let (run, behind) ← doubleRun? rest
      return (c :: run, behind)

/-- Reads on in a scalar in quotes, given the text so far. The first argument bounds the number of
pieces. -/
def readQuotedFrom? (single : Bool) : Nat → List Char → Cursor → Option (List Char × Cursor)
  | 0, _, _ => none
  | k + 1, text, c =>
    if c.atDocumentMarker || c.rest.isEmpty then none
    else
      match if single then some (singleRun c.rest) else doubleRun? c.rest with
      | none => none
      | some (run, rest) =>
        let text := text ++ run
        let c := c.advanceTo rest
        let further := fun gap (c : Cursor) =>
          match Gap.read? 0 c.rest.length gap c with
          | none => none
          | some (gap, c) => readQuotedFrom? single k (text ++ gap.folded) c
        match rest with
        | '\\' :: _ => further (.lines none []) (c.advance 1).nextLine
        | ch :: _ =>
          if ch == (if single then '\'' else '"') then some (text, c.advance 1)
          else further (.blanks []) c
        | [] => none

/-- Reads a scalar in quotes, from its opening quote on. -/
def readQuoted? (single : Bool) (c : Cursor) : Option (List Char × Cursor) :=
  readQuotedFrom? single (c.rest.length + 1) [] (c.advance 1)

/-! ### Scalars as blocks of lines -/

/-- What becomes of the line breaks at the end of a block. -/
inductive Chomping where
  /-- All are dropped. -/
  | strip
  /-- The first one is kept. -/
  | clip
  /-- All are kept. -/
  | keep
deriving DecidableEq, Repr

/-- What the header of a block says. -/
structure BlockHeader where
  /-- What becomes of the line breaks at the end. -/
  chomping : Chomping
  /-- By how many columns the lines are indented more than what is around, if it is said. -/
  increment : Option Nat

/-- The sign for what becomes of the line breaks at the end. -/
def chomping? : Char → Option Chomping
  | '+' => some .keep
  | '-' => some .strip
  | _ => none

/-- An indentation of one digit, which is not zero; nothing stands for no digit at all. -/
def readIncrement? : List Char → Option (Option Nat × List Char)
  | [] => some (none, [])
  | c :: rest =>
    if c == '0' then none
    else if c.isDigit then some (some (c.toNat - 48), rest)
    else some (none, c :: rest)

/-- Reads the signs in a header, in either order. -/
def readHeaderSigns? (cs : List Char) : Option (BlockHeader × List Char) :=
  match cs.head?.bind chomping? with
  | some chomping =>
    (readIncrement? (cs.drop 1)).map fun (increment, rest) => (⟨chomping, increment⟩, rest)
  | none =>
    match readIncrement? cs with
    | none => none
    | some (none, rest) => some (⟨.clip, none⟩, rest)
    | some (increment, rest) =>
      match rest.head?.bind chomping? with
      | some chomping => some (⟨chomping, increment⟩, rest.drop 1)
      | none => some (⟨.clip, increment⟩, rest)

/-- Reads a header from its first sign on, with the comment and the line break that may follow. -/
def readHeader? (c : Cursor) : Option (BlockHeader × Cursor) := do
  let (header, rest) ← readHeaderSigns? (c.rest.drop 1)
  let c := (c.advanceTo rest).skipWhile isBlank
  let c := if c.rest.head? == some '#' then c.lineEnd else c
  if startsWithBreak c.rest then
    return (header, if c.rest.isEmpty then c else c.nextLine)
  else none

/-- The line breaks in front of a line of a block. -/
structure BlockBreaks where
  /-- The line breaks. -/
  breaks : List Char
  /-- The greatest column at which a line starts. -/
  widest : Nat
  /-- The start of the next line that is not empty. -/
  cursor : Cursor

/-- Reads the line breaks in front of a line of a block, with the indentation up to a column;
without a column, all spaces are indentation. A tab must not stand in the indentation. The first
argument bounds the number of lines. -/
def readBlockBreaks? (column : Option Nat) :
    Nat → List Char → Nat → Cursor → Option BlockBreaks
  | 0, breaks, widest, c => some ⟨breaks, widest, c⟩
  | k + 1, breaks, widest, c =>
    let spaces := (c.rest.takeWhile (· == ' ')).length
    let c := c.advance (match column with
      | none => spaces
      | some n => min spaces (n - c.column))
    let widest := max widest c.column
    if c.rest.head? == some '\t' && column.all (c.column < ·) then none
    else
      match c.rest with
      | [] => some ⟨breaks, widest, c⟩
      | ch :: _ =>
        if isBreak ch then
          readBlockBreaks? column k (breaks ++ [breakValue ch]) widest c.nextLine
        else some ⟨breaks, widest, c⟩

/-- What has been read of a block. -/
structure BlockText where
  /-- The text up to the end of the last line. -/
  text : List Char
  /-- The break at the end of the last line, if it has one. -/
  lineBreak : Option Char
  /-- The breaks of the empty lines behind it. -/
  emptyLines : List Char
  /-- Whether the last line starts with a blank. -/
  indented : Bool

namespace BlockText

/-- Nothing but empty lines. -/
def start (emptyLines : List Char) : BlockText := ⟨[], none, emptyLines, false⟩

/-- The text with everything in front of another line, given whether lines are folded and whether
that line starts with a blank. Two lines that both start without one are folded together. -/
def joined (b : BlockText) (folds indented : Bool) : List Char :=
  if folds && b.lineBreak == some '\n' && !b.indented && !indented then
    b.text ++ (if b.emptyLines.isEmpty then [' '] else b.emptyLines)
  else b.text ++ b.lineBreak.toList ++ b.emptyLines

/-- The whole text. -/
def chomped (b : BlockText) : Chomping → List Char
  | .strip => b.text
  | .clip => b.text ++ b.lineBreak.toList
  | .keep => b.text ++ b.lineBreak.toList ++ b.emptyLines

end BlockText

/-- Reads the lines of a block that start at a column. The first argument bounds their number. -/
def readLines? (folds : Bool) (column : Nat) :
    Nat → BlockText → Cursor → Option (BlockText × Cursor)
  | 0, b, c => some (b, c)
  | k + 1, b, c =>
    match c.rest with
    | [] => some (b, c)
    | ch :: _ =>
      if c.column != column then some (b, c)
      else
        let line := c.rest.takeWhile fun ch => !isBreak ch
        let c := c.lineEnd
        let text := b.joined folds (isBlank ch) ++ line
        let lineBreak := c.rest.head?.map breakValue
        match readBlockBreaks? (some column) (c.rest.length + 1) [] 0 c.nextLine with
        | none => none
        | some breaks =>
          readLines? folds column k ⟨text, lineBreak, breaks.breaks, isBlank ch⟩ breaks.cursor

/-- Reads a block from its header on. Its lines are indented more than the given column, or to the
column of the first one; nothing stands for a block with nothing around it. -/
def readBlock? (folds : Bool) (around : Option Nat) (c : Cursor) : Option (List Char × Cursor) := do
  let (header, c) ← readHeader? c
  let fixed := header.increment.map (around.getD 0 + ·)
  let breaks ← readBlockBreaks? fixed (c.rest.length + 1) [] 0 c
  let column := fixed.getD (max breaks.widest (max 1 (around.elim 0 (· + 1))))
  let (b, c) ←
    readLines? folds column (breaks.cursor.rest.length + 1) (.start breaks.breaks) breaks.cursor
  return (b.chomped header.chomping, c)

end Conformance.Yaml

import Conformance.Yaml.Tag

/-!
# From a YAML text to its tokens

Whether a scalar is a key shows only when the colon behind it is met. Until then the scalar is a
*possible key*: the token that would open it has a place reserved among the tokens, which is filled
when the colon comes. Outside of brackets, a key also opens a mapping if it stands further to the
right than what is around it. A possible key has to be found out on its own line and within 1024
characters.

A text with a fault still has tokens, but the fault hides those from the first possible key on: they
are not settled before the fault is met.

* `Conformance.Yaml.Lexer` – what has been read of a text;
* `Conformance.Yaml.Lexer.step?` – reads the next tokens;
* `Conformance.Yaml.tokens` – the tokens of a text.
-/

namespace Conformance.Yaml

/-- A place where a key may have begun. -/
structure PossibleKey where
  /-- The number of tokens in front of it. -/
  position : Nat
  /-- Where it begins. -/
  index : Nat
  /-- The line in which it begins. -/
  line : Nat
  /-- The column at which it begins. -/
  column : Nat
  /-- Whether nothing but a key can stand here. -/
  required : Bool
deriving Repr

/-- What has been read of a text. -/
structure Lexer where
  /-- The place reached. -/
  cursor : Cursor
  /-- The tokens, the last one first. -/
  tokens : List Token
  /-- The column of the innermost block, if there is one. -/
  indent : Option Nat
  /-- The columns of the blocks around it, from the inside out. -/
  outerIndents : List Nat
  /-- Whether a key may begin here. -/
  keyAllowed : Bool
  /-- The possible key inside of the innermost brackets. -/
  key : Option PossibleKey
  /-- The possible keys around each pair of brackets, from the inside out. -/
  outerKeys : List (Option PossibleKey)

namespace Lexer

/-- The start of a text. -/
def start (cs : List Char) : Lexer := ⟨.start cs, [], none, [], true, none, []⟩

/-- Whether the place is inside of brackets. -/
def inFlow (l : Lexer) : Bool := !l.outerKeys.isEmpty

/-- The column at which the lines of a scalar have to start outside of brackets. -/
def contentColumn (l : Lexer) : Nat := l.indent.elim 0 (· + 1)

/-! ### Tokens -/

/-- Adds a token. -/
def emit (l : Lexer) (t : Token) : Lexer := { l with tokens := t :: l.tokens }

/-- Puts a token behind the first so many. -/
def insertAt (l : Lexer) (position : Nat) (t : Token) : Lexer :=
  let later := l.tokens.length - position
  { l with tokens := l.tokens.take later ++ t :: l.tokens.drop later }

/-- Moves on by so many characters and adds a token. -/
def emitMark (l : Lexer) (n : Nat) (t : Token) : Lexer :=
  { l with cursor := l.cursor.advance n }.emit t

/-! ### Possible keys -/

/-- Whether a possible key is no longer possible at a place. -/
def isStale (c : Cursor) (k : PossibleKey) : Bool := k.line < c.line || k.index + 1024 < c.index

/-- Gives a possible key up where it is no longer possible; it must not be a required one. -/
def settle? (c : Cursor) : Option PossibleKey → Option (Option PossibleKey)
  | none => some none
  | some k => if isStale c k then (if k.required then none else some none) else some (some k)

/-- Gives up all keys that are no longer possible. -/
def dropStale? (l : Lexer) : Option Lexer := do
  let key ← settle? l.cursor l.key
  let outerKeys ← l.outerKeys.mapM (settle? l.cursor)
  return { l with key := key, outerKeys := outerKeys }

/-- Gives up the possible key; it must not be a required one. -/
def dropKey? (l : Lexer) : Option Lexer :=
  if l.key.any (·.required) then none else some { l with key := none }

/-- Makes this place a possible key, if a key may begin here. -/
def saveKey? (l : Lexer) : Option Lexer :=
  if l.keyAllowed then do
    let c := l.cursor
    let required := !l.inFlow && l.indent == some c.column
    let l ← l.dropKey?
    return { l with key := some ⟨l.tokens.length, c.index, c.line, c.column, required⟩ }
  else some l

/-- Says whether a key may begin behind the token that is read now. -/
def allowKey (l : Lexer) (allowed : Bool) : Lexer := { l with keyAllowed := allowed }

/-! ### Indentation -/

/-- Opens a block at a column that is further to the right than the block around it. The token goes
to the given position among the tokens. -/
def openBlock (l : Lexer) (column position : Nat) (t : Token) : Lexer :=
  if !l.inFlow && l.indent.all (· < column) then
    { l with indent := some column, outerIndents := l.indent.toList ++ l.outerIndents }.insertAt
      position t
  else l

/-- Opens a block here. -/
def openBlockHere (l : Lexer) (t : Token) : Lexer :=
  l.openBlock l.cursor.column l.tokens.length t

/-- Closes the blocks that a condition on their columns applies to, given the columns from the
inside out. -/
def closeBlocks (closes : Nat → Bool) : List Nat → Lexer → Lexer
  | [], l => { l with indent := none, outerIndents := [] }
  | n :: outer, l =>
    if closes n then closeBlocks closes outer (l.emit .blockEnd)
    else { l with indent := some n, outerIndents := outer }

/-- Closes the blocks whose columns are to the right of the given one, or all of them. -/
def unroll (l : Lexer) (column : Option Nat) : Lexer :=
  if l.inFlow then l
  else closeBlocks (fun n => column.all (· < n)) (l.indent.toList ++ l.outerIndents) l

/-! ### Space between tokens -/

/-- The place behind the blanks that stand here. Tabs are no indentation. -/
def skipBlanks (l : Lexer) : Cursor :=
  let tabs := l.inFlow || !l.keyAllowed
  l.cursor.skipWhile fun c => c == ' ' || (tabs && c == '\t')

/-- Skips space, comments and line breaks. Outside of brackets a key may begin in a new line. The
first argument bounds the number of lines. -/
def skipSpace : Nat → Lexer → Lexer
  | 0, l => l
  | k + 1, l =>
    let c := l.skipBlanks
    let c := if c.rest.head? == some '#' then c.lineEnd else c
    if startsWithBreak c.rest && !c.rest.isEmpty then
      skipSpace k { l with cursor := c.nextLine, keyAllowed := l.keyAllowed || !l.inFlow }
    else { l with cursor := c }

/-- Skips a byte order mark at the very start of the text. -/
def skipMark (l : Lexer) : Lexer :=
  if l.cursor.index == 0 && l.cursor.rest.head? == some '\ufeff' then
    { l with cursor := l.cursor.advance 1 }
  else l

/-! ### Tokens of each sort -/

/-- The end of the text. -/
def readEnd? (l : Lexer) : Option Lexer := do
  let l ← (l.unroll none).dropKey?
  return (l.allowKey false).emit .streamEnd

/-- A directive. -/
def readDirectiveHere? (l : Lexer) : Option Lexer := do
  let l ← (l.unroll none).dropKey?
  let (t, c) ← readDirective? l.cursor
  return { l with cursor := c, keyAllowed := false }.emit t

/-- The marker of the start or the end of a document. -/
def readMarker? (l : Lexer) (t : Token) : Option Lexer := do
  let l ← (l.unroll none).dropKey?
  return (l.allowKey false).emitMark 3 t

/-- An opening bracket or brace. -/
def openFlow? (l : Lexer) (t : Token) : Option Lexer := do
  let l ← l.saveKey?
  return { l with key := none, outerKeys := l.key :: l.outerKeys, keyAllowed := true }.emitMark 1 t

/-- A closing bracket or brace. -/
def closeFlow? (l : Lexer) (t : Token) : Option Lexer := do
  let l ← l.dropKey?
  let l := match l.outerKeys with
    | [] => l
    | key :: outer => { l with key := key, outerKeys := outer }
  return (l.allowKey false).emitMark 1 t

/-- A comma. -/
def readComma? (l : Lexer) : Option Lexer := do
  let l ← l.dropKey?
  return (l.allowKey true).emitMark 1 .comma

/-- The hyphen in front of an item. -/
def readItem? (l : Lexer) : Option Lexer :=
  if !l.inFlow && !l.keyAllowed then none
  else do
    let l ← (l.openBlockHere .blockSequence).dropKey?
    return (l.allowKey true).emitMark 1 .item

/-- The question mark in front of a key. -/
def readKey? (l : Lexer) : Option Lexer :=
  if !l.inFlow && !l.keyAllowed then none
  else do
    let l ← (l.openBlockHere .blockMapping).dropKey?
    return (l.allowKey !l.inFlow).emitMark 1 .key

/-- The colon in front of a value. It settles the possible key. -/
def readValue? (l : Lexer) : Option Lexer :=
  match l.key with
  | some k =>
    let l := (l.insertAt k.position .key).openBlock k.column k.position .blockMapping
    some ({ l with key := none, keyAllowed := false }.emitMark 1 .value)
  | none =>
    if !l.inFlow && !l.keyAllowed then none
    else some (((l.openBlockHere .blockMapping).allowKey !l.inFlow).emitMark 1 .value)

/-- An anchor or a reference. -/
def readAnchor? (l : Lexer) (t : String → Token) : Option Lexer := do
  let l ← l.saveKey?
  let (name, c) ← readAnchorName? l.cursor
  return { l with cursor := c, keyAllowed := false }.emit (t name)

/-- A tag. -/
def readTagHere? (l : Lexer) : Option Lexer := do
  let l ← l.saveKey?
  let (t, c) ← readTag? l.inFlow l.cursor
  return { l with cursor := c, keyAllowed := false }.emit t

/-- A scalar as a block of lines. -/
def readBlockScalar? (l : Lexer) (folds : Bool) : Option Lexer := do
  let l ← l.dropKey?
  let (text, c) ← readBlock? folds l.indent l.cursor
  let style := if folds then .folded else .literal
  return { l with cursor := c, keyAllowed := true }.emit (.scalar (String.ofList text) style)

/-- A scalar in quotes. -/
def readQuotedScalar? (l : Lexer) (single : Bool) : Option Lexer := do
  let l ← l.saveKey?
  let (text, c) ← readQuoted? single l.cursor
  return { l with cursor := c, keyAllowed := false }.emit (.scalar (String.ofList text) .quoted)

/-- A plain scalar. A key may begin behind it if the space behind it goes over the end of a line. -/
def readPlainScalar? (l : Lexer) : Option Lexer := do
  let l ← l.saveKey?
  let p ← readPlain? l.inFlow l.contentColumn l.cursor
  return { l with cursor := p.cursor, keyAllowed := p.endsLine }.emit
    (.scalar (String.ofList p.text) .plain)

/-! ### The next tokens -/

/-- Whether a plain scalar may start with a text. -/
def startsPlain (inFlow : Bool) : List Char → Bool
  | [] => false
  | c :: rest =>
    if c == '-' then !rest.head?.any isBlank
    else if c == '?' || c == ':' then !inFlow && !startsWithSpace rest
    else !(isBlank c || isBreak c || ",[]\x7b\x7d#&*!|>'\"%@\x60".toList.contains c)

/-- Reads the tokens that start at a place that is not space. -/
def readHere? (l : Lexer) : Option Lexer :=
  let c := l.cursor
  if c.column == 0 && c.rest.head? == some '%' then l.readDirectiveHere?
  else if c.atMarker '-' then l.readMarker? .documentStart
  else if c.atMarker '.' then l.readMarker? .documentEnd
  else
    match c.rest with
    | [] => l.readEnd?
    | '[' :: _ => l.openFlow? .openBracket
    | '\x7b' :: _ => l.openFlow? .openBrace
    | ']' :: _ => l.closeFlow? .closeBracket
    | '\x7d' :: _ => l.closeFlow? .closeBrace
    | ',' :: _ => l.readComma?
    | '*' :: _ => l.readAnchor? .alias
    | '&' :: _ => l.readAnchor? .anchor
    | '!' :: _ => l.readTagHere?
    | '\'' :: _ => l.readQuotedScalar? true
    | '"' :: _ => l.readQuotedScalar? false
    | ch :: rest =>
      let mark := startsWithSpace rest
      if ch == '-' && mark then l.readItem?
      else if ch == '?' && (l.inFlow || mark) then l.readKey?
      else if ch == ':' && (l.inFlow || mark) then l.readValue?
      else if ch == '|' && !l.inFlow then l.readBlockScalar? false
      else if ch == '>' && !l.inFlow then l.readBlockScalar? true
      else if startsPlain l.inFlow (ch :: rest) then l.readPlainScalar?
      else none

/-- Reads the next tokens. -/
def step? (l : Lexer) : Option Lexer := do
  let l := l.skipMark
  let l ← (l.skipSpace (l.cursor.rest.length + 1)).dropStale?
  let l ← (l.unroll (some l.cursor.column)).readHere?
  l.dropStale?

/-- The number of tokens that are settled. -/
def settled (l : Lexer) : Nat :=
  let positions := (l.key :: l.outerKeys).filterMap fun key => key.map (·.position)
  positions.foldl min l.tokens.length

/-- The tokens that are settled, in the order of the text. -/
def settledTokens (l : Lexer) : List Token := l.tokens.reverse.take l.settled

/-- Reads a text to its end or its first fault. The first argument bounds the number of steps. -/
def readAll : Nat → Lexer → List Token
  | 0, l => l.settledTokens
  | k + 1, l =>
    match l.step? with
    | none => l.settledTokens
    | some l => if l.tokens.head? == some .streamEnd then l.tokens.reverse else readAll k l

end Lexer

/-- The tokens of a text. If the text has a fault, they end before the end of the stream. -/
def tokens (cs : List Char) : List Token := (Lexer.start cs).readAll (cs.length + 1)

end Conformance.Yaml

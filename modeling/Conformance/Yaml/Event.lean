import Conformance.Yaml.Lexer

/-!
# From the tokens of a YAML text to its events

Events are the nodes of a text in the order in which they start and end. The grammar is read by a
machine that remembers what it expects next, and behind that, what is expected when the node at hand
is over. Where a key, a value or an item is missing, an empty scalar stands for it.

* `Conformance.Yaml.Event` – the events;
* `Conformance.Yaml.Expectation` – what may come next;
* `Conformance.Yaml.EventReader.step?` – the next event;
* `Conformance.Yaml.events` – the events of a sequence of tokens.
-/

namespace Conformance.Yaml

/-- An event. -/
inductive Event where
  /-- A document starts. -/
  | documentStart
  /-- A document ends. -/
  | documentEnd
  /-- The text ends. -/
  | streamEnd
  /-- A reference. -/
  | alias (name : String)
  /-- A scalar, with its anchor. -/
  | scalar (anchor : Option String) (s : Scalar)
  /-- A sequence starts, with its anchor and its tag. -/
  | sequenceStart (anchor tag : Option String)
  /-- A sequence ends. -/
  | sequenceEnd
  /-- A mapping starts, with its anchor and its tag. -/
  | mappingStart (anchor tag : Option String)
  /-- A mapping ends. -/
  | mappingEnd
deriving DecidableEq, Repr

/-- What may come next. -/
inductive Expectation where
  /-- A document; the first one needs no marker. -/
  | document (first : Bool)
  /-- The content of a document behind its marker. -/
  | content
  /-- The content of a document without a marker. -/
  | blockNode
  /-- The end of a document. -/
  | documentEnd
  /-- An item of a block sequence; the first one stands behind the opening token. -/
  | blockItem (first : Bool)
  /-- An item of a sequence in a mapping that is not indented. -/
  | looseItem
  /-- A key of a block mapping; the first one stands behind the opening token. -/
  | blockKey (first : Bool)
  /-- A value of a block mapping. -/
  | blockValue
  /-- An item in brackets; the first one stands behind the opening token. -/
  | flowItem (first : Bool)
  /-- The key of a single pair in brackets. -/
  | pairKey
  /-- The value of a single pair in brackets. -/
  | pairValue
  /-- The end of a single pair in brackets. -/
  | pairEnd
  /-- A key in braces; the first one stands behind the opening token. -/
  | flowKey (first : Bool)
  /-- A value in braces. -/
  | flowValue
  /-- The missing value of a key in braces that stands without a colon. -/
  | flowNoValue
deriving DecidableEq, Repr

/-- The machine that reads events. -/
structure EventReader where
  /-- What may come next. -/
  expected : Expectation
  /-- What may come after the nodes that are open, from the inside out. -/
  later : List Expectation
  /-- The handles of tags, with what they stand for. -/
  handles : List (String × String)
  /-- The tokens that are left. -/
  tokens : List Token

namespace EventReader

/-- The start of a text. -/
def start (tokens : List Token) : EventReader := ⟨.document true, [], [], tokens⟩

/-- An empty scalar without any marks. -/
def blank : Scalar := ⟨"", .plain, none⟩

/-! ### Moves -/

/-- Goes on with the tokens that are left and what is expected next. -/
def next (r : EventReader) (expected : Expectation) (tokens : List Token) : EventReader :=
  { r with expected := expected, tokens := tokens }

/-- Goes on with what was expected after the node that is over. -/
def resume? (r : EventReader) (tokens : List Token) : Option EventReader :=
  match r.later with
  | [] => none
  | e :: later => some { r with expected := e, later := later, tokens := tokens }

/-- An event behind which the node at hand is over. -/
def over? (r : EventReader) (e : Event) (tokens : List Token) : Option (Event × EventReader) :=
  (r.resume? tokens).map fun r => (e, r)

/-- An empty scalar where something is missing. -/
def missing (r : EventReader) (expected : Expectation) (tokens : List Token) :
    Event × EventReader :=
  (.scalar none blank, r.next expected tokens)

/-! ### Nodes -/

/-- What stands in front of a node. -/
structure Properties where
  /-- The anchor. -/
  anchor : Option String
  /-- The tag: its handle and the rest of it. -/
  tag : Option (String × String)

/-- Reads an anchor and a tag, in either order. -/
def readProperties : List Token → Properties × List Token
  | .anchor a :: .tag h s :: rest => (⟨some a, some (h, s)⟩, rest)
  | .anchor a :: rest => (⟨some a, none⟩, rest)
  | .tag h s :: .anchor a :: rest => (⟨some a, some (h, s)⟩, rest)
  | .tag h s :: rest => (⟨none, some (h, s)⟩, rest)
  | rest => (⟨none, none⟩, rest)

/-- The tag in full. A handle has to be known. -/
def fullTag? (r : EventReader) : Option (String × String) → Option (Option String)
  | none => some none
  | some (handle, suffix) =>
    if handle.isEmpty then some (some suffix)
    else (r.handles.lookup handle).map fun uri => some (uri ++ suffix)

/-- A scalar with a tag. The tag of one exclamation mark says nothing, so it is left out. -/
def taggedScalar (text : String) (style : ScalarStyle) (tag : Option String) : Scalar :=
  ⟨text, style, if tag == some "!" then none else tag⟩

/-- Reads a node: one that may be a block or not, and may be a sequence that is not indented. -/
def node? (r : EventReader) (block loose : Bool) (tokens : List Token) :
    Option (Event × EventReader) :=
  match tokens with
  | .alias name :: rest => r.over? (.alias name) rest
  | _ =>
    let (properties, tokens) := readProperties tokens
    let anchor := properties.anchor
    match r.fullTag? properties.tag with
    | none => none
    | some tag =>
      match tokens with
      | .scalar text style :: rest => r.over? (.scalar anchor (taggedScalar text style tag)) rest
      | .openBracket :: _ => some (.sequenceStart anchor tag, r.next (.flowItem true) tokens)
      | .openBrace :: _ => some (.mappingStart anchor tag, r.next (.flowKey true) tokens)
      | t :: _ =>
        if loose && t = .item then some (.sequenceStart anchor tag, r.next .looseItem tokens)
        else if block && t = .blockSequence then
          some (.sequenceStart anchor tag, r.next (.blockItem true) tokens)
        else if block && t = .blockMapping then
          some (.mappingStart anchor tag, r.next (.blockKey true) tokens)
        else if anchor.isSome || tag.isSome then
          r.over? (.scalar anchor ⟨"", .plain, tag⟩) tokens
        else none
      | [] => none

/-- Reads a node with something expected behind it. -/
def nodeThen? (r : EventReader) (block loose : Bool) (after : Expectation) (tokens : List Token) :
    Option (Event × EventReader) :=
  { r with later := after :: r.later }.node? block loose tokens

/-- Reads a node with something expected behind it; before one of some tokens, it is missing. -/
def nodeUnless? (r : EventReader) (block loose : Bool) (stops : List Token) (after : Expectation)
    (tokens : List Token) : Option (Event × EventReader) :=
  match tokens with
  | [] => none
  | t :: rest =>
    if stops.contains t then some (r.missing after (t :: rest))
    else r.nodeThen? block loose after (t :: rest)

/-! ### Documents -/

/-- The handles that every document knows, unless it gives them another meaning. -/
def commonHandles : List (String × String) := [("!", "!"), ("!!", "tag:yaml.org,2002:")]

/-- Reads the directives of a document. No handle may be given twice, nor may the version, which has
to be a known one. -/
def readDirectives? (versioned : Bool) (handles : List (String × String)) :
    List Token → Option (List (String × String) × List Token)
  | .version major minor :: rest =>
    if versioned || major != 1 || !(minor == 1 || minor == 2) then none
    else readDirectives? true handles rest
  | .tagHandle handle uri :: rest =>
    if (handles.lookup handle).isSome then none
    else readDirectives? versioned ((handle, uri) :: handles) rest
  | tokens => some (handles, tokens)

/-- Whether a token belongs to what is in front of the content of a document. -/
def isPreamble : Token → Bool
  | .version _ _ | .tagHandle _ _ | .documentStart => true
  | _ => false

/-- Whether a token ends a document that has no content. -/
def endsContent (t : Token) : Bool := isPreamble t || t = .documentEnd || t = .streamEnd

/-- The document at hand, given what its directives say. -/
def openDocument (r : EventReader) (expected : Expectation) (handles : List (String × String))
    (tokens : List Token) : Event × EventReader :=
  (.documentStart, ⟨expected, .documentEnd :: r.later, handles ++ commonHandles, tokens⟩)

/-- Reads the start of a document, or the end of the text. -/
def document? (r : EventReader) (first : Bool) : Option (Event × EventReader) :=
  let tokens := if first then r.tokens else r.tokens.dropWhile (· = .documentEnd)
  match tokens with
  | [] => none
  | .streamEnd :: rest => some (.streamEnd, r.next (.document false) rest)
  | t :: rest =>
    if first && !isPreamble t then some (r.openDocument .blockNode [] (t :: rest))
    else
      match readDirectives? false [] (t :: rest) with
      | some (handles, .documentStart :: rest) => some (r.openDocument .content handles rest)
      | _ => none

/-! ### Parts of nodes -/

/-- Reads an item of a block sequence behind its hyphen, or the end of the sequence. -/
def blockItem? (r : EventReader) : List Token → Option (Event × EventReader)
  | .item :: rest => r.nodeUnless? true false [.item, .blockEnd] (.blockItem false) rest
  | .blockEnd :: rest => r.over? .sequenceEnd rest
  | _ => none

/-- Reads a key of a block mapping, or the end of the mapping. -/
def blockKey? (r : EventReader) : List Token → Option (Event × EventReader)
  | .key :: rest => r.nodeUnless? true true [.key, .value, .blockEnd] .blockValue rest
  | .blockEnd :: rest => r.over? .mappingEnd rest
  | _ => none

/-- Goes over the comma in front of all but the first part in brackets or braces. -/
def behindComma? (first : Bool) (close : Token) : List Token → Option (List Token)
  | t :: rest =>
    if first || t = close then some (t :: rest) else if t = .comma then some rest else none
  | [] => none

/-- Reads an item in brackets: a node, or a single pair of a mapping. -/
def flowItem? (r : EventReader) : List Token → Option (Event × EventReader)
  | .closeBracket :: rest => r.over? .sequenceEnd rest
  | .key :: rest => some (.mappingStart none none, r.next .pairKey rest)
  | tokens => r.nodeThen? false false (.flowItem false) tokens

/-- Reads a key in braces. A key may stand without a colon. -/
def flowKey? (r : EventReader) : List Token → Option (Event × EventReader)
  | .closeBrace :: rest => r.over? .mappingEnd rest
  | .key :: rest => r.nodeUnless? false false [.value, .comma, .closeBrace] .flowValue rest
  | tokens => r.nodeThen? false false .flowNoValue tokens

/-! ### Steps -/

/-- The next event. -/
def step? (r : EventReader) : Option (Event × EventReader) :=
  match r.expected, r.tokens with
  | .document first, _ => r.document? first
  | .content, t :: rest =>
    if endsContent t then r.over? (.scalar none blank) (t :: rest)
    else r.node? true false (t :: rest)
  | .blockNode, tokens => r.node? true false tokens
  | .documentEnd, t :: rest =>
    some (.documentEnd, r.next (.document false) (if t = .documentEnd then rest else t :: rest))
  | .blockItem true, _ :: rest => r.blockItem? rest
  | .blockItem false, tokens => r.blockItem? tokens
  | .looseItem, .item :: rest =>
    r.nodeUnless? true false [.item, .key, .value, .blockEnd] .looseItem rest
  | .looseItem, t :: rest => r.over? .sequenceEnd (t :: rest)
  | .blockKey true, _ :: rest => r.blockKey? rest
  | .blockKey false, tokens => r.blockKey? tokens
  | .blockValue, .value :: rest =>
    r.nodeUnless? true true [.key, .value, .blockEnd] (.blockKey false) rest
  | .blockValue, t :: rest => some (r.missing (.blockKey false) (t :: rest))
  | .flowItem true, _ :: rest => (behindComma? true .closeBracket rest).bind r.flowItem?
  | .flowItem false, tokens => (behindComma? false .closeBracket tokens).bind r.flowItem?
  | .pairKey, t :: rest =>
    if [.value, .comma, .closeBracket].contains t then some (r.missing .pairValue rest)
    else r.nodeThen? false false .pairValue (t :: rest)
  | .pairValue, .value :: rest =>
    r.nodeUnless? false false [.comma, .closeBracket] .pairEnd rest
  | .pairValue, t :: rest => some (r.missing .pairEnd (t :: rest))
  | .pairEnd, t :: rest => some (.mappingEnd, r.next (.flowItem false) (t :: rest))
  | .flowKey true, _ :: rest => (behindComma? true .closeBrace rest).bind r.flowKey?
  | .flowKey false, tokens => (behindComma? false .closeBrace tokens).bind r.flowKey?
  | .flowValue, .value :: rest =>
    r.nodeUnless? false false [.comma, .closeBrace] (.flowKey false) rest
  | .flowValue, t :: rest => some (r.missing (.flowKey false) (t :: rest))
  | .flowNoValue, t :: rest => some (r.missing (.flowKey false) (t :: rest))
  | _, [] => none

/-- Reads events up to the end of the text or to the first fault. The first argument bounds their
number. -/
def readAll : Nat → EventReader → List Event
  | 0, _ => []
  | k + 1, r =>
    match r.step? with
    | none => []
    | some (.streamEnd, _) => [.streamEnd]
    | some (e, r) => e :: readAll k r

end EventReader

/-- The events of a sequence of tokens. If there is a fault, they end before the end of the text.
Every token gives rise to a few events at most: to itself, to something missing beside it, and to
the start and the end of what it belongs to. -/
def events (tokens : List Token) : List Event :=
  (EventReader.start tokens).readAll (8 * tokens.length + 8)

end Conformance.Yaml

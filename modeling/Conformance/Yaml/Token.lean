import Conformance.Source.Basic

/-!
# The tokens of a YAML text

Tokens are what a text consists of after its indentation has been turned into brackets: a block
sequence or mapping is opened by a token of its own where its first item or key stands, and closed
by a token that all of them share.
-/

namespace Conformance.Yaml

/-- A token. -/
inductive Token where
  /-- The end of the text. -/
  | streamEnd
  /-- The version of the language a document is written in. -/
  | version (major minor : Nat)
  /-- An abbreviation for the beginning of tags. -/
  | tagHandle (handle uri : String)
  /-- The marker of the start of a document. -/
  | documentStart
  /-- The marker of the end of a document. -/
  | documentEnd
  /-- The start of a sequence by indentation. -/
  | blockSequence
  /-- The start of a mapping by indentation. -/
  | blockMapping
  /-- The end of a sequence or a mapping by indentation. -/
  | blockEnd
  /-- An opening bracket. -/
  | openBracket
  /-- A closing bracket. -/
  | closeBracket
  /-- An opening brace. -/
  | openBrace
  /-- A closing brace. -/
  | closeBrace
  /-- The hyphen in front of an item. -/
  | item
  /-- A comma. -/
  | comma
  /-- The start of a key. -/
  | key
  /-- The colon in front of a value. -/
  | value
  /-- A reference to an anchored node. -/
  | alias (name : String)
  /-- The anchor of the node that follows. -/
  | anchor (name : String)
  /-- The tag of the node that follows: its handle and the rest of it. -/
  | tag (handle suffix : String)
  /-- A scalar. -/
  | scalar (text : String) (style : ScalarStyle)
deriving DecidableEq, Repr

end Conformance.Yaml

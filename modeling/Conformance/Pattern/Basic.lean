import Conformance.Pattern.Reading

/-!
# Patterns

A pattern is a regular expression that a whole text has to match. The text of the pattern is put
between `^(?:` and `)$`, and the result is searched for. So the text alone need not be balanced: it
is the whole that has to be.

* `Conformance.Pattern` – a pattern that compiles;
* `Conformance.Pattern.compile?` – the pattern of a text;
* `Conformance.Pattern.isMatch` – whether a text matches.
-/

namespace Conformance

/-- A text between the anchors of both ends. -/
def Pattern.anchor (source : String) : String := "^(?:" ++ source ++ ")$"

/-- A pattern, with the expression that is searched for. -/
structure Pattern where
  /-- The text of the pattern. -/
  source : String
  /-- The expression of the anchored text. -/
  regex : Regex RegexLeaf
  /-- It is what the anchored text compiles to. -/
  compiles : Regex.ofPattern? (Pattern.anchor source).toList = some regex

namespace Pattern

/-- The text of a pattern between the anchors of both ends. -/
def anchored (p : Pattern) : String := anchor p.source

/-- The pattern of a text, if it compiles between its anchors. -/
def compile? (source : String) : Option Pattern :=
  match h : Regex.ofPattern? (anchor source).toList with
  | none => none
  | some regex => some ⟨source, regex, h⟩

/-- A pattern that compiles is the pattern of its own text. -/
theorem source_of_compile? {source : String} {p : Pattern} (h : compile? source = some p) :
    p.source = source := by
  unfold compile? at h
  split at h
  · exact absurd h (by simp)
  · cases h
    rfl

/-- The text of a pattern compiles to it. -/
theorem compile?_source (p : Pattern) : compile? p.source = some p := by
  unfold compile?
  split
  · rename_i h
    exact absurd (h.symm.trans p.compiles) (by simp)
  · rename_i regex h
    obtain rfl : p.regex = regex := Option.some.inj (p.compiles.symm.trans h)
    rfl

/-- Whether two patterns have the same text. -/
def same (p q : Pattern) : Bool := p.source == q.source

/-- Whether a text matches. -/
def isMatch (p : Pattern) (text : String) : Bool := p.regex.occursIn text.toList

end Pattern

end Conformance

import Conformance.Yaml.Node

/-!
# Reading YAML text

A text is read into a `Conformance.Source` of its first document, which breaks off at the first
fault. Behind the first document there must not be another one. A text with no document at all has
no content, which is not the same as a document with an empty scalar.

* `Conformance.Yaml.readText` – the tree of a whole text.
-/

namespace Conformance.Yaml

/-- How many references may be followed for each event of a document. -/
def jumpsPerEvent : Nat := 100

/-- The tree of a text whose characters are all permitted. -/
def readEvents (events : List Event) : SourceText :=
  let first := events.takeWhile fun e => e != .documentEnd && e != .streamEnd
  let behind := events.dropWhile fun e => e != .documentEnd && e != .streamEnd
  if first.isEmpty && behind == [.streamEnd] then ⟨.yaml, .nothing, none, [], jumpsPerEvent⟩
  else
    let (r, _) := readNodes first
    let alone := behind == [.documentEnd, .streamEnd]
    ⟨.yaml, r.root.getD .broken, if alone then none else some .syntaxFault, r.anchored,
      r.count * jumpsPerEvent⟩

/-- The tree of a text. -/
def readText (text : String) : SourceText :=
  let cs := text.toList
  if cs.all isPermitted then readEvents (events (tokens cs))
  else ⟨.yaml, .broken, none, [], 0⟩

end Conformance.Yaml

import Conformance.Text.Space
import Conformance.TypeExpr.Basic

/-!
# Reading type expressions

A type expression may be written with white space around each of its parts, and an array also as
`T[]`. A text in brackets is an array or nothing, whatever else it ends in.

* `Conformance.TypeExpr.parse` – the reader;
* `Conformance.TypeExpr.isTypeName` – the form of a name.
-/

namespace Conformance.TypeExpr

/-- Whether a character is an ASCII letter. -/
def isLetter (c : Char) : Bool := c.isAlpha

/-- Whether a character may stand in a name after the first one. -/
def isNameChar (c : Char) : Bool := c.isAlphanum || c == '_' || c == '.' || c == '-'

/-- Whether a text is a name: an ASCII letter or an underscore, then ASCII letters, digits,
underscores, points and hyphens. -/
def isTypeName : List Char → Bool
  | [] => false
  | c :: rest => (isLetter c || c == '_') && rest.all isNameChar

/-- The text between an opening bracket at the start and a closing one at the end. -/
def bracketed? : List Char → Option (List Char)
  | '[' :: rest => if rest.getLast? == some ']' then some rest.dropLast else none
  | _ => none

/-- The text in front of a final `[]`. -/
def suffixed? (cs : List Char) : Option (List Char) :=
  match cs.reverse with
  | ']' :: '[' :: rest => some rest.reverse
  | _ => none

/-- A keyword or a name. -/
def leaf? (cs : List Char) : Option TypeExpr :=
  match ScalarKind.ofKeyword? (String.ofList cs) with
  | some kind => some (.scalar kind)
  | none => if isTypeName cs then some (.named (String.ofList cs)) else none

theorem length_bracketed?_lt {cs inner : List Char} (h : bracketed? cs = some inner) :
    inner.length < cs.length := by
  unfold bracketed? at h
  split at h
  · rename_i rest
    split at h
    · cases h
      simp only [List.length_dropLast, List.length_cons]
      omega
    · cases h
  · cases h

theorem length_suffixed?_lt {cs inner : List Char} (h : suffixed? cs = some inner) :
    inner.length < cs.length := by
  unfold suffixed? at h
  split at h
  · rename_i rest hr
    cases h
    have := congrArg List.length hr
    simp only [List.length_reverse, List.length_cons] at this ⊢
    omega
  · cases h

/-- A text is not a type expression. -/
structure SpellingError where
  /-- The whole text. -/
  text : String
deriving DecidableEq, Repr

/-- The wording of an error. -/
def SpellingError.message (e : SpellingError) : String :=
  "invalid type expression '" ++ e.text ++ "'"

/-- The array of what part of a text spells. If the part spells nothing, it is the whole text that
is wrong. -/
def arrayWithin (cs : List Char) :
    Except SpellingError TypeExpr → Except SpellingError TypeExpr
  | .ok element => .ok (.array element)
  | .error _ => .error ⟨String.ofList cs⟩

/-- The type expression a text spells. -/
def ofChars (cs : List Char) : Except SpellingError TypeExpr :=
  match _hb : bracketed? (Text.trim cs) with
  | some inner => arrayWithin cs (ofChars inner)
  | none =>
    match _hs : suffixed? (Text.trim cs) with
    | some inner => arrayWithin cs (ofChars inner)
    | none =>
      match leaf? (Text.trim cs) with
      | some e => .ok e
      | none => .error ⟨String.ofList cs⟩
termination_by cs.length
decreasing_by
  · exact Nat.lt_of_lt_of_le (length_bracketed?_lt _hb) (Text.length_trim_le cs)
  · exact Nat.lt_of_lt_of_le (length_suffixed?_lt _hs) (Text.length_trim_le cs)

/-- Reads the type expression that a text spells. -/
def parse (text : String) : Except SpellingError TypeExpr := ofChars text.toList

/-- The type expression a text spells, if it spells one. -/
def parse? (text : String) : Option TypeExpr := (parse text).toOption

end Conformance.TypeExpr

import Conformance.Pattern.CharClass

/-!
# Regular expressions and the positions they lead to

A regular expression is run on a text by following **sets of positions**: an expression leads from a
set of positions to the set of all positions at which a match may end that starts at one of them. A
set of positions is the number whose binary digits say which positions are in it. Nothing is ever
tried twice, and no order of attempts has to be fixed, for only the existence of a match is asked
for.

* `Conformance.Regex` – the expressions, over any leaves;
* `Conformance.Regex.image` – the positions an expression leads to;
* `Conformance.RegexLeaf` – the leaves of patterns: characters, and conditions on a position;
* `Conformance.Regex.occursIn` – whether a text contains a match.
-/

namespace Conformance

/-- A regular expression. -/
inductive Regex (α : Type) where
  /-- The empty text. -/
  | empty
  /-- A leaf. -/
  | leaf (a : α)
  /-- One expression, then another. -/
  | cat (a b : Regex α)
  /-- One expression or another. -/
  | alt (a b : Regex α)
  /-- An expression a number of times, from a least number on, up to a greatest one if there is
  one. -/
  | times (a : Regex α) (least : Nat) (most : Option Nat)
deriving Repr

namespace Regex

variable {α β : Type}

/-- The expression with every leaf replaced. -/
def map (f : α → β) : Regex α → Regex β
  | empty => empty
  | leaf a => leaf (f a)
  | cat a b => cat (a.map f) (b.map f)
  | alt a b => alt (a.map f) (b.map f)
  | times a least most => times (a.map f) least most

/-- One expression after the other. -/
def catAll : List (Regex α) → Regex α
  | [] => empty
  | [a] => a
  | a :: rest => cat a (catAll rest)

/-- One of the expressions. -/
def altAll : List (Regex α) → Regex α
  | [] => empty
  | [a] => a
  | a :: rest => alt a (altAll rest)

/-! ### Sets of positions -/

/-- The set after exactly so many steps. A set that a step maps to itself stays as it is. -/
def exactly (step : Nat → Nat) : Nat → Nat → Nat
  | 0, s => s
  | k + 1, s =>
    let t := step s
    if t = s then s else exactly step k t

/-- The set after at most so many steps. A set that a step does not enlarge stays as it is. -/
def atMost (step : Nat → Nat) : Nat → Nat → Nat
  | 0, s => s
  | k + 1, s =>
    let t := s ||| step s
    if t = s then s else atMost step k t

/-- The positions an expression leads to from a set of positions, given where its leaves lead and
the number of positions there are. More repetitions than there are positions lead to no position
that fewer do not lead to. -/
def image (leafImage : α → Nat → Nat) (positions : Nat) : Regex α → Nat → Nat
  | empty, s => s
  | leaf a, s => leafImage a s
  | cat a b, s => image leafImage positions b (image leafImage positions a s)
  | alt a b, s => image leafImage positions a s ||| image leafImage positions b s
  | times a least most, s =>
    let step := image leafImage positions a
    let further := match most with
      | some m => m - least
      | none => positions
    atMost step further (exactly step least s)

end Regex

/-! ### Leaves -/

/-- A condition on the characters beside a position, as to whether they can stand in a word. -/
inductive WordEdge where
  /-- Exactly one of them can. -/
  | boundary
  /-- Both can, or neither. -/
  | noBoundary
  /-- Only the next one can. -/
  | start
  /-- Only the one before can. -/
  | stop
  /-- The one before cannot. -/
  | startHalf
  /-- The next one cannot. -/
  | stopHalf
deriving DecidableEq, Repr

/-- A condition on a position. -/
inductive Look where
  /-- The text starts here. -/
  | textStart
  /-- The text ends here. -/
  | textEnd
  /-- A line starts here; carriage returns may count for the ends of lines. -/
  | lineStart (returns : Bool)
  /-- A line ends here; carriage returns may count for the ends of lines. -/
  | lineEnd (returns : Bool)
  /-- A word has an edge of some sort here; words consist of characters of all scripts or of ASCII
  characters. -/
  | word (edge : WordEdge) (unicode : Bool)
deriving DecidableEq, Repr

/-- A leaf of a pattern. -/
inductive RegexLeaf where
  /-- A character of a set. -/
  | char (set : CharClass)
  /-- A position that meets a condition. -/
  | look (condition : Look)
deriving Repr

namespace WordEdge

/-- Whether the condition is met, given which of the two characters can stand in a word. -/
def holds : WordEdge → Bool → Bool → Bool
  | boundary, before, next => before != next
  | noBoundary, before, next => before == next
  | start, before, next => !before && next
  | stop, before, next => before && !next
  | startHalf, before, _ => !before
  | stopHalf, _, next => !next

end WordEdge

namespace Look

/-- Whether the condition is met between two characters; one that is missing is beyond an end of the
text. -/
def holds (look : Look) (before next : Option Char) : Bool :=
  match look with
  | textStart => before.isNone
  | textEnd => next.isNone
  | lineStart false => before.isNone || before == some '\n'
  | lineStart true =>
    before.isNone || before == some '\n' || (before == some '\r' && next != some '\n')
  | lineEnd false => next.isNone || next == some '\n'
  | lineEnd true =>
    next.isNone || next == some '\r' || (next == some '\n' && before != some '\r')
  | word edge unicode =>
    let inWord := fun c => c.any (CharClass.word unicode).contains
    edge.holds (inWord before) (inWord next)

end Look

/-! ### Running an expression on a text -/

/-- Where a leaf may be passed in some text, and whether passing it takes a character. -/
structure Passage where
  /-- The set of positions at which the leaf may be passed. -/
  places : Nat
  /-- Whether passing it leads to the next position. -/
  advances : Bool
deriving Repr

namespace Passage

/-- The positions to which the passage leads. -/
def image (p : Passage) (s : Nat) : Nat :=
  if p.advances then (s &&& p.places) <<< 1 else s &&& p.places

end Passage

/-- The set of positions at which something holds of the characters before and behind, from the
first of these positions on. -/
def positionsWhere (holds : Option Char → Option Char → Bool) (before : Option Char) :
    List Char → Nat
  | [] => if holds before none then 1 else 0
  | c :: rest =>
    2 * positionsWhere holds (some c) rest + if holds before (some c) then 1 else 0

/-- Where a leaf may be passed in a text. -/
def RegexLeaf.passage (text : List Char) : RegexLeaf → Passage
  | char set => ⟨positionsWhere (fun _ next => next.any set.contains) none text, true⟩
  | look condition => ⟨positionsWhere condition.holds none text, false⟩

/-- Whether a text contains a match of an expression, at any place. -/
def Regex.occursIn (r : Regex RegexLeaf) (text : List Char) : Bool :=
  let positions := text.length + 1
  (r.map (·.passage text)).image Passage.image positions (Nat.shiftLeft 1 positions - 1) != 0

end Conformance

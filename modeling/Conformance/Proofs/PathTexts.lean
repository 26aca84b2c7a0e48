import Mathlib.Data.List.Basic
import Conformance.Location

/-!
# Paths are read back

A path is written without escapes, and the first step is written differently from the others: a
field at the root has no point in front. So there are places with one path, such as a field `a.b`
and a field `b` in a field `a`. What rules them out is that no name is empty or holds a point or an
opening bracket (`Conformance.Location.Plain`). Then every such character starts a step and nothing
else does, a first step can be told by whether it starts with a bracket, and a path is cut in front
of each of them. A closing bracket in a name does no harm, and neither do digits.

* `Conformance.Location.ofPath?` – the place of a path;
* `Conformance.Location.ofPath?_path` – a path is read back;
* `Conformance.Location.eq_of_path_eq` – no two places have one path.
-/

namespace Conformance

namespace Segment

/-- Whether a character starts a step of a path. -/
def isMark (c : Char) : Bool := c == '.' || c == '['

/-- **A plain name**: it is not empty, and no character of it starts a step. -/
def PlainName (name : String) : Prop := name ≠ "" ∧ '.' ∉ name.toList ∧ '[' ∉ name.toList

instance {name : String} : Decidable (PlainName name) :=
  inferInstanceAs (Decidable (name ≠ "" ∧ '.' ∉ name.toList ∧ '[' ∉ name.toList))

/-- A step into a field with a plain name, or into an element. -/
def Plain : Segment → Prop
  | .field name => PlainName name
  | .index _ => True

/-- A step as it is written behind others. -/
def marked : Segment → List Char
  | .field name => '.' :: name.toList
  | .index i => '[' :: (Nat.toDigits 10 i ++ [']'])

/-- The step that is written so. -/
def ofMarked? : List Char → Option Segment
  | '.' :: name => some (.field (String.ofList name))
  | '[' :: rest =>
    if rest.getLast? = some ']' ∧ rest.dropLast.all Char.isDigit then
      some (.index (Nat.ofDigitChars 10 rest.dropLast 0))
    else none
  | _ => none

variable {s : Segment} {name parent : String}

/-- **A step is read back** as it is written behind others. -/
theorem ofMarked?_marked : ofMarked? s.marked = some s := by
  cases s with
  | field name => rw [marked, ofMarked?, String.ofList_toList]
  | index i =>
    have hdigits : (Nat.toDigits 10 i).all Char.isDigit = true :=
      List.all_eq_true.mpr fun c hc => Nat.isDigit_of_mem_toDigits (by decide) (by decide) hc
    rw [marked, ofMarked?, List.getLast?_concat, List.dropLast_concat, if_pos ⟨rfl, hdigits⟩,
      Nat.ofDigitChars_toDigits (by decide) (by decide)]

/-- An index is always written with its brackets. -/
theorem toList_extend_index {i : Nat} :
    (extend parent (.index i)).toList = parent.toList ++ (index i).marked := by
  simp [extend, marked, Number.natText]

/-- Behind another step, a step is written with its mark. -/
theorem toList_extend (h : parent ≠ "") : (s.extend parent).toList = parent.toList ++ s.marked := by
  cases s with
  | field name =>
    have hparent : parent.isEmpty = false := by simpa using h
    rw [extend, hparent, if_neg (by simp), String.toList_append, String.toList_append,
      List.append_assoc]
    rfl
  | index i => exact toList_extend_index

/-- A step is marked, and behind its mark there is no other if it is plain. -/
theorem exists_marked (h : s.Plain) : ∃ c rest, s.marked = c :: rest ∧ isMark c = true ∧
    ∀ c ∈ rest, isMark c = false := by
  cases s with
  | field name =>
    obtain ⟨-, hpoint, hbracket⟩ := h
    refine ⟨'.', name.toList, rfl, rfl, fun c hc => ?_⟩
    have hne : c ≠ '.' ∧ c ≠ '[' :=
      ⟨ne_of_mem_of_not_mem hc hpoint, ne_of_mem_of_not_mem hc hbracket⟩
    simpa [isMark] using hne
  | index i =>
    refine ⟨'[', Nat.toDigits 10 i ++ [']'], rfl, rfl, fun c hc => ?_⟩
    rcases List.mem_append.mp hc with hc | hc
    · have hdigit : c.isDigit = true := Nat.isDigit_of_mem_toDigits (by decide) (by decide) hc
      have hne : c ≠ '.' ∧ c ≠ '[' := by
        constructor <;> (rintro rfl; exact absurd hdigit (by decide))
      simpa [isMark] using hne
    · rw [List.mem_singleton.mp hc]
      rfl

end Segment

namespace Location

open Segment

/-- **A plain place**: all names on the way are plain. -/
def Plain (l : Location) : Prop := ∀ s ∈ l, s.Plain

/-- Cuts a text in front of every character that starts a step: what stands in front of the first
one, and the pieces from there on. -/
def cut : List Char → List Char × List (List Char)
  | [] => ([], [])
  | c :: rest =>
    if isMark c then ([], (c :: (cut rest).1) :: (cut rest).2)
    else (c :: (cut rest).1, (cut rest).2)

/-- A path with the point that is left out at the root. -/
def withPoint : List Char → List Char
  | [] => []
  | c :: rest => if c == '[' then c :: rest else '.' :: c :: rest

/-- **The place of a path**, if every piece of it is a step. -/
def ofPath? (path : String) : Option Location :=
  (cut (withPoint path.toList)).2.mapM ofMarked?

variable {l l' : Location} {s : Segment} {cs rest : List Char} {pieces : List (List Char)}

/-- What holds no mark is not cut. -/
theorem cut_append (h : ∀ c ∈ cs, isMark c = false) :
    cut (cs ++ rest) = (cs ++ (cut rest).1, (cut rest).2) := by
  induction cs with
  | nil => rfl
  | cons c cs ih =>
    obtain ⟨hc, hcs⟩ := List.forall_mem_cons.mp h
    rw [List.cons_append, cut, if_neg (by simp [hc]), ih hcs]
    rfl

/-- A plain step is one piece. -/
theorem cut_marked (h : s.Plain) (hrest : cut rest = ([], pieces)) :
    cut (s.marked ++ rest) = ([], s.marked :: pieces) := by
  obtain ⟨c, cs, hmarked, hc, hcs⟩ := exists_marked h
  rw [hmarked, List.cons_append, cut, if_pos hc, cut_append hcs, hrest, List.append_nil]

theorem cut_flatMap_marked (h : l.Plain) : cut (l.flatMap marked) = ([], l.map marked) := by
  induction l with
  | nil => rfl
  | cons s rest ih =>
    obtain ⟨hs, hrest⟩ := List.forall_mem_cons.mp h
    rw [List.flatMap_cons, List.map_cons, cut_marked hs (ih hrest)]

/-- Behind a path that is not empty, all steps are written with their marks. -/
theorem toList_foldl_extend {parent : String} (h : parent ≠ "") :
    (l.foldl Segment.extend parent).toList = parent.toList ++ l.flatMap marked := by
  induction l generalizing parent with
  | nil => simp
  | cons s rest ih =>
    have hnext : s.extend parent ≠ "" := by
      intro heq
      have hchars := (toList_extend (s := s) h).symm.trans (congrArg String.toList heq)
      exact h (String.toList_eq_nil_iff.mp (List.append_eq_nil_iff.mp hchars).1)
    rw [List.foldl_cons, ih hnext, toList_extend h, List.append_assoc, List.flatMap_cons]

/-- **A path is its steps with their marks**, but for the point at the root. -/
theorem withPoint_path (h : l.Plain) : withPoint l.path.toList = l.flatMap marked := by
  cases l with
  | nil => rfl
  | cons s rest =>
    obtain ⟨hs, -⟩ := List.forall_mem_cons.mp h
    rw [path, List.foldl_cons, List.flatMap_cons]
    cases s with
    | field name =>
      -- the point is put back, since the name does not start with a bracket
      obtain ⟨hne, -, hbracket⟩ := hs
      have hstart : Segment.extend "" (.field name) = name := rfl
      rw [hstart, toList_foldl_extend hne, marked]
      cases hname : name.toList with
      | nil => exact absurd (String.toList_eq_nil_iff.mp hname) hne
      | cons c cs =>
        have hc : c ≠ '[' := by
          rintro rfl
          exact hbracket (hname ▸ List.mem_cons_self)
        rw [List.cons_append, withPoint, if_neg (by simpa using hc)]
        rfl
    | index i =>
      have hstart : (Segment.extend "" (.index i)).toList = (Segment.index i).marked :=
        toList_extend_index
      have hne : Segment.extend "" (.index i) ≠ "" := by
        intro heq
        rw [heq] at hstart
        exact absurd hstart (by simp [marked])
      rw [toList_foldl_extend hne, hstart, marked, List.cons_append, withPoint]
      rfl

/-- **A path is read back** if the place is plain. -/
theorem ofPath?_path (h : l.Plain) : ofPath? l.path = some l := by
  have hpieces : (l.map marked).mapM ofMarked? = some l := by
    clear h
    induction l with
    | nil => rfl
    | cons s rest ih =>
      rw [List.map_cons, List.mapM_cons, ofMarked?_marked, ih]
      rfl
  rw [ofPath?, withPoint_path h, cut_flatMap_marked h, hpieces]

/-- **No two plain places have one path.** -/
theorem eq_of_path_eq (h : l.Plain) (h' : l'.Plain) (heq : l.path = l'.path) : l = l' := by
  have hread := ofPath?_path h
  rw [heq, ofPath?_path h'] at hread
  exact (Option.some.inj hread).symm

/-- With a point in a name, two places have one path. -/
example : path [.field "a.b"] = path [.field "a", .field "b"] := by decide

end Location

end Conformance

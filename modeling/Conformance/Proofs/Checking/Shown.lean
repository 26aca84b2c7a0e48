import Mathlib.Data.List.Forall2
import Mathlib.Data.List.Induction
import Conformance.Proofs.Documents
import Conformance.Schema.Validation

/-!
# How a finding is shown

A check finds departures at places and returns violations. What a violation shows of a finding is
said here without the functions that write it: a path that follows the steps of the place
(`Conformance.Location.HasPath`), the kind that belongs to the departure, and as payload the value
itself, the count of the elements or the names of the fields (`Conformance.Finding.ShownBy`). Every
finding is shown by just one violation, which is the one that it is turned into; so what is proved
of findings is proved of what a check returns.

* `Conformance.Location.hasPath_iff` – every place has one path;
* `Conformance.Finding.shownBy_iff` – every finding is shown by one violation;
* `Conformance.Schema.forall₂_shownBy` – a check returns what it finds, in the same order.
-/

namespace Conformance

/-! ### Paths -/

/-- **The path of a place**, written step by step from the root. -/
inductive Location.HasPath : Location → String → Prop where
  /-- The path of the root is empty. -/
  | root : HasPath [] ""
  /-- Behind an empty path, a field is its name. -/
  | name {l : Location} {name : String} (above : HasPath l "") : HasPath (l ++ [.field name]) name
  /-- Behind any other path, a field is a point and its name. -/
  | point {l : Location} {path name : String} (above : HasPath l path) (ne : path ≠ "") :
    HasPath (l ++ [.field name]) (path ++ "." ++ name)
  /-- An element is its index in brackets. -/
  | index {l : Location} {path : String} {i : Nat} (above : HasPath l path) :
    HasPath (l ++ [.index i]) (path ++ "[" ++ toString i ++ "]")

namespace Location

variable {l : Location} {path : String}

theorem path_concat {s : Segment} : Location.path (l ++ [s]) = s.extend l.path := by
  rw [Location.path, List.foldl_append]
  rfl

theorem hasPath_path (l : Location) : l.HasPath l.path := by
  induction l using List.reverseRecOn with
  | nil => exact .root
  | append_singleton l s ih =>
    rw [path_concat]
    cases s with
    | field name =>
      rw [Segment.extend]
      split
      · next hempty =>
        rw [String.isEmpty_iff.mp hempty] at ih
        exact .name ih
      · next hne => exact .point ih fun heq => hne (by rw [heq]; rfl)
    | index i => exact .index ih

/-- **Every place has one path.** -/
theorem hasPath_iff : l.HasPath path ↔ path = l.path := by
  constructor
  · intro h
    induction h with
    | root => rfl
    | name _ ih => rw [path_concat, ← ih]; rfl
    | point _ hne ih =>
      rw [path_concat, ← ih, Segment.extend, if_neg (mt String.isEmpty_iff.mp hne)]
    | index _ ih => rw [path_concat, ← ih]; rfl
  · rintro rfl
    exact hasPath_path l

end Location

/-! ### Violations -/

/-- **A document is a count**: it is that integer. No count exceeds a word in practice; one that
does is shown as a double. -/
inductive Document.IsCount : Document → Nat → Prop where
  /-- The integer of a word. -/
  | word {i : WordInt} {count : Nat} (h : i.val = count) : IsCount (.number (.integer i)) count
  /-- A double, for what does not fit a word. -/
  | beyond {count : Nat} (h : WordInt.max < count) : IsCount (.number (.ofNat count)) count

theorem Document.isCount_iff {d : Document} {count : Nat} :
    d.IsCount count ↔ d = .ofCount count := by
  constructor
  · intro h
    cases h with
    | @word i _ h =>
      obtain ⟨val, hmin, hmax⟩ := i
      obtain rfl : val = count := h
      rw [Document.ofCount, Number.ofNat_of_le hmax]
    | beyond => rfl
  · rintro rfl
    by_cases h : (count : Int) ≤ WordInt.max
    · rw [Document.ofCount, Number.ofNat_of_le h]
      exact .word rfl
    · exact .beyond (Int.lt_of_not_ge h)

/-- **The violation that shows a finding**: it has the path of the place, the kind of the departure,
and what the departure is about. -/
inductive Finding.ShownBy : Finding → Violation → Prop where
  /-- Required fields are missing: their names. -/
  | missing {l : Location} {path : String} {names : List String} (place : l.HasPath path) :
    ShownBy ⟨l, .missing names⟩ ⟨path, .required, .fields names⟩
  /-- A value does not match its pattern: the value. -/
  | patternFailure {l : Location} {path : String} {d : Document} (place : l.HasPath path) :
    ShownBy ⟨l, .patternFailure d⟩ ⟨path, .pattern, .value d⟩
  /-- An array has too few elements: their number. -/
  | tooShort {l : Location} {path : String} {count : Nat} {d : Document} (place : l.HasPath path)
    (h : d.IsCount count) : ShownBy ⟨l, .tooShort count⟩ ⟨path, .minLength, .value d⟩
  /-- A value has the wrong kind: the value. -/
  | wrongKind {l : Location} {path : String} {d : Document} (place : l.HasPath path) :
    ShownBy ⟨l, .wrongKind d⟩ ⟨path, .typeMismatch, .value d⟩

/-- **Every finding is shown by one violation**, which is the one that it is turned into. -/
theorem Finding.shownBy_iff {x : Finding} {v : Violation} : x.ShownBy v ↔ v = x.toViolation := by
  constructor
  · intro h
    cases h with
    | tooShort place h =>
      obtain rfl := Location.hasPath_iff.mp place
      obtain rfl := Document.isCount_iff.mp h
      rfl
    | _ place =>
      obtain rfl := Location.hasPath_iff.mp place
      rfl
  · rintro rfl
    obtain ⟨l, departure⟩ := x
    have place := l.hasPath_path
    cases departure with
    | missing names => exact .missing place
    | patternFailure d => exact .patternFailure place
    | tooShort count => exact .tooShort place (Document.isCount_iff.mpr rfl)
    | wrongKind d => exact .wrongKind place

namespace Schema

variable {s : Schema} {d : Document} {v : Violation}

/-- **A check returns what it finds**, in the same order. -/
theorem forall₂_shownBy : List.Forall₂ Finding.ShownBy (s.findings d) (s.validate d) := by
  rw [validate, List.forall₂_map_right_iff, List.forall₂_same]
  exact fun x _ => Finding.shownBy_iff.mpr rfl

/-- What a check returns shows something that it finds, and whatever shows this is returned. -/
theorem mem_validate_iff : v ∈ s.validate d ↔ ∃ x ∈ s.findings d, x.ShownBy v := by
  simp only [validate, List.mem_map, Finding.shownBy_iff, eq_comm]

/-- Whatever a check finds is shown by something that it returns. -/
theorem exists_shownBy {x : Finding} (hx : x ∈ s.findings d) : ∃ v ∈ s.validate d, x.ShownBy v :=
  ⟨x.toViolation, List.mem_map_of_mem hx, Finding.shownBy_iff.mpr rfl⟩

end Schema

end Conformance

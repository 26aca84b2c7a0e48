import Mathlib.Algebra.GroupWithZero.Nat
import Mathlib.Data.List.Basic
import Conformance.Document.Basic

/-!
# Documents from the inside

Everything about a whole document is proved from what holds of its children
(`Conformance.Document.Child`): the elements of an array and the values of an object. What stands in
an object under a key that an earlier member has already is no child, since no key leads to it.

* `Conformance.Document.induction_children` – induction on documents;
* `Conformance.Document.nodeCount` – the number of nodes of a document.
-/

namespace Conformance

namespace Document

/-- **A child of a document**: an element of an array, or the value under a key of an object. -/
inductive Child : Document → Document → Prop where
  /-- An element. -/
  | item {items : List Document} {d : Document} (h : d ∈ items) : Child d (.array items)
  /-- A value. -/
  | value {members : List (String × Document)} {key : String} {d : Document}
    (h : Keyed.find? key members = some d) : Child d (.object members)

variable {c d : Document}

theorem Child.sizeOf_lt (h : c.Child d) : sizeOf c < sizeOf d := by
  cases h with
  | item h =>
    have := List.sizeOf_lt_of_mem h
    rw [array.sizeOf_spec]
    omega
  | value h =>
    have := Keyed.sizeOf_find?_lt h
    rw [object.sizeOf_spec]
    omega

/-- **Induction on documents**: a property holds of every document if it holds of each whose
children have it. -/
@[elab_as_elim]
theorem induction_children {motive : Document → Prop}
    (step : ∀ d, (∀ c, c.Child d → motive c) → motive d) (d : Document) : motive d :=
  step d fun c _h => induction_children step c
termination_by sizeOf d
decreasing_by exact _h.sizeOf_lt

mutual

/-- **The number of nodes** of a document: the document itself, and those of what it holds. -/
def nodeCount : Document → Nat
  | .array items => 1 + itemsNodeCount items
  | .object members => 1 + membersNodeCount members
  | _ => 1

/-- The number of nodes of the items of an array. -/
def itemsNodeCount : List Document → Nat
  | [] => 0
  | d :: rest => nodeCount d + itemsNodeCount rest

/-- The number of nodes of the members of an object. -/
def membersNodeCount : List (String × Document) → Nat
  | [] => 0
  | (_, d) :: rest => nodeCount d + membersNodeCount rest

end

theorem one_le_nodeCount : 1 ≤ d.nodeCount := by
  cases d with
  | array items => exact Nat.le_add_right 1 _
  | object members => exact Nat.le_add_right 1 _
  | _ => exact Nat.le_refl 1

theorem nodeCount_array {items : List Document} :
    nodeCount (.array items) = 1 + (items.map nodeCount).sum := by
  have hitems : itemsNodeCount items = (items.map nodeCount).sum := by
    induction items with
    | nil => rfl
    | cons d rest ih => rw [itemsNodeCount, ih, List.map_cons, List.sum_cons]
  rw [nodeCount, hitems]

theorem nodeCount_object {members : List (String × Document)} :
    nodeCount (.object members) = 1 + (members.map fun e => nodeCount e.2).sum := by
  have hmembers : membersNodeCount members = (members.map fun e => nodeCount e.2).sum := by
    induction members with
    | nil => rfl
    | cons e rest ih => rw [membersNodeCount, ih, List.map_cons, List.sum_cons]
  rw [nodeCount, hmembers]

theorem isNull_eq_false (d : Document) (h : d ≠ .null) : d.isNull = false := by
  cases d with
  | null => exact absurd rfl h
  | _ => rfl

/-- A document is an object or it is none. -/
theorem eq_object_or (d : Document) :
    (∃ members, d = .object members) ∨ ∀ members, d ≠ .object members := by
  by_cases h : ∃ members, d = .object members
  · exact Or.inl h
  · exact Or.inr fun members heq => h ⟨members, heq⟩

/-- A document is an array or it is none. -/
theorem eq_array_or (d : Document) :
    (∃ items, d = .array items) ∨ ∀ items, d ≠ .array items := by
  by_cases h : ∃ items, d = .array items
  · exact Or.inl h
  · exact Or.inr fun items heq => h ⟨items, heq⟩

end Document

/-! ### Counts -/

/-- A natural number of one word is an integer. -/
theorem Number.ofNat_of_le {n : Nat} (h : (n : Int) ≤ WordInt.max) :
    Number.ofNat n = .integer ⟨n, Int.le_trans (by decide) (Int.natCast_nonneg n), h⟩ := by
  have hrange : WordInt.min ≤ n ∧ n ≤ WordInt.max :=
    ⟨Int.le_trans (by decide) (Int.natCast_nonneg n), h⟩
  simp only [Number.ofNat, WordInt.ofInt?, dif_pos hrange]

end Conformance

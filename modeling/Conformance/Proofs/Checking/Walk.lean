import Mathlib.Data.List.Basic
import Conformance.Proofs.Documents
import Conformance.Schema.Validation

/-!
# One step of the walk

What is found in a document for one node of a table, in terms of what is found in the values below
it. These are the equations of the walk by kind of node and kind of document; everything else about
findings is proved from them.

* `Conformance.SchemaSet.findings_object` – the fields of an object, then the object itself;
* `Conformance.SchemaSet.findings_array` – an array itself, then its elements;
* `Conformance.SchemaSet.findings_scalar` – a scalar;
* `Conformance.SchemaSet.findings_object_of_ne`, `Conformance.SchemaSet.findings_array_of_ne` – a
  document of the wrong kind;
* `Conformance.SchemaSet.elementFindings_eq_flatMap` – the elements in turn;
* `Conformance.SchemaSet.findings_append` – where a document stands does not matter: its findings
  are those at the root, moved below its place.
-/

namespace Conformance

/-- A finding in a document that stands at a place of another. -/
def Finding.under (l : Location) (x : Finding) : Finding := ⟨l ++ x.location, x.departure⟩

namespace SchemaSet

variable {set : SchemaSet} {id : NodeId} {l : Location} {d : Document}

/-- What is found in a field, given what its key holds. -/
def valueFindings (set : SchemaSet) (f : FieldSchema) (l : Location) :
    Option Document → List Finding
  | none => []
  | some .null => if f.nullable then [] else [⟨l ++ [.field f.name], .wrongKind .null⟩]
  | some value => set.findings f.schema (l ++ [.field f.name]) value

@[simp] theorem valueFindings_none {f : FieldSchema} : set.valueFindings f l none = [] := rfl

@[simp] theorem valueFindings_null {f : FieldSchema} :
    set.valueFindings f l (some .null) =
      if f.nullable then [] else [⟨l ++ [.field f.name], .wrongKind .null⟩] := rfl

theorem valueFindings_of_ne {f : FieldSchema} (h : d ≠ .null) :
    set.valueFindings f l (some d) = set.findings f.schema (l ++ [.field f.name]) d := by
  cases d with
  | null => exact absurd rfl h
  | _ => rfl

/-- What is found in an element of an array. -/
def itemFindings (set : SchemaSet) (a : ArraySchema) (l : Location) (i : Nat) (d : Document) :
    List Finding :=
  if d.isNull && a.nullableElements then [] else set.findings a.element (l ++ [.index i]) d

theorem findings_of_none (h : set.node? id = none) : set.findings id l d = [] := by
  rw [findings.eq_def, h]

theorem findings_scalar {s : ScalarSchema} (h : set.node? id = some (.scalar s)) :
    set.findings id l d = s.findings l d := by
  rw [findings.eq_def, h]

/-- **The findings of an object**: those of its fields in the order of their declaration, then its
own. -/
theorem findings_object {o : ObjectSchema} {members : List (String × Document)}
    (h : set.node? id = some (.object o)) :
    set.findings id l (.object members) =
      (o.fields.flatMap fun f => set.valueFindings f l (Keyed.find? f.name members)) ++
        o.ownFindings l members := by
  rw [findings.eq_def, h]
  refine congrArg (· ++ o.ownFindings l members) ?_
  refine congrArg (List.flatMap · o.fields) (funext fun f => ?_)
  split
  · rename_i hfind
    rw [hfind, valueFindings_none]
  · rename_i hfind
    rw [hfind, valueFindings_null]
  · rename_i value hnull hfind
    rw [hfind, valueFindings_of_ne hnull]

theorem findings_object_of_ne {o : ObjectSchema} (h : set.node? id = some (.object o))
    (hd : ∀ members, d ≠ .object members) : set.findings id l d = [⟨l, .wrongKind d⟩] := by
  rw [findings.eq_def, h]
  cases d with
  | object members => exact absurd rfl (hd members)
  | _ => rfl

/-- **The findings of an array**: its own, then those of its elements. -/
theorem findings_array {a : ArraySchema} {items : List Document}
    (h : set.node? id = some (.array a)) :
    set.findings id l (.array items) =
      a.ownFindings l items ++ set.elementFindings a l 0 items := by
  rw [findings.eq_def, h]

theorem findings_array_of_ne {a : ArraySchema} (h : set.node? id = some (.array a))
    (hd : ∀ items, d ≠ .array items) : set.findings id l d = [⟨l, .wrongKind d⟩] := by
  rw [findings.eq_def, h]
  cases d with
  | array items => exact absurd rfl (hd items)
  | _ => rfl

theorem elementFindings_cons {a : ArraySchema} {i : Nat} {items : List Document} :
    set.elementFindings a l i (d :: items) =
      set.itemFindings a l i d ++ set.elementFindings a l (i + 1) items := by
  rw [elementFindings.eq_def]
  rfl

/-- **The findings of elements**, counted from a number on, are those of each in turn. -/
theorem elementFindings_eq_flatMap {a : ArraySchema} {i : Nat} {items : List Document} :
    set.elementFindings a l i items =
      (items.zipIdx i).flatMap fun p => set.itemFindings a l p.2 p.1 := by
  induction items generalizing i with
  | nil =>
    rw [elementFindings.eq_def]
    rfl
  | cons d rest ih => rw [elementFindings_cons, ih, List.zipIdx_cons, List.flatMap_cons]

/-! ### The findings at a node itself -/

variable {x : Finding}

theorem mem_scalarFindings {s : ScalarSchema} :
    x ∈ s.findings l d ↔ s.patternHolds d = false ∧ x = ⟨l, .patternFailure d⟩ ∨
      s.patternHolds d = true ∧ s.kind.accepts d = false ∧ x = ⟨l, .wrongKind d⟩ := by
  unfold ScalarSchema.findings
  cases s.patternHolds d <;> cases s.kind.accepts d <;> simp

theorem mem_objectFindings {o : ObjectSchema} {members : List (String × Document)} :
    x ∈ o.ownFindings l members ↔
      o.missingFields members ≠ [] ∧ x = ⟨l, .missing (o.missingFields members)⟩ := by
  unfold ObjectSchema.ownFindings
  cases o.missingFields members with
  | nil => simp
  | cons name rest => simp

theorem mem_arrayFindings {a : ArraySchema} {items : List Document} :
    x ∈ a.ownFindings l items ↔
      ∃ n, a.minLength = some n ∧ items.length < n ∧ x = ⟨l, .tooShort items.length⟩ := by
  unfold ArraySchema.ownFindings
  cases a.minLength with
  | none => simp
  | some n => simp

/-! ### The place of a document -/

variable {l' : Location}

theorem scalarFindings_append {s : ScalarSchema} :
    s.findings (l ++ l') d = (s.findings l' d).map (·.under l) := by
  unfold ScalarSchema.findings
  split
  · rfl
  · split
    · rfl
    · rfl

theorem objectFindings_append {o : ObjectSchema} {members : List (String × Document)} :
    o.ownFindings (l ++ l') members = (o.ownFindings l' members).map (·.under l) := by
  unfold ObjectSchema.ownFindings
  split
  · rfl
  · rfl

theorem arrayFindings_append {a : ArraySchema} {items : List Document} :
    a.ownFindings (l ++ l') items = (a.ownFindings l' items).map (·.under l) := by
  unfold ArraySchema.ownFindings
  split
  · rfl
  · split
    · rfl
    · rfl

/-- **The place of a document does not matter**: what is found below it moves along. -/
theorem findings_append : set.findings id (l ++ l') d = (set.findings id l' d).map (·.under l) := by
  induction d using Document.induction_children generalizing id l' with
  | step d ih =>
  rcases hnode : set.node? id with _ | (o | a | s)
  · rw [findings_of_none hnode, findings_of_none hnode, List.map_nil]
  · rcases d.eq_object_or with ⟨members, rfl⟩ | hne
    · rw [findings_object hnode, findings_object hnode, List.map_append, List.map_flatMap,
        objectFindings_append]
      refine congrArg (· ++ _) (List.flatMap_congr fun f _ => ?_)
      cases hv : Keyed.find? f.name members with
      | none => rfl
      | some v =>
        by_cases hnull : v = .null
        · subst hnull
          rw [valueFindings_null, valueFindings_null, List.append_assoc]
          split
          · rfl
          · rfl
        · rw [valueFindings_of_ne hnull, valueFindings_of_ne hnull, List.append_assoc,
            ih v (.value hv)]
    · rw [findings_object_of_ne hnode hne, findings_object_of_ne hnode hne]
      rfl
  · rcases d.eq_array_or with ⟨items, rfl⟩ | hne
    · rw [findings_array hnode, findings_array hnode, List.map_append, elementFindings_eq_flatMap,
        elementFindings_eq_flatMap, List.map_flatMap, arrayFindings_append]
      refine congrArg (_ ++ ·) (List.flatMap_congr fun p hp => ?_)
      unfold itemFindings
      split
      · rfl
      · rw [List.append_assoc, ih p.1 (.item (List.fst_mem_of_mem_zipIdx hp))]
    · rw [findings_array_of_ne hnode hne, findings_array_of_ne hnode hne]
      rfl
  · rw [findings_scalar hnode, findings_scalar hnode, scalarFindings_append]

/-- What is found at a place is what is found at the root, moved there. -/
theorem findings_eq_map : set.findings id l d = (set.findings id [] d).map (·.under l) := by
  rw [← findings_append, List.append_nil]

/-- What is found in a field is a null where none is allowed, or comes from below. -/
theorem mem_valueFindings {f : FieldSchema} {v : Option Document} :
    x ∈ set.valueFindings f [] v ↔
      v = some .null ∧ f.nullable = false ∧ x = ⟨[.field f.name], .wrongKind .null⟩ ∨
      ∃ d, v = some d ∧ d ≠ .null ∧ ∃ y ∈ set.findings f.schema [] d,
        x = y.under [.field f.name] := by
  cases v with
  | none => simp
  | some d =>
    by_cases hnull : d = .null
    · subst hnull
      rw [valueFindings_null]
      cases f.nullable <;> simp
    · rw [valueFindings_of_ne hnull, List.nil_append, findings_eq_map, List.mem_map]
      constructor
      · rintro ⟨y, hy, rfl⟩
        exact Or.inr ⟨d, rfl, hnull, y, hy, rfl⟩
      · rintro (⟨heq, -⟩ | ⟨d', heq, -, y, hy, rfl⟩)
        · exact absurd (Option.some.inj heq) hnull
        · obtain rfl := Option.some.inj heq
          exact ⟨y, hy, rfl⟩

/-- What is found in an element that is not passed over comes from below. -/
theorem mem_itemFindings {a : ArraySchema} {i : Nat} :
    x ∈ set.itemFindings a [] i d ↔
      ¬(d = .null ∧ a.nullableElements = true) ∧ ∃ y ∈ set.findings a.element [] d,
        x = y.under [.index i] := by
  have hskip : (d.isNull && a.nullableElements) = true ↔ d = .null ∧ a.nullableElements = true := by
    cases d <;> simp [Document.isNull]
  unfold itemFindings
  by_cases h : (d.isNull && a.nullableElements) = true
  · rw [if_pos h]
    exact ⟨fun hx => absurd hx (List.not_mem_nil), fun hx => absurd (hskip.mp h) hx.1⟩
  · rw [if_neg h, List.nil_append, findings_eq_map, List.mem_map, and_iff_right (mt hskip.mpr h)]
    exact exists_congr fun y => and_congr_right fun _ => eq_comm

end SchemaSet

end Conformance

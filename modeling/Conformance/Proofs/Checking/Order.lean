import Mathlib.Algebra.Order.BigOperators.Group.List
import Mathlib.Algebra.Order.Group.Nat
import Mathlib.Data.List.Pairwise
import Conformance.Proofs.Checking.Violations

/-!
# The order of the findings

An object is reported after what is in it, and an array before. So the findings of a document come
neither in the order of a descent nor in that of a return, but in a mixture of both
(`Conformance.SchemaSet.Precedes`): of two places that part, the one that parts to the left comes
first, and of two places of which one is above the other, the upper one comes last if an object
lacks fields there and first if an array is too short there. No finding of another kind has a
finding below it.

A place is compared by its position (`Conformance.SchemaSet.positions`): a field counts by its
declaration and not by its name, and so the names of the fields of an object have to differ.

* `Conformance.SchemaSet.Precedes.asymm` – the order is strict;
* `Conformance.SchemaSet.pairwise_precedes` – the findings come in it;
* `Conformance.SchemaSet.not_below_of_mem` – which findings have none below them;
* `Conformance.SchemaSet.length_findings_le` – there are no more findings than nodes.
-/

namespace Conformance

namespace SchemaSet

variable {set : SchemaSet} {id : NodeId} {l : Location} {d : Document} {x y : Finding}

/-! ### Positions -/

/-- **The position of a place**, seen from a node: the steps that lead to it, a field by its place
in the declaration of its object and an element by its index. Where no step leads, it breaks
off. -/
def positions (set : SchemaSet) : NodeId → Location → List Nat
  | _, [] => []
  | id, .field name :: rest =>
    match set.node? id with
    | some (.object o) =>
      match o.field? name with
      | some f => o.fields.idxOf f :: positions set f.schema rest
      | none => []
    | _ => []
  | id, .index i :: rest =>
    match set.node? id with
    | some (.array a) => i :: positions set a.element rest
    | _ => []

@[simp] theorem positions_nil : set.positions id [] = [] := by
  rw [positions]

theorem positions_field {o : ObjectSchema} {f : FieldSchema} (h : set.node? id = some (.object o))
    (hnodup : (o.fields.map (·.name)).Nodup) (hf : f ∈ o.fields) :
    set.positions id (.field f.name :: l) = o.fields.idxOf f :: set.positions f.schema l := by
  have hfield : o.field? f.name = some f := by
    obtain ⟨g, hg⟩ := Option.isSome_iff_exists.mp
      (List.find?_isSome (p := fun g => g.name == f.name).mpr ⟨f, hf, beq_self_eq_true _⟩)
    have hname : g.name = f.name := by simpa using List.find?_some hg
    rw [ObjectSchema.field?, hg,
      List.inj_on_of_nodup_map hnodup (List.mem_of_find?_eq_some hg) hf hname]
  rw [positions]
  simp only [h, hfield]

theorem positions_index {a : ArraySchema} {i : Nat} (h : set.node? id = some (.array a)) :
    set.positions id (.index i :: l) = i :: set.positions a.element l := by
  rw [positions]
  simp only [h]

/-- The position of a place begins with that of every place above it. -/
theorem positions_isPrefix {l' : Location} :
    set.positions id l <+: set.positions id (l ++ l') := by
  induction l generalizing id with
  | nil => exact List.nil_prefix
  | cons s rest ih =>
    cases s with
    | field name =>
      rw [List.cons_append, positions, positions]
      rcases set.node? id with _ | (o | a | s)
      · exact List.nil_prefix
      · dsimp only
        cases o.field? name with
        | none => exact List.nil_prefix
        | some f => exact List.cons_prefix_cons.mpr ⟨rfl, ih⟩
      · exact List.nil_prefix
      · exact List.nil_prefix
    | index i =>
      rw [List.cons_append, positions, positions]
      rcases set.node? id with _ | (o | a | s)
      · exact List.nil_prefix
      · exact List.nil_prefix
      · exact List.cons_prefix_cons.mpr ⟨rfl, ih⟩
      · exact List.nil_prefix

/-- In the order of declaration, the fields of an object have increasing places. -/
theorem pairwise_idxOf {fields : List FieldSchema} (h : fields.Nodup) :
    fields.Pairwise fun f g => fields.idxOf f < fields.idxOf g := by
  rw [List.pairwise_iff_getElem]
  intro i j hi hj hij
  rwa [h.idxOf_getElem, h.idxOf_getElem]

/-! ### The order -/

/-- **One finding precedes another**, seen from a node, if
* their positions part, its own to the left, or
* it lies below the other one, where an object lacks fields, or
* it lies above the other one, and an array is too short there. -/
def Precedes (set : SchemaSet) (id : NodeId) (x y : Finding) : Prop :=
  (∃ above i j, i < j ∧ above ++ [i] <+: set.positions id x.location ∧
    above ++ [j] <+: set.positions id y.location) ∨
  (∃ i, set.positions id y.location ++ [i] <+: set.positions id x.location) ∧
    (∃ names, y.departure = .missing names) ∨
  (∃ i, set.positions id x.location ++ [i] <+: set.positions id y.location) ∧
    ∃ count, x.departure = .tooShort count

/-- A place is no place below itself. -/
theorem not_concat_isPrefix {p : List Nat} {i : Nat} : ¬p ++ [i] <+: p := by
  intro h
  have hlength : p.length + 1 ≤ p.length := by simpa using h.length_le
  exact Nat.not_succ_le_self _ hlength

/-- Positions that part at a step are not above one another. -/
theorem not_prefix_of_part {above p q : List Nat} {i j : Nat} (hij : i < j)
    (hp : above ++ [i] <+: p) (hq : above ++ [j] <+: q) : ¬p <+: q ∧ ¬q <+: p := by
  have hpart : ∀ k : List Nat, above ++ [i] <+: k → ¬above ++ [j] <+: k := by
    intro k hi hj
    have hlength : (above ++ [i]).length = (above ++ [j]).length := by simp
    have heq := List.prefix_of_prefix_length_le hi hj (Nat.le_of_eq hlength)
      |>.eq_of_length hlength
    have : i = j := by simpa using heq
    omega
  exact ⟨fun h => hpart q (hp.trans h) hq, fun h => hpart p hp (hq.trans h)⟩

/-- Of two positions that part at a step, the one that parts to the left is less. -/
theorem lt_of_part {above p q : List Nat} {i j : Nat} (hij : i < j) (hp : above ++ [i] <+: p)
    (hq : above ++ [j] <+: q) : p < q := by
  obtain ⟨s, rfl⟩ := hp
  obtain ⟨t, rfl⟩ := hq
  rw [List.append_assoc, List.append_assoc]
  exact List.append_left_lt (List.cons_lt_cons_iff.mpr (Or.inl hij))

/-- Of two positions, only one lies below the other. -/
theorem not_below_of_below {p q : List Nat} {i j : Nat} (h : p ++ [i] <+: q) :
    ¬q ++ [j] <+: p := by
  intro h'
  have hlt : p.length + 1 ≤ q.length := by simpa using h.length_le
  have hlt' : q.length + 1 ≤ p.length := by simpa using h'.length_le
  omega

/-- **The order is strict**: no two findings precede each other. -/
theorem Precedes.asymm (h : set.Precedes id x y) : ¬set.Precedes id y x := by
  intro h'
  rcases h with ⟨above, i, j, hij, hi, hj⟩ | ⟨⟨i, hi⟩, names, hy⟩ | ⟨⟨i, hi⟩, count, hx⟩
  · -- their positions part, and so neither is above the other
    obtain ⟨hnot, hnot'⟩ := not_prefix_of_part hij hi hj
    rcases h' with ⟨above', i', j', hij', hi', hj'⟩ | ⟨⟨k, hk⟩, -⟩ | ⟨⟨k, hk⟩, -⟩
    · exact List.lt_asymm (lt_of_part hij hi hj) (lt_of_part hij' hi' hj')
    · exact hnot ((List.prefix_append _ _).trans hk)
    · exact hnot' ((List.prefix_append _ _).trans hk)
  · -- the second is above, and lacks fields
    rcases h' with ⟨above', i', j', hij', hi', hj'⟩ | ⟨⟨k, hk⟩, -⟩ | ⟨-, count, hy'⟩
    · exact (not_prefix_of_part hij' hi' hj').1 ((List.prefix_append _ _).trans hi)
    · exact not_below_of_below hi hk
    · exact absurd (hy.symm.trans hy') (by simp)
  · -- the first is above, and is too short
    rcases h' with ⟨above', i', j', hij', hi', hj'⟩ | ⟨-, names, hx'⟩ | ⟨⟨k, hk⟩, -⟩
    · exact (not_prefix_of_part hij' hi' hj').2 ((List.prefix_append _ _).trans hi)
    · exact absurd (hx.symm.trans hx') (by simp)
    · exact not_below_of_below hi hk

/-- A finding that precedes another is at another place. -/
theorem Precedes.ne (h : set.Precedes id x y) : x.location ≠ y.location := by
  intro heq
  unfold Precedes at h
  rw [heq] at h
  rcases h with ⟨above, i, j, hij, hi, hj⟩ | ⟨⟨i, hi⟩, -⟩ | ⟨⟨i, hi⟩, -⟩
  · exact (not_prefix_of_part hij hi hj).1 (List.prefix_refl _)
  · exact not_concat_isPrefix hi
  · exact not_concat_isPrefix hi

/-- Findings below the same node precede each other as they do seen from that node. -/
theorem Precedes.lift {id' : NodeId} {s : Segment} {k : Nat} (h : set.Precedes id' x y)
    (hs : ∀ l, set.positions id (s :: l) = k :: set.positions id' l) :
    set.Precedes id (x.under [s]) (y.under [s]) := by
  unfold Precedes Finding.under at *
  simp only [List.cons_append, List.nil_append, hs]
  rcases h with ⟨above, i, j, hij, hi, hj⟩ | ⟨⟨i, hi⟩, hy⟩ | ⟨⟨i, hi⟩, hx⟩
  · exact Or.inl ⟨k :: above, i, j, hij, List.cons_prefix_cons.mpr ⟨rfl, hi⟩,
      List.cons_prefix_cons.mpr ⟨rfl, hj⟩⟩
  · exact Or.inr (Or.inl ⟨⟨i, List.cons_prefix_cons.mpr ⟨rfl, hi⟩⟩, hy⟩)
  · exact Or.inr (Or.inr ⟨⟨i, List.cons_prefix_cons.mpr ⟨rfl, hi⟩⟩, hx⟩)

/-- Findings below different nodes come in the order of the steps to them. -/
theorem precedes_of_lt {i j : Nat} {p q : List Nat} (hij : i < j)
    (hx : set.positions id x.location = i :: p) (hy : set.positions id y.location = j :: q) :
    set.Precedes id x y := by
  refine Or.inl ⟨[], i, j, hij, ?_, ?_⟩
  · rw [hx]
    exact List.prefix_append [i] p
  · rw [hy]
    exact List.prefix_append [j] q

/-! ### Positions of what is found -/

variable {r : Registry} {m : Mode} {id' : NodeId} {d' : Document}

/-- **The position of a place that is visited** leads all the way there, and on from there. -/
theorem Visits.positions_append (hs : set.Sound r m) (h : set.Visits id d id' l d')
    (l' : Location) : set.positions id (l ++ l') = set.positions id l ++ set.positions id' l' ∧
      (set.positions id l).length = l.length := by
  induction h with
  | here => exact ⟨by rw [positions_nil]; rfl, by rw [positions_nil]; rfl⟩
  | field node declared _ _ _ ih =>
    rw [List.cons_append, positions_field node (hs.nodup node) declared,
      positions_field node (hs.nodup node) declared, ih.1, List.length_cons, ih.2]
    exact ⟨rfl, rfl⟩
  | element node _ _ _ ih =>
    rw [List.cons_append, positions_index node, positions_index node, ih.1, List.length_cons, ih.2]
    exact ⟨rfl, rfl⟩

/-- The position of a place where something is found is as long as the place. -/
theorem length_positions (hs : set.Sound r m) (hx : x ∈ set.findings id [] d) :
    (set.positions id x.location).length = x.location.length := by
  cases violates_of_mem_findings hs hx with
  | departs visits node h => exact (visits.positions_append hs []).2
  | @null id' l members o f visits node declared present h =>
    obtain ⟨happend, hlength⟩ := visits.positions_append hs [.field f.name]
    dsimp only
    rw [happend, positions_field node (hs.nodup node) declared, positions_nil, List.length_append,
      List.length_append, hlength]
    rfl

/-! ### The findings come in order -/

theorem length_scalarFindings_le {s : ScalarSchema} : (s.findings l d).length ≤ 1 := by
  unfold ScalarSchema.findings
  split
  · exact Nat.le_refl 1
  · split
    · exact Nat.le_refl 1
    · exact Nat.zero_le 1

theorem length_objectFindings_le {o : ObjectSchema} {members : List (String × Document)} :
    (o.ownFindings l members).length ≤ 1 := by
  unfold ObjectSchema.ownFindings
  split
  · exact Nat.zero_le 1
  · exact Nat.le_refl 1

theorem length_arrayFindings_le {a : ArraySchema} {items : List Document} :
    (a.ownFindings l items).length ≤ 1 := by
  unfold ArraySchema.ownFindings
  split
  · exact Nat.zero_le 1
  · split
    · exact Nat.le_refl 1
    · exact Nat.zero_le 1

/-- A single finding is in order. -/
theorem pairwise_of_length_le {R : Finding → Finding → Prop} {found : List Finding}
    (h : found.length ≤ 1) : found.Pairwise R := by
  match found, h with
  | [], _ => exact .nil
  | [x], _ => exact List.pairwise_singleton R x

/-- What is found in a field has a position that begins with the place of the field. -/
theorem positions_of_mem_valueFindings {o : ObjectSchema} {f : FieldSchema} {v : Option Document}
    (h : set.node? id = some (.object o)) (hnodup : (o.fields.map (·.name)).Nodup)
    (hf : f ∈ o.fields) (hx : x ∈ set.valueFindings f [] v) :
    ∃ p, set.positions id x.location = o.fields.idxOf f :: p := by
  rcases mem_valueFindings.mp hx with ⟨-, -, rfl⟩ | ⟨-, -, -, y, -, rfl⟩
  · exact ⟨_, positions_field h hnodup hf⟩
  · exact ⟨_, positions_field h hnodup hf⟩

/-- What is found in an element has a position that begins with its index. -/
theorem positions_of_mem_itemFindings {a : ArraySchema} {i : Nat}
    (h : set.node? id = some (.array a)) (hx : x ∈ set.itemFindings a [] i d) :
    ∃ p, set.positions id x.location = i :: p := by
  obtain ⟨-, y, -, rfl⟩ := mem_itemFindings.mp hx
  exact ⟨_, positions_index h⟩

/-- The findings in an object come in order, if those in its values do. -/
theorem pairwise_precedes_object (hs : set.Sound r m) {o : ObjectSchema}
    {members : List (String × Document)} (hnode : set.node? id = some (.object o))
    (ih : ∀ (key : String) (v : Document), Keyed.find? key members = some v → ∀ id' : NodeId,
      (set.findings id' [] v).Pairwise (set.Precedes id')) :
    (set.findings id [] (.object members)).Pairwise (set.Precedes id) := by
  have hnodup := hs.nodup hnode
  rw [findings_object hnode, List.pairwise_append, List.pairwise_flatMap]
  refine ⟨⟨fun f hf => ?_, ?_⟩, pairwise_of_length_le length_objectFindings_le, fun x hx y hy => ?_⟩
  · -- two findings in one field
    cases hv : Keyed.find? f.name members with
    | none => exact .nil
    | some v =>
      by_cases hnull : v = .null
      · subst hnull
        rw [valueFindings_null]
        split
        · exact .nil
        · exact List.pairwise_singleton _ _
      · rw [valueFindings_of_ne hnull, List.nil_append, findings_eq_map, List.pairwise_map]
        exact (ih f.name v hv f.schema).imp fun h => h.lift fun _ => positions_field hnode hnodup hf
  · -- findings in two fields
    refine (pairwise_idxOf (List.Nodup.of_map _ hnodup)).imp_of_mem fun hf hg hlt x hx y hy => ?_
    obtain ⟨p, hp⟩ := positions_of_mem_valueFindings hnode hnodup hf hx
    obtain ⟨q, hq⟩ := positions_of_mem_valueFindings hnode hnodup hg hy
    exact precedes_of_lt hlt hp hq
  · -- a finding in a field and that of the object itself
    obtain ⟨f, hf, hx⟩ := List.mem_flatMap.mp hx
    obtain ⟨p, hp⟩ := positions_of_mem_valueFindings hnode hnodup hf hx
    obtain ⟨-, rfl⟩ := mem_objectFindings.mp hy
    refine Or.inr (Or.inl ⟨⟨o.fields.idxOf f, ?_⟩, _, rfl⟩)
    rw [hp, positions_nil]
    exact List.prefix_append [o.fields.idxOf f] p

/-- The findings in an array come in order, if those in its elements do. -/
theorem pairwise_precedes_array {a : ArraySchema} {items : List Document}
    (hnode : set.node? id = some (.array a))
    (ih : ∀ v ∈ items, ∀ id' : NodeId, (set.findings id' [] v).Pairwise (set.Precedes id')) :
    (set.findings id [] (.array items)).Pairwise (set.Precedes id) := by
  rw [findings_array hnode, elementFindings_eq_flatMap, List.pairwise_append,
    List.pairwise_flatMap]
  refine ⟨pairwise_of_length_le length_arrayFindings_le, ⟨fun p hp => ?_, ?_⟩, fun x hx y hy => ?_⟩
  · -- two findings in one element
    unfold itemFindings
    split
    · exact .nil
    · rw [List.nil_append, findings_eq_map, List.pairwise_map]
      exact (ih p.1 (List.fst_mem_of_mem_zipIdx hp) a.element).imp fun h =>
        h.lift fun _ => positions_index hnode
  · -- findings in two elements
    have hindices : (items.zipIdx 0).Pairwise fun p q => p.2 < q.2 := by
      rw [List.pairwise_iff_getElem]
      intro i j hi hj hij
      simpa using hij
    refine hindices.imp fun hlt x hx y hy => ?_
    obtain ⟨p, hp⟩ := positions_of_mem_itemFindings hnode hx
    obtain ⟨q, hq⟩ := positions_of_mem_itemFindings hnode hy
    exact precedes_of_lt hlt hp hq
  · -- the finding of the array itself and one in an element
    obtain ⟨n, -, -, rfl⟩ := mem_arrayFindings.mp hx
    obtain ⟨⟨v, i⟩, -, hy⟩ := List.mem_flatMap.mp hy
    obtain ⟨p, hp⟩ := positions_of_mem_itemFindings hnode hy
    refine Or.inr (Or.inr ⟨⟨i, ?_⟩, _, rfl⟩)
    rw [hp, positions_nil]
    exact List.prefix_append [i] p

/-- **The findings come in order.** -/
theorem pairwise_precedes (hs : set.Sound r m) :
    (set.findings id [] d).Pairwise (set.Precedes id) := by
  induction d using Document.induction_children generalizing id with
  | step d ih =>
  rcases hnode : set.node? id with _ | (o | a | s)
  · rw [findings_of_none hnode]
    exact .nil
  · rcases d.eq_object_or with ⟨members, rfl⟩ | hne
    · exact pairwise_precedes_object hs hnode fun key v hv id' => ih v (.value hv)
    · rw [findings_object_of_ne hnode hne]
      exact List.pairwise_singleton _ _
  · rcases d.eq_array_or with ⟨items, rfl⟩ | hne
    · exact pairwise_precedes_array hnode fun v hv id' => ih v (.item hv)
    · rw [findings_array_of_ne hnode hne]
      exact List.pairwise_singleton _ _
  · rw [findings_scalar hnode]
    exact pairwise_of_length_le length_scalarFindings_le

/-- No two findings are at one place. -/
theorem nodup_locations (hs : set.Sound r m) :
    ((set.findings id [] d).map (·.location)).Nodup :=
  List.pairwise_map.mpr ((pairwise_precedes hs).imp fun h => h.ne)

/-- **Nothing is found below** a place where the kind or the pattern is wrong. -/
theorem not_below_of_mem (hs : set.Sound r m) (hx : x ∈ set.findings id [] d)
    (hy : y ∈ set.findings id [] d)
    (hkind : ∃ v, x.departure = .wrongKind v ∨ x.departure = .patternFailure v) {s : Segment}
    {rest : Location} : y.location ≠ x.location ++ s :: rest := by
  intro hbelow
  have habove : set.positions id x.location <+: set.positions id y.location := by
    rw [hbelow]
    exact positions_isPrefix
  have hlonger : ∀ i, ¬set.positions id y.location ++ [i] <+: set.positions id x.location := by
    intro i h
    have hle := h.length_le
    rw [List.length_append, length_positions hs hx, length_positions hs hy, hbelow,
      List.length_append, List.length_cons] at hle
    omega
  have hne : x ≠ y := by
    rintro rfl
    simp at hbelow
  -- the two come in one of the two orders
  let R : Finding → Finding → Prop := fun x y => set.Precedes id x y ∨ set.Precedes id y x
  have _ : Std.Symm R := ⟨fun _ _ => Or.symm⟩
  have hordered : R x y := ((pairwise_precedes hs).imp (S := R) Or.inl).forall hx hy hne
  obtain ⟨v, hkind⟩ := hkind
  rcases hordered with h | h
  · rcases h with ⟨above, i, j, hij, hi, hj⟩ | ⟨⟨i, hi⟩, -⟩ | ⟨-, count, hshort⟩
    · exact (not_prefix_of_part hij hi hj).1 habove
    · exact hlonger i hi
    · rcases hkind with hkind | hkind
      · exact absurd (hkind.symm.trans hshort) (by simp)
      · exact absurd (hkind.symm.trans hshort) (by simp)
  · rcases h with ⟨above, i, j, hij, hi, hj⟩ | ⟨-, names, hmissing⟩ | ⟨⟨i, hi⟩, -⟩
    · exact (not_prefix_of_part hij hi hj).2 habove
    · rcases hkind with hkind | hkind
      · exact absurd (hkind.symm.trans hmissing) (by simp)
      · exact absurd (hkind.symm.trans hmissing) (by simp)
    · exact hlonger i hi

/-! ### The number of findings -/

theorem length_valueFindings_le {f : FieldSchema} {v : Option Document}
    (ih : ∀ d, v = some d → (set.findings f.schema [] d).length ≤ d.nodeCount) :
    (set.valueFindings f [] v).length ≤ (v.map Document.nodeCount).getD 0 := by
  cases v with
  | none => exact Nat.le_refl 0
  | some d =>
    by_cases hnull : d = .null
    · subst hnull
      rw [valueFindings_null]
      split
      · exact Nat.zero_le _
      · exact Nat.le_refl 1
    · rw [valueFindings_of_ne hnull, List.nil_append, findings_eq_map, List.length_map]
      exact ih d rfl

/-- There are no more findings in elements than nodes, if there are no more in each. -/
theorem length_elementFindings_le {a : ArraySchema} {i : Nat} {items : List Document}
    (ih : ∀ d ∈ items, (set.findings a.element [] d).length ≤ d.nodeCount) :
    (set.elementFindings a [] i items).length ≤ (items.map Document.nodeCount).sum := by
  induction items generalizing i with
  | nil =>
    rw [elementFindings_eq_flatMap]
    exact Nat.le_refl 0
  | cons d rest ihrest =>
    rw [elementFindings_cons, List.length_append, List.map_cons, List.sum_cons]
    refine Nat.add_le_add ?_ (ihrest fun d' hd' => ih d' (List.mem_cons_of_mem d hd'))
    unfold itemFindings
    split
    · exact Nat.zero_le _
    · rw [List.nil_append, findings_eq_map, List.length_map]
      exact ih d List.mem_cons_self

/-- There are no more findings in fields of different names than nodes, if there are no more in
each. -/
theorem length_fieldFindings_le {fields : List FieldSchema} {members : List (String × Document)}
    (hnodup : (fields.map (·.name)).Nodup)
    (ih : ∀ f ∈ fields, ∀ d, Keyed.find? f.name members = some d →
      (set.findings f.schema [] d).length ≤ d.nodeCount) :
    (fields.flatMap fun f => set.valueFindings f [] (Keyed.find? f.name members)).length ≤
      (members.map fun e => e.2.nodeCount).sum := by
  refine Nat.le_trans ?_ (Keyed.sum_find?_le Document.nodeCount hnodup)
  rw [List.length_flatMap, List.map_map]
  exact List.sum_le_sum fun f hf => length_valueFindings_le (ih f hf)

/-- **There are no more findings than nodes.** -/
theorem length_findings_le (hs : set.Sound r m) :
    (set.findings id [] d).length ≤ d.nodeCount := by
  induction d using Document.induction_children generalizing id with
  | step d ih =>
  rcases hnode : set.node? id with _ | (o | a | s)
  · rw [findings_of_none hnode]
    exact Nat.zero_le _
  · rcases d.eq_object_or with ⟨members, rfl⟩ | hne
    · rw [findings_object hnode, List.length_append, Nat.add_comm, Document.nodeCount_object]
      exact Nat.add_le_add length_objectFindings_le
        (length_fieldFindings_le (hs.nodup hnode) fun f _ v hv => ih v (.value hv))
    · rw [findings_object_of_ne hnode hne]
      exact Document.one_le_nodeCount
  · rcases d.eq_array_or with ⟨items, rfl⟩ | hne
    · rw [findings_array hnode, List.length_append, Document.nodeCount_array]
      exact Nat.add_le_add length_arrayFindings_le
        (length_elementFindings_le fun v hv => ih v (.item hv))
    · rw [findings_array_of_ne hnode hne]
      exact Document.one_le_nodeCount
  · rw [findings_scalar hnode]
    exact Nat.le_trans length_scalarFindings_le Document.one_le_nodeCount

end SchemaSet

end Conformance

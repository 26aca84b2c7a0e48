import Conformance.Proofs.JsonSchema.Acceptance

/-!
# Documents without violations are valid

The other direction of `Conformance.Proofs.JsonSchema.Acceptance`, and it holds without exception: a
document in which a check finds nothing is valid against the rendering. What is asked for at one
node is read off the violations that are absent (`Conformance.SchemaSet.Conforms`); the references
of the rendering are followed one at a time, each together with a step into the document, and so it
does not matter that types refer to themselves and to each other.

* `Conformance.SchemaSet.Conforms.valid` – a document that conforms to a node satisfies its schema;
* `Conformance.Generator.valid_of_validate_eq_nil` – a document without violations is valid.
-/

namespace Conformance

namespace SchemaSet

open JsonSchema

variable {set : SchemaSet} {rootId id : NodeId} {d : Document} {r : Registry} {m : Mode}
variable {members : List (String × Document)} {items : List Document}

/-- **A document conforms** to a node if nothing in it is a violation. -/
def Conforms (set : SchemaSet) (id : NodeId) (d : Document) : Prop :=
  ∀ x, ¬set.Violates id d x

theorem conforms_iff (hs : set.Sound r m) : set.Conforms id d ↔ set.findings id [] d = [] := by
  rw [List.eq_nil_iff_forall_not_mem]
  exact forall_congr' fun x => not_congr (mem_findings_iff hs).symm

namespace Conforms

variable {o : ObjectSchema} {a : ArraySchema} {s : ScalarSchema} {f : FieldSchema} {v : Document}

/-- A node that a document conforms to is not departed from. -/
theorem not_departs {n : Node} {departure : Departure} (h : set.Conforms id d)
    (node : set.node? id = some n) : ¬n.Departs d departure :=
  fun hd => h _ (.departs .here node hd)

/-! ### Objects -/

theorem isObject (h : set.Conforms id d) (node : set.node? id = some (.object o)) :
    ∃ members, d = .object members := by
  rcases d.eq_object_or with hobject | hne
  · exact hobject
  · exact absurd (.noObject hne) (h.not_departs node)

/-- The key of a required field is there. -/
theorem contains (hs : set.Sound r m) (h : set.Conforms id (.object members))
    (node : set.node? id = some (.object o)) (declared : f ∈ o.fields) (required : f.required) :
    Keyed.contains f.name members = true := by
  by_contra hkey
  rw [Keyed.contains, Option.not_isSome_iff_eq_none] at hkey
  -- then the missing fields are not none, and their list is a violation
  have hmissing : f.name ∈ o.missingFields members :=
    ObjectSchema.mem_missingFields.mpr ⟨f, declared, rfl, required, hkey⟩
  have hmisses : o.Misses members (o.missingFields members) :=
    (ObjectSchema.misses_iff (hs.nodup node)).mpr ⟨List.ne_nil_of_mem hmissing, rfl⟩
  exact h.not_departs node (.missing hmisses)

/-- What stands in a field conforms to its node, or is null where null is allowed. -/
theorem field (h : set.Conforms id (.object members)) (node : set.node? id = some (.object o))
    (declared : f ∈ o.fields) (present : Keyed.find? f.name members = some v) :
    v = .null ∧ f.nullable = true ∨ set.Conforms f.schema v := by
  by_cases hnull : v = .null
  · subst hnull
    refine Or.inl ⟨rfl, ?_⟩
    by_contra hnullable
    exact h _ (.null .here node declared present (Bool.eq_false_iff.mpr hnullable))
  · exact Or.inr fun x hx => h _ (.field node declared present hnull hx)

/-! ### Arrays -/

theorem isArray (h : set.Conforms id d) (node : set.node? id = some (.array a)) :
    ∃ items, d = .array items := by
  rcases d.eq_array_or with harray | hne
  · exact harray
  · exact absurd (.noArray hne) (h.not_departs node)

/-- There are as many elements as are asked for. -/
theorem le_length {n : Nat} (h : set.Conforms id (.array items))
    (node : set.node? id = some (.array a)) (least : a.minLength = some n) : n ≤ items.length := by
  by_contra hlt
  exact h.not_departs node (.tooShort least (Nat.lt_of_not_le hlt))

/-- An element conforms to the node of the elements, or is null where null is allowed. -/
theorem element (h : set.Conforms id (.array items)) (node : set.node? id = some (.array a))
    (present : v ∈ items) : v = .null ∧ a.nullableElements = true ∨ set.Conforms a.element v := by
  by_cases hnull : v = .null ∧ a.nullableElements = true
  · exact Or.inl hnull
  · obtain ⟨i, hi⟩ := List.getElem?_of_mem present
    exact Or.inr fun x hx => h _ (.element node hi hnull hx)

/-! ### Scalars -/

/-- A pattern is matched by a text. -/
theorem exists_isMatch {p : Pattern} (h : set.Conforms id d)
    (node : set.node? id = some (.scalar s)) (pattern : s.pattern = some p) :
    ∃ text, d = .string text ∧ p.isMatch text = true := by
  by_contra hno
  exact h.not_departs node (.noMatch pattern hno)

/-- A scalar is of the kind. -/
theorem admits (h : set.Conforms id d) (node : set.node? id = some (.scalar s)) :
    s.kind.Admits d := by
  by_contra hkind
  exact h.not_departs node (.wrongKind (fun p hp => h.exists_isMatch node hp) hkind)

/-! ### Validity -/

/-- What a kind admits is of its type in the rendering. -/
theorem hasType_of_admits {kind : ScalarKind} (h : kind.Admits d) :
    kind = .any ∨ HasType kind.keyword d := by
  cases h with
  | any => exact Or.inl rfl
  | string => exact Or.inr rfl
  | number => exact Or.inr (Or.inl rfl)
  -- what is written as an integer has no fraction
  | integer => exact Or.inr (Or.inr ⟨rfl, trivial⟩)
  | boolean => exact Or.inr rfl

/-- **A document that conforms to a node satisfies its schema**, in the rendering of a schema that
defines what the node refers to. -/
theorem valid (hs : set.Sound r m) (hr : r.WellFormed) (h : set.Conforms id d)
    (hdefines : ∀ o, set.referred? id = some o → set.Defines rootId o) :
    Valid (Schema.toJsonSchema ⟨set, rootId⟩) (set.nodeSchema id) d := by
  -- nodes may refer to each other in a circle, and so the induction is on the document
  induction d using Document.induction_children generalizing id with
  | step d ih =>
  rcases hnode : set.node? id with _ | (o | a | s)
  · rw [valid_nodeSchema_iff, nodeMembers_none hnode]
    exact fun k value hmem => absurd hmem List.not_mem_nil
  · obtain ⟨members, rfl⟩ := h.isObject hnode
    have hdefined : set.Defines rootId o := hdefines o (referred?_object hnode)
    obtain ⟨t, ht, -⟩ := hs.object id o hnode
    have hresolves := Schema.resolve?_reference (s := ⟨set, rootId⟩) hs (hr.names o.name t ht)
      hdefined
    refine (valid_object_iff hnode).mpr ⟨_, hresolves, ?_⟩
    refine (valid_objectBody_iff (hs.nodup hnode)).mpr ⟨members, rfl, fun f hf v hv => ?_,
      fun f hf hrequired => h.contains hs hnode hf hrequired⟩
    refine valid_orNull_iff.mpr ((h.field hnode hf hv).imp_right fun hv' => ?_)
    refine ih v (.value hv) hv' fun o' ho' => ?_
    exact hdefined.reached hs ⟨id, hnode⟩ (List.mem_filterMap.mpr ⟨f, hf, ho'⟩)
  · obtain ⟨items, rfl⟩ := h.isArray hnode
    have hfits : a.Fits r m id := hs.fits id _ hnode
    refine (valid_array_iff hnode hfits.element).mpr ⟨items, rfl, fun v hv => ?_, fun n hn => ?_⟩
    · refine valid_orNull_iff.mpr ((h.element hnode hv).imp_right fun hv' => ?_)
      refine ih v (.item hv) hv' fun o' ho' => ?_
      exact hdefines o' (by rwa [referred?_array hnode hfits.element])
    · obtain ⟨f, hf, hleast⟩ := hfits.least n hn
      exact (Number.atMost_ofNat (hr.effectiveMinLength_le hf hleast)).mpr (h.le_length hnode hn)
  · exact (valid_scalar_iff hnode).mpr
      ⟨fun p hp => h.exists_isMatch hnode hp, fun _ => hasType_of_admits (h.admits hnode)⟩

end Conforms

end SchemaSet

namespace Generator

open JsonSchema SchemaSet

/-- **A document without violations is valid** against the rendering of the schema, for all types
whose names are identifiers, however often they refer to themselves and to each other. That least
numbers of elements fit a word is no restriction: a description has no place for a larger one. -/
theorem valid_of_validate_eq_nil (r : Registry) (m : Mode) (calls : List Call) (hr : r.WellFormed)
    (id : NodeId) (d : Document) :
    let s : Schema := ⟨((new r m).run calls).2.finish, id⟩
    s.validate d = [] → Valid s.toJsonSchema s.toJsonSchema d := by
  intro s hd
  have hs : s.set.Sound r m := sound_finish_run r m calls
  have hconforms : s.set.Conforms s.root d := (conforms_iff hs).mpr (List.map_eq_nil_iff.mp hd)
  refine Schema.valid_toJsonSchema_iff.mpr (hconforms.valid hs hr fun o ho => ?_)
  exact defines_of_referred? hs ho

/-- Two types that refer to each other, one of them through an array that must not be empty. -/
def households : Registry :=
  ⟨[("House", ⟨"House", [{ FieldDescription.plain "street" (.scalar .string) with
        required := some true },
      { FieldDescription.plain "people" (.array (.named "Person")) with nonEmpty := true }]⟩),
    ("Person", ⟨"Person", [.plain "age" (.scalar .integer), .plain "home" (.named "House")]⟩)]⟩

/-- The schema of an array of houses. -/
def houses : Schema :=
  ⟨((new households .explicitOnly).run [.generateExpr (.array (.named "House"))]).2.finish, 5⟩

/-- A house with a person of another house, and a null among its people. -/
def settledHouse : Document :=
  .array [.object [("people", .array [.object [("age", .null), ("home",
    .object [("people", .null), ("street", .string "Elm")])], .null]), ("street", .string "Oak")]]

theorem wellFormed_households : households.WellFormed := by
  have hfind : ∀ name t, households.find? name = some t → (name = "House" ∨ name = "Person") ∧
      ∀ f ∈ t.fields, f.minLength = none := by
    intro name t h
    have hmem := Keyed.mem_of_find? h
    simp only [households, List.mem_cons, List.not_mem_nil, or_false] at hmem
    rcases hmem with heq | heq
    · obtain ⟨rfl, rfl⟩ := Prod.mk.inj heq
      exact ⟨Or.inl rfl, by simp [FieldDescription.plain]⟩
    · obtain ⟨rfl, rfl⟩ := Prod.mk.inj heq
      exact ⟨Or.inr rfl, by simp [FieldDescription.plain]⟩
  refine ⟨fun name t h => ?_, fun f hf n hn => ?_⟩
  · rcases (hfind name t h).1 with rfl | rfl
    · decide
    · decide
  · obtain ⟨name, t, h, hmem⟩ := hf
    rw [(hfind name t h).2 f hmem] at hn
    exact absurd hn (by simp)

/-- Of this document nothing is found, and it is valid. -/
theorem valid_settledHouse : households.WellFormed ∧
    ((new households .explicitOnly).run [.generateExpr (.array (.named "House"))]).1 =
      [(.generateExpr (.array (.named "House")), .node (.ok houses.root))] ∧
    houses.validate settledHouse = [] ∧
    Valid houses.toJsonSchema houses.toJsonSchema settledHouse := by
  have hanswer : ((new households .explicitOnly).run [.generateExpr (.array (.named "House"))]).1 =
      [(.generateExpr (.array (.named "House")), .node (.ok houses.root))] := by
    simp only [run, call, generateExpr, Generating.exprNode_eq_exprNodeWithin_size]
    rfl
  have hvalidate : houses.validate settledHouse = [] := by
    simp only [houses, run, call, generateExpr, Generating.exprNode_eq_exprNodeWithin_size]
    with_unfolding_all rfl
  exact ⟨wellFormed_households, hanswer, hvalidate, valid_of_validate_eq_nil households
    .explicitOnly [.generateExpr (.array (.named "House"))] wellFormed_households 5 settledHouse
    hvalidate⟩

end Generator

end Conformance

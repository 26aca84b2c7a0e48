import Conformance.Proofs.Checking.Shown
import Conformance.Proofs.Checking.Violations
import Conformance.Proofs.Generation.Evaluation
import Conformance.Proofs.JsonSchema.Rendering

/-!
# What a rendering accepts

A document that is valid against the rendering of a schema is visited by a check only where it is
valid against the schema of the node (`Conformance.SchemaSet.Visits.accepts`), and there it departs
from the node in one way at most: JSON Schema counts every number without a fraction as an integer,
and a check only those that are written as one. Beside this, the rendering of a field of any kind
that must not be null has no place to say so. These two are what is tolerated
(`Conformance.SchemaSet.Tolerated`).

* `Conformance.Generator.tolerated_of_valid` – of a document that is valid against a rendering, a
  check finds nothing that is not tolerated.
-/

namespace Conformance

/-- **A registry as files describe it**: the names of types are identifiers, and a least number of
elements fits a word. -/
structure Registry.WellFormed (r : Registry) : Prop where
  /-- The names are identifiers. -/
  names : ∀ name t, r.find? name = some t → TypeExpr.isTypeName name.toList = true
  /-- Least numbers of elements fit a word. -/
  counts : ∀ f, r.Describes f → ∀ n, f.minLength = some n → (n : Int) ≤ WordInt.max

/-- The least number of elements that a field asks for fits a word. -/
theorem Registry.WellFormed.effectiveMinLength_le {r : Registry} (h : r.WellFormed)
    {f : FieldDescription} (hf : r.Describes f) {n : Nat} (hn : f.effectiveMinLength = some n) :
    (n : Int) ≤ WordInt.max := by
  have hone : ((1 : Nat) : Int) ≤ WordInt.max := by decide
  unfold FieldDescription.effectiveMinLength at hn
  split at hn
  · rename_i k hk _
    obtain rfl := Option.some.inj hn
    have hle := h.counts f hf k hk
    rcases Nat.le_total k 1 with h1 | h1
    · rwa [show Nat.max k 1 = 1 from Nat.max_eq_right h1]
    · rwa [show Nat.max k 1 = k from Nat.max_eq_left h1]
  · rename_i k hk _
    obtain rfl := Option.some.inj hn
    exact h.counts f hf k hk
  · obtain rfl := Option.some.inj hn
    exact hone
  · exact absurd hn (by simp)

namespace SchemaSet

open JsonSchema

variable {set : SchemaSet} {rootId id id' : NodeId} {l : Location} {d d' : Document}
variable {r : Registry} {m : Mode} {o : ObjectSchema} {x : Finding}

/-- **What is tolerated** in a document that is valid against a rendering. -/
inductive Tolerated (set : SchemaSet) (id : NodeId) (d : Document) : Finding → Prop where
  /-- A double without a fraction, where an integer is asked for. -/
  | integral {id' : NodeId} {l : Location} {n : Number}
    (visits : set.Visits id d id' l (.number n))
    (node : set.node? id' = some (.scalar ⟨.integer, none⟩)) (h : n.IsIntegral)
    (double : (Document.number n).isInteger = false) :
    Tolerated set id d ⟨l, .wrongKind (.number n)⟩
  /-- A null in a field of any kind that must not be null. -/
  | null {id' : NodeId} {l : Location} {members : List (String × Document)} {o : ObjectSchema}
    {f : FieldSchema} (visits : set.Visits id d id' l (.object members))
    (node : set.node? id' = some (.object o)) (declared : f ∈ o.fields)
    (present : Keyed.find? f.name members = some .null) (h : f.nullable = false)
    (any : set.node? f.schema = some (.scalar ⟨.any, none⟩)) :
    Tolerated set id d ⟨l ++ [.field f.name], .wrongKind .null⟩

/-- **A document is accepted** for a node, in the rendering of the schema at a place: it satisfies
the schema of the node, and what the node refers to is defined. -/
structure Accepts (set : SchemaSet) (rootId id : NodeId) (d : Document) : Prop where
  /-- It satisfies the schema of the node. -/
  valid : Valid (Schema.toJsonSchema ⟨set, rootId⟩) (set.nodeSchema id) d
  /-- What the node refers to is defined. -/
  defines : ∀ o, set.referred? id = some o → set.Defines rootId o

/-- A document that is accepted for an object satisfies the schema of its type. -/
theorem Accepts.objectBody (hs : set.Sound r m) (hr : r.WellFormed)
    (node : set.node? id = some (.object o)) (h : set.Accepts rootId id d) :
    Valid (Schema.toJsonSchema ⟨set, rootId⟩) (set.objectBody o) d := by
  have hdefines : set.Defines rootId o := h.defines o (referred?_object node)
  obtain ⟨t, ht, -⟩ := hs.object id o node
  obtain ⟨target, hresolves, hvalid⟩ := (valid_object_iff node).mp h.valid
  -- the name has a type, and so it is an identifier and stands in the pointer as it is
  have hbody := Schema.resolve?_reference (s := ⟨set, rootId⟩) hs (hr.names o.name t ht) hdefines
  obtain rfl : set.objectBody o = target := Option.some.inj (hbody.symm.trans hresolves)
  exact hvalid

/-- What is accepted for an object is an object. -/
theorem Accepts.isObject (hs : set.Sound r m) (hr : r.WellFormed)
    (node : set.node? id = some (.object o)) (h : set.Accepts rootId id d) :
    ∃ members, d = .object members := by
  obtain ⟨members, heq, -⟩ := (valid_objectBody_iff (hs.nodup node)).mp (h.objectBody hs hr node)
  exact ⟨members, heq⟩

/-- What is accepted for an array is an array. -/
theorem Accepts.isArray (hs : set.Sound r m) {a : ArraySchema}
    (node : set.node? id = some (.array a)) (h : set.Accepts rootId id d) :
    ∃ items, d = .array items := by
  obtain ⟨items, heq, -⟩ := (valid_array_iff node (hs.fits id _ node).element).mp h.valid
  exact ⟨items, heq⟩

/-- What stands in a field of a document that is accepted is accepted, unless it is null and may
be. -/
theorem Accepts.field (hs : set.Sound r m) (hr : r.WellFormed) {f : FieldSchema}
    {members : List (String × Document)} (node : set.node? id = some (.object o))
    (h : set.Accepts rootId id (.object members)) (declared : f ∈ o.fields)
    (present : Keyed.find? f.name members = some d) (ne : ¬(d = .null ∧ f.nullable = true)) :
    set.Accepts rootId f.schema d := by
  obtain ⟨members', heq, hvalues, -⟩ :=
    (valid_objectBody_iff (hs.nodup node)).mp (h.objectBody hs hr node)
  obtain rfl := Document.object.inj heq
  refine ⟨(valid_orNull_iff.mp (hvalues f declared d present)).resolve_left ne, fun o' ho' => ?_⟩
  refine (h.defines o (referred?_object node)).reached hs ⟨_, node⟩ ?_
  exact List.mem_filterMap.mpr ⟨f, declared, ho'⟩

/-- What stands in an array that is accepted is accepted, unless it is null and may be. -/
theorem Accepts.element (hs : set.Sound r m) {a : ArraySchema} {items : List Document}
    (node : set.node? id = some (.array a)) (h : set.Accepts rootId id (.array items))
    (present : d ∈ items) (ne : ¬(d = .null ∧ a.nullableElements = true)) :
    set.Accepts rootId a.element d := by
  have hlt : a.element < id := (hs.fits id _ node).element
  obtain ⟨items', heq, hitems, -⟩ := (valid_array_iff node hlt).mp h.valid
  obtain rfl := Document.array.inj heq
  refine ⟨(valid_orNull_iff.mp (hitems d present)).resolve_left ne, fun o' ho' => ?_⟩
  exact h.defines o' (by rwa [referred?_array node hlt])

/-- **A document that is accepted is visited only where it is accepted.** -/
theorem Visits.accepts (hs : set.Sound r m) (hr : r.WellFormed) (visits : set.Visits id d id' l d')
    (h : set.Accepts rootId id d) : set.Accepts rootId id' d' := by
  induction visits with
  | here => exact h
  | field node declared present ne _ ih =>
    exact ih (h.field hs hr node declared present fun hnull => ne hnull.1)
  | element node present ne _ ih =>
    exact ih (h.element hs node (List.mem_of_getElem? present) ne)

/-! ### What is tolerated -/

/-- A document that is of the type of a scalar kind is of the kind, or it is a number without a
fraction that is not written as an integer. -/
theorem integral_of_hasType {kind : ScalarKind} (h : HasType kind.keyword d)
    (hkind : ¬kind.Admits d) :
    kind = .integer ∧ ∃ n : Number, d = .number n ∧ n.IsIntegral := by
  rw [← ScalarKind.accepts_eq_false_iff] at hkind
  cases kind <;> cases d <;> simp_all [HasType, ScalarKind.keyword, ScalarKind.accepts]

/-- What departs from its node where it is accepted is tolerated. -/
theorem tolerated_of_departs (hs : set.Sound r m) (hr : r.WellFormed) {n : Node}
    {departure : Departure} (visits : set.Visits id d id' l d') (node : set.node? id' = some n)
    (ha : set.Accepts rootId id' d') (h : n.Departs d' departure) :
    set.Tolerated id d ⟨l, departure⟩ := by
  cases h with
  | noObject h =>
    -- every shape is asked for in the rendering too, and so only the kind of a scalar is left
    obtain ⟨members, rfl⟩ := ha.isObject hs hr node
    exact absurd rfl (h members)
  | noArray h =>
    obtain ⟨items, rfl⟩ := ha.isArray hs node
    exact absurd rfl (h items)
  | missing h =>
    obtain ⟨name, hname⟩ := List.exists_mem_of_ne_nil _ h.nonempty
    obtain ⟨f, hf, rfl, hrequired, hkey⟩ := (h.mem name).mp hname
    obtain ⟨members', heq, -, hpresent⟩ :=
      (valid_objectBody_iff (hs.nodup node)).mp (ha.objectBody hs hr node)
    obtain rfl := Document.object.inj heq
    have hcontains := hpresent f hf hrequired
    rw [Keyed.contains, hkey] at hcontains
    exact absurd hcontains (by simp)
  | @tooShort a items n h hlt =>
    have hfits : a.Fits r m id' := hs.fits id' _ node
    obtain ⟨items', heq, -, hmin⟩ := (valid_array_iff node hfits.element).mp ha.valid
    obtain rfl := Document.array.inj heq
    obtain ⟨f, hf, hleast⟩ := hfits.least n h
    have hle := (Number.atMost_ofNat (hr.effectiveMinLength_le hf hleast)).mp (hmin n h)
    exact absurd hle (Nat.not_le_of_lt hlt)
  | noMatch h hd => exact absurd (((valid_scalar_iff node).mp ha.valid).1 _ h) hd
  | @wrongKind s d h hd =>
    obtain ⟨kind, pattern⟩ := s
    cases pattern with
    | some p =>
      -- a scalar with a pattern is a text or anything, and so is what matches
      obtain ⟨text, rfl, -⟩ := h p rfl
      rcases hs.fits id' _ node p rfl with rfl | rfl
      · exact absurd .string hd
      · exact absurd .any hd
    | none =>
      have hany : kind ≠ .any := by
        rintro rfl
        exact hd .any
      have htype := (((valid_scalar_iff node).mp ha.valid).2 rfl).resolve_left hany
      obtain ⟨rfl, n, rfl, hn⟩ := integral_of_hasType htype hd
      exact .integral visits node hn (ScalarKind.accepts_eq_false_iff.mpr hd)

/-- A null that is accepted where none is allowed is tolerated. -/
theorem tolerated_of_null (hs : set.Sound r m) (hr : r.WellFormed) {f : FieldSchema}
    {members : List (String × Document)} (visits : set.Visits id d id' l (.object members))
    (node : set.node? id' = some (.object o)) (ha : set.Accepts rootId id' (.object members))
    (declared : f ∈ o.fields) (present : Keyed.find? f.name members = some .null)
    (h : f.nullable = false) : set.Tolerated id d ⟨l ++ [.field f.name], .wrongKind .null⟩ := by
  have hnull : set.Accepts rootId f.schema .null :=
    ha.field hs hr node declared present fun hnull => by simp [h] at hnull
  obtain ⟨n, hn⟩ := hs.exists_node node declared
  -- null has a type of its own, and so the rendering of the field asks for no type at all
  rcases n with o | a | ⟨kind, pattern⟩
  · obtain ⟨_, heq⟩ := hnull.isObject hs hr hn
    exact absurd heq (by simp)
  · obtain ⟨_, heq⟩ := hnull.isArray hs hn
    exact absurd heq (by simp)
  · obtain ⟨hpattern, hkind⟩ := (valid_scalar_iff hn).mp hnull.valid
    cases pattern with
    | some p =>
      obtain ⟨_, heq, -⟩ := hpattern p rfl
      exact absurd heq (by simp)
    | none =>
      rcases hkind rfl with rfl | htype
      · exact .null visits node declared present h hn
      · cases kind <;> simp [HasType, ScalarKind.keyword] at htype

/-- **Of a document that is accepted, only what is tolerated is found.** -/
theorem Accepts.tolerated (hs : set.Sound r m) (hr : r.WellFormed) (h : set.Accepts rootId id d)
    (hx : x ∈ set.findings id [] d) : set.Tolerated id d x := by
  cases violates_of_mem_findings hs hx with
  | departs visits node hdeparts =>
    exact tolerated_of_departs hs hr visits node (visits.accepts hs hr h) hdeparts
  | null visits node declared present hnull =>
    exact tolerated_of_null hs hr visits node (visits.accepts hs hr h) declared present hnull

end SchemaSet

namespace Generator

open JsonSchema SchemaSet

/-- **Of a document that is valid against a rendering, a check finds only what is tolerated**, and
what it returns shows that. So it returns nothing if nothing of this kind is in the document. -/
theorem tolerated_of_valid (r : Registry) (m : Mode) (calls : List Call) (hr : r.WellFormed)
    (id : NodeId) (d : Document) :
    let s : Schema := ⟨((new r m).run calls).2.finish, id⟩
    Valid s.toJsonSchema s.toJsonSchema d →
      (∀ x ∈ s.findings d, s.set.Tolerated s.root d x) ∧
        (∀ v ∈ s.validate d, ∃ x, s.set.Tolerated s.root d x ∧ x.ShownBy v) ∧
        ((∀ x, ¬s.set.Tolerated s.root d x) → s.validate d = []) := by
  intro s hd
  have hs : s.set.Sound r m := sound_finish_run r m calls
  have haccepts : s.set.Accepts s.root s.root d :=
    ⟨Schema.valid_toJsonSchema_iff.mp hd, fun o ho => defines_of_referred? hs ho⟩
  have hall : ∀ x ∈ s.findings d, s.set.Tolerated s.root d x :=
    fun x hx => haccepts.tolerated hs hr hx
  have hshown : ∀ v ∈ s.validate d, ∃ x, s.set.Tolerated s.root d x ∧ x.ShownBy v := by
    intro v hv
    obtain ⟨x, hx, hshown⟩ := Schema.mem_validate_iff.mp hv
    exact ⟨x, hall x hx, hshown⟩
  refine ⟨hall, hshown, fun hnone => List.eq_nil_iff_forall_not_mem.mpr fun v hv => ?_⟩
  obtain ⟨x, hx, -⟩ := hshown v hv
  exact hnone x hx

/-! ### Both are met -/

/-- A type with an integer, and a field of any kind that must not be null. -/
def looseTypes : Registry :=
  ⟨[("T", ⟨"T", [.plain "n" (.scalar .integer),
    { FieldDescription.plain "x" (.scalar .any) with nullable := some false }]⟩)]⟩

/-- Its schema. -/
def looseSchema : Schema := ⟨((new looseTypes .explicitOnly).run [.generate "T"]).2.finish, 0⟩

/-- The object of the type. -/
def looseObject : ObjectSchema := ⟨"T", [⟨"n", 1, false, true⟩, ⟨"x", 2, false, false⟩]⟩

/-- The number 1, as a double. -/
def one : Number := .double ⟨false, 4503599627370496, -52⟩

/-- A double where the integer is asked for, and a null in the other field. -/
def looseDocument : Document := .object [("n", .number one), ("x", .null)]

theorem node?_looseSchema : looseSchema.set.node? 0 = some (.object looseObject) ∧
    looseSchema.set.node? 1 = some (.scalar ⟨.integer, none⟩) ∧
    looseSchema.set.node? 2 = some (.scalar ⟨.any, none⟩) := by
  simp only [looseSchema, run, call, generate, generateExpr,
    Generating.exprNode_eq_exprNodeWithin_size]
  exact ⟨rfl, rfl, rfl⟩

theorem wellFormed_looseTypes : looseTypes.WellFormed := by
  have hfind : ∀ name t, looseTypes.find? name = some t → name = "T" ∧
      ∀ f ∈ t.fields, f.minLength = none := by
    intro name t h
    obtain ⟨rfl, rfl⟩ : name = "T" ∧ t = _ := by simpa [looseTypes] using Keyed.mem_of_find? h
    exact ⟨rfl, by simp [FieldDescription.plain]⟩
  refine ⟨fun name t h => ?_, fun f hf n hn => ?_⟩
  · obtain ⟨rfl, -⟩ := hfind name t h
    decide
  · obtain ⟨name, t, h, hmem⟩ := hf
    rw [(hfind name t h).2 f hmem] at hn
    exact absurd hn (by simp)

theorem valid_looseDocument :
    Valid looseSchema.toJsonSchema looseSchema.toJsonSchema looseDocument := by
  obtain ⟨hobject, hinteger, hany⟩ := node?_looseSchema
  have hs : looseSchema.set.Sound looseTypes .explicitOnly := sound_finish_run _ _ _
  have hdefines : looseSchema.set.Defines looseSchema.root looseObject :=
    defines_of_referred? hs (referred?_object hobject)
  have hresolve := Schema.resolve?_reference hs (by decide) hdefines
  have hvalues : ∀ f ∈ looseObject.fields, ∀ v,
      Keyed.find? f.name [("n", Document.number one), ("x", .null)] = some v →
        Valid looseSchema.toJsonSchema
          (orNull (looseSchema.set.nodeSchema f.schema) f.nullable) v := by
    intro f hf v hv
    rw [valid_orNull_iff]
    simp only [looseObject, List.mem_cons, List.not_mem_nil, or_false] at hf
    rcases hf with rfl | rfl
    · obtain rfl : Document.number one = v := Option.some.inj hv
      refine Or.inr ((valid_scalar_iff hinteger).mpr ⟨fun p hp => absurd hp (by simp), fun _ => ?_⟩)
      exact Or.inr (Or.inr ⟨rfl, by decide⟩)
    · obtain rfl : Document.null = v := Option.some.inj hv
      refine Or.inr ((valid_scalar_iff hany).mpr ⟨fun p hp => absurd hp (by simp), fun _ => ?_⟩)
      exact Or.inl rfl
  have hbody : Valid looseSchema.toJsonSchema (looseSchema.set.objectBody looseObject)
      looseDocument := by
    refine (valid_objectBody_iff (by decide)).mpr ⟨_, rfl, hvalues, fun f hf hrequired => ?_⟩
    simp only [looseObject, List.mem_cons, List.not_mem_nil, or_false] at hf
    rcases hf with rfl | rfl
    · exact absurd hrequired (by simp)
    · exact absurd hrequired (by simp)
  exact Schema.valid_toJsonSchema_iff.mpr ((valid_object_iff hobject).mpr ⟨_, hresolve, hbody⟩)

/-- A document may be valid against the rendering of a type and still be rejected. -/
theorem rejected_looseDocument : looseTypes.WellFormed ∧
    ((new looseTypes .explicitOnly).run [.generate "T"]).1 =
      [(.generate "T", .node (.ok looseSchema.root))] ∧
    Valid looseSchema.toJsonSchema looseSchema.toJsonSchema looseDocument ∧
    looseSchema.validate looseDocument =
      [.typeMismatch "n" (.number one), .typeMismatch "x" .null] := by
  refine ⟨wellFormed_looseTypes, ?_, valid_looseDocument, ?_⟩
  · simp only [run, call, generate, generateExpr, Generating.exprNode_eq_exprNodeWithin_size]
    rfl
  · simp only [looseSchema, run, call, generate, generateExpr,
      Generating.exprNode_eq_exprNodeWithin_size]
    with_unfolding_all rfl

/-- Of this document, only what is tolerated is found. -/
theorem tolerated_looseDocument : looseTypes.WellFormed ∧
    Valid looseSchema.toJsonSchema looseSchema.toJsonSchema looseDocument ∧
    ∀ x ∈ looseSchema.findings looseDocument,
      looseSchema.set.Tolerated looseSchema.root looseDocument x :=
  ⟨wellFormed_looseTypes, valid_looseDocument,
    (tolerated_of_valid looseTypes .explicitOnly [.generate "T"] wellFormed_looseTypes 0
      looseDocument valid_looseDocument).1⟩

end Generator

end Conformance

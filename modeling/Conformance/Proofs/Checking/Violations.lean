import Mathlib.Data.List.Nodup
import Mathlib.Data.List.Perm.Basic
import Conformance.Proofs.Checking.Walk
import Conformance.Proofs.Generation.Runs

/-!
# What a violation is

What is wrong with a document, said without a walk. A document is visited in some places, each with
a node (`Conformance.SchemaSet.Visits`); at a place that is visited it may depart from the node
(`Conformance.Node.Departs`), as a value does that a scalar kind does not admit
(`Conformance.ScalarKind.Admits`), and a null may stand in a field that must not be null
(`Conformance.SchemaSet.Violates`). Null is treated in three ways: in a field it is never visited,
in an array it is visited unless the elements are nullable, and at the root it is visited like
anything else.

* `Conformance.ObjectSchema.misses_iff` – the list of the missing fields is determined by its laws;
* `Conformance.SchemaSet.Visits.unique` – a place is visited with one node;
* `Conformance.SchemaSet.mem_findings_iff` – the walk finds the violations and nothing else.
-/

namespace Conformance

/-! ### Departures at one node -/

/-- **The missing fields** of an object: a list of names, not empty and without repetitions, in the
order of declaration, of just those fields that are required and have no key. -/
structure ObjectSchema.Misses (o : ObjectSchema) (members : List (String × Document))
    (names : List String) : Prop where
  /-- There is one. -/
  nonempty : names ≠ []
  /-- No name occurs twice. -/
  nodup : names.Nodup
  /-- They come in the order of declaration. -/
  declared : names.Sublist (o.fields.map (·.name))
  /-- They are the required ones without a key. -/
  mem : ∀ name, name ∈ names ↔
    ∃ f ∈ o.fields, f.name = name ∧ f.required = true ∧ Keyed.find? name members = none

/-- **What is of a scalar kind.** -/
inductive ScalarKind.Admits : ScalarKind → Document → Prop where
  /-- Any document is of any kind. -/
  | any {d : Document} : Admits .any d
  /-- A text is a string. -/
  | string {text : String} : Admits .string (.string text)
  /-- Any number is a number. -/
  | number {n : Number} : Admits .number (.number n)
  /-- A number that is the integer of a word is an integer; a double never is. -/
  | integer {i : WordInt} : Admits .integer (.number (.integer i))
  /-- A truth value is a boolean. -/
  | boolean {b : Bool} : Admits .boolean (.bool b)

/-- **How a document departs from a node** that it is visited with. -/
inductive Node.Departs : Node → Document → Departure → Prop where
  /-- It is no object where one is asked for. -/
  | noObject {o : ObjectSchema} {d : Document} (h : ∀ members, d ≠ .object members) :
    Departs (.object o) d (.wrongKind d)
  /-- It is no array where one is asked for. -/
  | noArray {a : ArraySchema} {d : Document} (h : ∀ items, d ≠ .array items) :
    Departs (.array a) d (.wrongKind d)
  /-- It lacks required fields. -/
  | missing {o : ObjectSchema} {members : List (String × Document)} {names : List String}
    (h : o.Misses members names) : Departs (.object o) (.object members) (.missing names)
  /-- It has too few elements. -/
  | tooShort {a : ArraySchema} {items : List Document} {n : Nat} (h : a.minLength = some n)
    (hlt : items.length < n) : Departs (.array a) (.array items) (.tooShort items.length)
  /-- There is a pattern, and it is no text that matches. -/
  | noMatch {s : ScalarSchema} {d : Document} {p : Pattern} (h : s.pattern = some p)
    (hd : ¬∃ text, d = .string text ∧ p.isMatch text = true) :
    Departs (.scalar s) d (.patternFailure d)
  /-- The pattern, if there is one, matches, and still it is not of the kind. -/
  | wrongKind {s : ScalarSchema} {d : Document}
    (h : ∀ p, s.pattern = some p → ∃ text, d = .string text ∧ p.isMatch text = true)
    (hd : ¬s.kind.Admits d) : Departs (.scalar s) d (.wrongKind d)

namespace ObjectSchema

variable {o : ObjectSchema} {members : List (String × Document)} {names : List String}

theorem mem_missingFields {name : String} :
    name ∈ o.missingFields members ↔
      ∃ f ∈ o.fields, f.name = name ∧ f.required = true ∧ Keyed.find? name members = none := by
  rw [missingFields, requiredFields, List.mem_filter, List.mem_map]
  have hcontains : (!Keyed.contains name members) = true ↔ Keyed.find? name members = none := by
    rw [Keyed.contains, Option.not_isSome, Option.isNone_iff_eq_none]
  rw [hcontains]
  constructor
  · rintro ⟨⟨f, hf, rfl⟩, hkey⟩
    obtain ⟨hmem, hrequired⟩ := List.mem_filter.mp hf
    exact ⟨f, hmem, rfl, hrequired, hkey⟩
  · rintro ⟨f, hf, rfl, hrequired, hkey⟩
    exact ⟨⟨f, List.mem_filter.mpr ⟨hf, hrequired⟩, rfl⟩, hkey⟩

theorem missingFields_sublist : (o.missingFields members).Sublist (o.fields.map (·.name)) :=
  List.filter_sublist.trans (List.filter_sublist.map _)

/-- **The missing fields are determined by their laws**, since no two fields have one name. -/
theorem misses_iff (hnodup : (o.fields.map (·.name)).Nodup) :
    o.Misses members names ↔ o.missingFields members ≠ [] ∧ names = o.missingFields members := by
  constructor
  · intro h
    -- both lists have the same names, each once, and both come in the order of declaration
    have hperm : names.Perm (o.missingFields members) :=
      (List.perm_ext_iff_of_nodup h.nodup (missingFields_sublist.nodup hnodup)).mpr fun name =>
        (h.mem name).trans mem_missingFields.symm
    have heq : names = o.missingFields members :=
      (hnodup.perm_iff_eq_of_sublist h.declared missingFields_sublist).mp hperm
    exact ⟨heq ▸ h.nonempty, heq⟩
  · rintro ⟨hne, rfl⟩
    exact ⟨hne, missingFields_sublist.nodup hnodup, missingFields_sublist,
      fun name => mem_missingFields⟩

end ObjectSchema

theorem ScalarKind.accepts_iff {kind : ScalarKind} {d : Document} :
    kind.accepts d = true ↔ kind.Admits d := by
  constructor
  · intro h
    cases kind with
    | any => exact .any
    | string =>
      cases d with
      | string => exact .string
      | _ => exact absurd h Bool.false_ne_true
    | number =>
      cases d with
      | number => exact .number
      | _ => exact absurd h Bool.false_ne_true
    | integer =>
      cases d with
      | number n =>
        cases n with
        | integer => exact .integer
        | double => exact absurd h Bool.false_ne_true
      | _ => exact absurd h Bool.false_ne_true
    | boolean =>
      cases d with
      | bool => exact .boolean
      | _ => exact absurd h Bool.false_ne_true
  · intro h
    cases h with
    | _ => rfl

theorem ScalarKind.accepts_eq_false_iff {kind : ScalarKind} {d : Document} :
    kind.accepts d = false ↔ ¬kind.Admits d := by
  rw [← accepts_iff, Bool.not_eq_true]

theorem ScalarSchema.patternHolds_iff {s : ScalarSchema} {d : Document} :
    s.patternHolds d = true ↔
      ∀ p, s.pattern = some p → ∃ text, d = .string text ∧ p.isMatch text = true := by
  unfold patternHolds
  cases s.pattern with
  | none => simp
  | some p => cases d <;> simp [Document.asString?]

/-! ### Violations -/

namespace SchemaSet

/-- **The places that are visited** in a document, for a node, each with its node and what stands
there. -/
inductive Visits (set : SchemaSet) : NodeId → Document → NodeId → Location → Document → Prop where
  /-- The root is visited. -/
  | here {id : NodeId} {d : Document} : Visits set id d id [] d
  /-- A declared field of an object that is visited is visited, unless it is null. -/
  | field {id id' : NodeId} {l : Location} {d v : Document} {members : List (String × Document)}
    {o : ObjectSchema} {f : FieldSchema} (node : set.node? id = some (.object o))
    (declared : f ∈ o.fields) (present : Keyed.find? f.name members = some v) (ne : v ≠ .null)
    (below : Visits set f.schema v id' l d) :
    Visits set id (.object members) id' (.field f.name :: l) d
  /-- An element of an array that is visited is visited, unless it is null and may be. -/
  | element {id id' : NodeId} {l : Location} {d v : Document} {items : List Document} {i : Nat}
    {a : ArraySchema} (node : set.node? id = some (.array a)) (present : items[i]? = some v)
    (ne : ¬(v = .null ∧ a.nullableElements = true)) (below : Visits set a.element v id' l d) :
    Visits set id (.array items) id' (.index i :: l) d

/-- **The violations** of a document, for a node. -/
inductive Violates (set : SchemaSet) (id : NodeId) (d : Document) : Finding → Prop where
  /-- What is visited departs from its node. -/
  | departs {id' : NodeId} {l : Location} {d' : Document} {n : Node} {departure : Departure}
    (visits : set.Visits id d id' l d') (node : set.node? id' = some n)
    (h : n.Departs d' departure) : Violates set id d ⟨l, departure⟩
  /-- A field of an object that is visited is null and must not be. -/
  | null {id' : NodeId} {l : Location} {members : List (String × Document)} {o : ObjectSchema}
    {f : FieldSchema} (visits : set.Visits id d id' l (.object members))
    (node : set.node? id' = some (.object o)) (declared : f ∈ o.fields)
    (present : Keyed.find? f.name members = some .null) (h : f.nullable = false) :
    Violates set id d ⟨l ++ [.field f.name], .wrongKind .null⟩

variable {set : SchemaSet} {id id' id'' : NodeId} {l l' : Location} {d d' d'' : Document}
variable {x : Finding} {r : Registry} {m : Mode} {e : TypeExpr} {least : Option Nat}
variable {pattern : Option String}

/-! ### What is visited -/

/-- What is visited from a place that is visited is visited. -/
theorem Visits.trans (h : set.Visits id d id' l d') (h' : set.Visits id' d' id'' l' d'') :
    set.Visits id d id'' (l ++ l') d'' := by
  induction h with
  | here => exact h'
  | field node declared present ne _ ih => exact .field node declared present ne (ih h')
  | element node present ne _ ih => exact .element node present ne (ih h')

/-- **A place is visited in one way only**: with one node, and with what stands there. -/
theorem Visits.unique (hs : set.Sound r m) (h : set.Visits id d id' l d')
    (h' : set.Visits id d id'' l d'') : id' = id'' ∧ d' = d'' := by
  induction h with
  | here =>
    cases h'
    exact ⟨rfl, rfl⟩
  | @field _ _ _ _ _ _ _ f node declared present _ _ ih =>
    generalize hname : f.name = name at h'
    cases h' with
    | field node' declared' present' _ below' =>
      obtain rfl := Node.object.inj (Option.some.inj (node.symm.trans node'))
      -- no two fields of an object have one name
      obtain rfl := List.inj_on_of_nodup_map (hs.nodup node) declared declared' hname
      obtain rfl := Option.some.inj (present.symm.trans present')
      exact ih below'
  | element node present _ _ ih =>
    cases h' with
    | element node' present' _ below' =>
      obtain rfl := Node.array.inj (Option.some.inj (node.symm.trans node'))
      obtain rfl := Option.some.inj (present.symm.trans present')
      exact ih below'

/-- The node of a place that is visited stands for a type expression. -/
theorem Visits.standsFor (hs : set.Sound r m) (h : set.Visits id d id' l d')
    (hid : StandsFor m set.nodes e least pattern id) :
    ∃ e least pattern, StandsFor m set.nodes e least pattern id' := by
  induction h generalizing e least pattern with
  | here => exact ⟨e, least, pattern, hid⟩
  | field node declared _ _ _ ih =>
    obtain ⟨f, -, hf⟩ := hs.exists_describes node declared
    exact ih hf.schema
  | element node _ _ _ ih =>
    obtain ⟨element, helement⟩ := hid.element node
    exact ih helement

/-! ### Violations are found -/

/-- A departure from a node is found there. -/
theorem mem_findings_of_departs (hs : set.Sound r m) {n : Node} {departure : Departure}
    (node : set.node? id = some n) (h : n.Departs d departure) :
    ⟨[], departure⟩ ∈ set.findings id [] d := by
  cases h with
  | noObject h =>
    rw [findings_object_of_ne node h]
    exact List.mem_singleton_self _
  | noArray h =>
    rw [findings_array_of_ne node h]
    exact List.mem_singleton_self _
  | missing h =>
    obtain ⟨hne, rfl⟩ := (ObjectSchema.misses_iff (hs.nodup node)).mp h
    rw [findings_object node]
    exact List.mem_append_right _ (mem_objectFindings.mpr ⟨hne, rfl⟩)
  | tooShort h hlt =>
    rw [findings_array node]
    exact List.mem_append_left _ (mem_arrayFindings.mpr ⟨_, h, hlt, rfl⟩)
  | @noMatch s d p h hd =>
    rw [findings_scalar node]
    refine mem_scalarFindings.mpr (Or.inl ⟨?_, rfl⟩)
    rw [← Bool.not_eq_true, ScalarSchema.patternHolds_iff]
    exact fun hall => hd (hall p h)
  | wrongKind h hd =>
    rw [findings_scalar node]
    exact mem_scalarFindings.mpr (Or.inr ⟨ScalarSchema.patternHolds_iff.mpr h,
      ScalarKind.accepts_eq_false_iff.mpr hd, rfl⟩)

/-- **What is found at a place that is visited** is found, moved there, in the whole. -/
theorem Visits.mem_findings (h : set.Visits id d id' l d') (hx : x ∈ set.findings id' [] d') :
    x.under l ∈ set.findings id [] d := by
  induction h with
  | here => exact hx
  | field node declared present ne _ ih =>
    rw [findings_object node]
    refine List.mem_append_left _ (List.mem_flatMap.mpr ⟨_, declared, ?_⟩)
    exact mem_valueFindings.mpr (Or.inr ⟨_, present, ne, _, ih hx, rfl⟩)
  | @element _ _ _ _ v _ i _ node present ne _ ih =>
    rw [findings_array node, elementFindings_eq_flatMap]
    refine List.mem_append_right _ (List.mem_flatMap.mpr ⟨(v, i), ?_, ?_⟩)
    · exact List.mk_mem_zipIdx_iff_getElem?.mpr present
    · exact mem_itemFindings.mpr ⟨ne, _, ih hx, rfl⟩

/-- Every violation is found. -/
theorem Violates.mem_findings (hs : set.Sound r m) (h : set.Violates id d x) :
    x ∈ set.findings id [] d := by
  cases h with
  | @departs _ l _ _ departure visits node h =>
    have hx := visits.mem_findings (mem_findings_of_departs hs node h)
    rwa [Finding.under, List.append_nil] at hx
  | @null id' l members o f visits node declared present h =>
    refine visits.mem_findings (x := ⟨[.field f.name], .wrongKind .null⟩) ?_
    rw [findings_object node]
    refine List.mem_append_left _ (List.mem_flatMap.mpr ⟨f, declared, ?_⟩)
    exact mem_valueFindings.mpr (Or.inl ⟨present, h, rfl⟩)

/-! ### What is found is a violation -/

theorem Violates.field {o : ObjectSchema} {members : List (String × Document)} {f : FieldSchema}
    (node : set.node? id = some (.object o)) (declared : f ∈ o.fields)
    (present : Keyed.find? f.name members = some d) (ne : d ≠ .null)
    (h : set.Violates f.schema d x) :
    set.Violates id (.object members) (x.under [.field f.name]) := by
  cases h with
  | departs visits node' h => exact .departs (.field node declared present ne visits) node' h
  | null visits node' declared' present' h =>
    exact .null (.field node declared present ne visits) node' declared' present' h

theorem Violates.element {a : ArraySchema} {items : List Document} {i : Nat}
    (node : set.node? id = some (.array a)) (present : items[i]? = some d)
    (ne : ¬(d = .null ∧ a.nullableElements = true)) (h : set.Violates a.element d x) :
    set.Violates id (.array items) (x.under [.index i]) := by
  cases h with
  | departs visits node' h => exact .departs (.element node present ne visits) node' h
  | null visits node' declared' present' h =>
    exact .null (.element node present ne visits) node' declared' present' h

/-- Whatever is found is a violation. -/
theorem violates_of_mem_findings (hs : set.Sound r m) (hx : x ∈ set.findings id [] d) :
    set.Violates id d x := by
  induction d using Document.induction_children generalizing id x with
  | step d ih =>
  rcases hnode : set.node? id with _ | (o | a | s)
  · rw [findings_of_none hnode] at hx
    exact absurd hx List.not_mem_nil
  · rcases d.eq_object_or with ⟨members, rfl⟩ | hne
    · rw [findings_object hnode, List.mem_append, List.mem_flatMap] at hx
      rcases hx with ⟨f, hf, hx⟩ | hx
      · rcases mem_valueFindings.mp hx with ⟨hv, hnull, rfl⟩ | ⟨v, hv, hne, y, hy, rfl⟩
        · exact .null .here hnode hf hv hnull
        · exact .field hnode hf hv hne (ih v (.value hv) hy)
      · obtain ⟨hne, rfl⟩ := mem_objectFindings.mp hx
        exact .departs .here hnode
          (.missing ((ObjectSchema.misses_iff (hs.nodup hnode)).mpr ⟨hne, rfl⟩))
    · rw [findings_object_of_ne hnode hne, List.mem_singleton] at hx
      subst hx
      exact .departs .here hnode (.noObject hne)
  · rcases d.eq_array_or with ⟨items, rfl⟩ | hne
    · rw [findings_array hnode, List.mem_append, elementFindings_eq_flatMap, List.mem_flatMap] at hx
      rcases hx with hx | ⟨⟨v, i⟩, hp, hx⟩
      · obtain ⟨n, hn, hlt, rfl⟩ := mem_arrayFindings.mp hx
        exact .departs .here hnode (.tooShort hn hlt)
      · obtain ⟨hskip, y, hy, rfl⟩ := mem_itemFindings.mp hx
        exact .element hnode (List.mk_mem_zipIdx_iff_getElem?.mp hp) hskip
          (ih v (.item (List.fst_mem_of_mem_zipIdx hp)) hy)
    · rw [findings_array_of_ne hnode hne, List.mem_singleton] at hx
      subst hx
      exact .departs .here hnode (.noArray hne)
  · rw [findings_scalar hnode] at hx
    rcases mem_scalarFindings.mp hx with ⟨hpattern, rfl⟩ | ⟨hpattern, hkind, rfl⟩
    · obtain ⟨p, hp, hd⟩ : ∃ p, s.pattern = some p ∧
          ¬∃ text, d = .string text ∧ p.isMatch text = true := by
        rw [← Bool.not_eq_true, ScalarSchema.patternHolds_iff] at hpattern
        simpa only [not_forall, exists_prop] using hpattern
      exact .departs .here hnode (.noMatch hp hd)
    · exact .departs .here hnode (.wrongKind (ScalarSchema.patternHolds_iff.mp hpattern)
        (ScalarKind.accepts_eq_false_iff.mp hkind))

/-- **The walk finds the violations and nothing else.** -/
theorem mem_findings_iff (hs : set.Sound r m) : x ∈ set.findings id [] d ↔ set.Violates id d x :=
  ⟨violates_of_mem_findings hs, fun h => h.mem_findings hs⟩

end SchemaSet

end Conformance

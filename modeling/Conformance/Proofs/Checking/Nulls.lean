import Conformance.Proofs.Checking.Shown
import Conformance.Proofs.Checking.Violations
import Conformance.Proofs.Generation.History

/-!
# Nulls where nothing may be null

In the strict mode nothing may be null unless its description says so. Where no description does, a
null in a declared field is always reported, whatever the type of the field. A null among the
elements of an array is not treated like this: it is checked against the type of the elements, and
so it is reported unless they may be anything. Of an array of anything, a null is an element like
any other.

* `Conformance.SchemaSet.Covers` – the places that a schema covers: declared fields and elements;
* `Conformance.SchemaSet.LeavesOpen` – the elements of arrays of anything;
* `Conformance.SchemaSet.Covers.found_iff` – a null in a place that is covered is found, unless the
  place is left open;
* `Conformance.Generator.reports_null` – what this means for the schema of a type expression.
-/

namespace Conformance

namespace SchemaSet

variable {set : SchemaSet} {id id' : NodeId} {l : Location} {d : Document}
variable {r : Registry} {m : Mode} {e : TypeExpr} {least : Option Nat} {pattern : Option String}

/-! ### Places -/

/-- **The places that a schema covers** in a document, each with what stands there. -/
inductive Covers (set : SchemaSet) (id : NodeId) (d : Document) : Location → Document → Prop where
  /-- A declared field of an object that is visited with an object node. -/
  | field {id' : NodeId} {l : Location} {v : Document} {members : List (String × Document)}
    {o : ObjectSchema} {f : FieldSchema} (visits : set.Visits id d id' l (.object members))
    (node : set.node? id' = some (.object o)) (declared : f ∈ o.fields)
    (present : Keyed.find? f.name members = some v) : Covers set id d (l ++ [.field f.name]) v
  /-- An element of an array that is visited with an array node. -/
  | element {id' : NodeId} {l : Location} {v : Document} {items : List Document} {i : Nat}
    {a : ArraySchema} (visits : set.Visits id d id' l (.array items))
    (node : set.node? id' = some (.array a)) (present : items[i]? = some v) :
    Covers set id d (l ++ [.index i]) v

/-- **A place is left open** if it is that of an element of an array that is visited, and the
elements of the array may be anything. -/
def LeavesOpen (set : SchemaSet) (id : NodeId) (d : Document) (l : Location) : Prop :=
  ∃ (id' : NodeId) (above : Location) (i : Nat) (items : List Document) (a : ArraySchema),
    l = above ++ [.index i] ∧ set.Visits id d id' above (.array items) ∧
      set.node? id' = some (.array a) ∧ set.node? a.element = some (.scalar ⟨.any, none⟩)

/-! ### Nulls -/

/-- **A null has the wrong kind** for a node without constraints, unless that asks for nothing. -/
theorem findings_null (h : StandsFor m set.nodes e none none id) :
    set.node? id = some (.scalar ⟨.any, none⟩) ∨
      set.findings id [] .null = [⟨[], .wrongKind .null⟩] := by
  cases e with
  | scalar kind =>
    obtain ⟨p, hp, hnode⟩ := h
    obtain rfl := Option.map_eq_none_iff.mp hp
    by_cases hkind : kind = .any
    · subst hkind
      exact Or.inl hnode
    · refine Or.inr ((findings_scalar hnode).trans ?_)
      cases kind with
      | any => exact absurd rfl hkind
      | _ => rfl
  | array element =>
    obtain ⟨elementId, -, hnode, -⟩ := h
    exact Or.inr (findings_array_of_ne hnode (by simp))
  | named name =>
    obtain ⟨fields, hnode⟩ := h
    exact Or.inr (findings_object_of_ne hnode (by simp))

/-- Where the elements of arrays must not be null, a null among them is visited. -/
theorem Visits.null_element (hs : set.Sound r .allNonNullable) {items : List Document} {i : Nat}
    {a : ArraySchema} (visits : set.Visits id d id' l (.array items))
    (node : set.node? id' = some (.array a)) (present : items[i]? = some .null) :
    set.Visits id d a.element (l ++ [.index i]) .null := by
  have hnullable : a.nullableElements = false := (hs.fits id' _ node).nullable
  exact visits.trans (.element node present (by simp [hnullable]) .here)

/-- A null is not found where it is visited as an element that may be anything. -/
theorem Visits.not_found (hs : set.Sound r m) {i : Nat}
    (visits : set.Visits id d id' (l ++ [.index i]) .null)
    (node : set.node? id' = some (.scalar ⟨.any, none⟩)) :
    (⟨l ++ [.index i], .wrongKind .null⟩ : Finding) ∉ set.findings id [] d := by
  intro hfound
  have hviolates := violates_of_mem_findings hs hfound
  generalize hl : l ++ [.index i] = place at hviolates visits
  cases hviolates with
  | departs visits' node' hdeparts =>
    obtain ⟨rfl, rfl⟩ := visits.unique hs visits'
    obtain rfl := Option.some.inj (node.symm.trans node')
    cases hdeparts with
    | wrongKind _ hkind => exact hkind .any
  | null => exact absurd (List.append_inj' hl rfl).2 (by simp)

/-- **A null in a place that is covered is found, unless the place is left open.** -/
theorem Covers.found_iff (hs : set.Sound r .allNonNullable)
    (hr : ∀ f, r.Describes f → Mode.allNonNullable.nullable f = false)
    (hid : StandsFor .allNonNullable set.nodes e least pattern id)
    (h : set.Covers id d l .null) :
    ⟨l, .wrongKind .null⟩ ∈ set.findings id [] d ↔ ¬set.LeavesOpen id d l := by
  cases h with
  | @field id' l _ members o s visits node declared present =>
    have hnullable : s.nullable = false := by
      obtain ⟨f, hf, hstands⟩ := hs.exists_describes node declared
      rw [hstands.nullable]
      exact hr f hf
    refine iff_of_true ((Violates.null visits node declared present hnullable).mem_findings hs) ?_
    rintro ⟨-, above, i, -, -, hl, -⟩
    exact absurd (List.append_inj' hl rfl).2 (by simp)
  | @element id' l _ items i a visits node present =>
    have hvisits := visits.null_element hs node present
    constructor
    · rintro hfound ⟨id'', above, j, items', a', hl, visits', node', anything⟩
      obtain ⟨rfl, -⟩ := List.append_inj' hl rfl
      obtain ⟨rfl, -⟩ := visits.unique hs visits'
      obtain rfl := Node.array.inj (Option.some.inj (node.symm.trans node'))
      exact hvisits.not_found hs anything hfound
    · intro hopen
      obtain ⟨_, _, _, hstands⟩ := visits.standsFor hs hid
      obtain ⟨element, helement⟩ := hstands.element node
      rcases findings_null helement with anything | hfindings
      · exact absurd ⟨id', l, i, items, a, rfl, visits, node, anything⟩ hopen
      · have hfound := hvisits.mem_findings (x := ⟨[], .wrongKind .null⟩)
          (hfindings ▸ List.mem_singleton_self _)
        rwa [Finding.under, List.append_nil] at hfound

end SchemaSet

/-! ### The schema of a type expression -/

namespace Generator

/-- **In the strict mode, a null in a declared field or among the elements of an array is reported
at its place**, if no description allows nulls, unless it is an element that may be anything: a
violation shows the path of the place, the wrong kind and the null. So a document without violations
has nulls at places that are left open only. -/
theorem reports_null (r : Registry)
    (hr : ∀ f, r.Describes f → Mode.allNonNullable.nullable f = false) (calls : List Call)
    (e : TypeExpr) (later : List Call) {s : Schema}
    (hs : ((new r .allNonNullable).run calls).2.schemaOf e later = .ok s) (d : Document) :
    (∀ l, s.set.Covers s.root d l .null →
        (⟨l, .wrongKind .null⟩ ∈ s.findings d ↔ ¬s.set.LeavesOpen s.root d l)) ∧
      List.Forall₂ Finding.ShownBy (s.findings d) (s.validate d) ∧
      (∀ l, s.set.Covers s.root d l .null → ¬s.set.LeavesOpen s.root d l →
        ∃ v ∈ s.validate d, Finding.ShownBy ⟨l, .wrongKind .null⟩ v) ∧
      (s.validate d = [] → ∀ l, s.set.Covers s.root d l .null → s.set.LeavesOpen s.root d l) := by
  rcases schemaOf_run r .allNonNullable calls e later with
    ⟨s', -, hs', -, hsound, hstands⟩ | ⟨error, herror, -⟩
  · obtain rfl : s = s' := by simpa using hs.symm.trans hs'
    have hfound : ∀ l, s.set.Covers s.root d l .null →
        (⟨l, .wrongKind .null⟩ ∈ s.findings d ↔ ¬s.set.LeavesOpen s.root d l) :=
      fun l hl => hl.found_iff hsound hr hstands
    have hreported : ∀ l, s.set.Covers s.root d l .null → ¬s.set.LeavesOpen s.root d l →
        ∃ v ∈ s.validate d, Finding.ShownBy ⟨l, .wrongKind .null⟩ v := fun l hl hclosed =>
      Schema.exists_shownBy ((hfound l hl).mpr hclosed)
    refine ⟨hfound, Schema.forall₂_shownBy, hreported, fun hvalidate l hl => ?_⟩
    by_contra hclosed
    obtain ⟨v, hv, -⟩ := hreported l hl hclosed
    rw [hvalidate] at hv
    exact absurd hv List.not_mem_nil
  · exact absurd (hs.symm.trans herror) (by simp)

/-- A type with an array of anything. -/
def openTypes : Registry := ⟨[("T", ⟨"T", [.plain "xs" (.array (.scalar .any))]⟩)]⟩

/-- Its schema in the strict mode. -/
def openSchema : Schema :=
  ⟨⟨[.object ⟨"T", [⟨"xs", 2, true, false⟩]⟩, .scalar ⟨.any, none⟩, .array ⟨1, none, false⟩],
    [("T", 0)]⟩, 0⟩

/-- A document with a null in the array. -/
def openDocument : Document := .object [("xs", .array [.null])]

theorem nullable_openTypes (f : FieldDescription) (hf : openTypes.Describes f) :
    Mode.allNonNullable.nullable f = false := by
  obtain ⟨name, t, ht, hmem⟩ := hf
  obtain ⟨-, rfl⟩ : name = "T" ∧ t = _ := by simpa [openTypes] using Keyed.mem_of_find? ht
  rw [List.mem_singleton.mp hmem]
  rfl

theorem schemaOf_openTypes :
    ((new openTypes .allNonNullable).run []).2.schemaOf (.named "T") [] = .ok openSchema := by
  simp only [run, schemaOf, generateExpr, Generating.exprNode_eq_exprNodeWithin_size]
  rfl

theorem validate_openDocument : openSchema.validate openDocument = [] := by
  with_unfolding_all rfl

/-- Nothing is found in this document, although it has a null among the elements of an array. -/
theorem covers_null_openDocument :
    (∀ f, openTypes.Describes f → Mode.allNonNullable.nullable f = false) ∧
      ((new openTypes .allNonNullable).run []).2.schemaOf (.named "T") [] = .ok openSchema ∧
      openSchema.validate openDocument = [] ∧
      openSchema.set.Covers openSchema.root openDocument [.field "xs", .index 0] .null := by
  refine ⟨nullable_openTypes, schemaOf_openTypes, validate_openDocument, ?_⟩
  have harray : openSchema.set.Visits openSchema.root openDocument 2 [.field "xs"]
      (.array [.null]) :=
    .field (o := ⟨"T", [⟨"xs", 2, true, false⟩]⟩) (f := ⟨"xs", 2, true, false⟩) rfl
      List.mem_cons_self rfl (by simp) .here
  exact .element (a := ⟨1, none, false⟩) (i := 0) harray rfl rfl

/-- A document with a null in place of the array. -/
def emptyDocument : Document := .object [("xs", .null)]

/-- Of the two documents, the null among the elements is left open, and the null in place of the
array is reported there. -/
theorem reports_null_openTypes :
    (∀ f, openTypes.Describes f → Mode.allNonNullable.nullable f = false) ∧
      ((new openTypes .allNonNullable).run []).2.schemaOf (.named "T") [] = .ok openSchema ∧
      openSchema.validate openDocument = [] ∧
      (∀ l, openSchema.set.Covers openSchema.root openDocument l .null →
        openSchema.set.LeavesOpen openSchema.root openDocument l) ∧
      openSchema.set.Covers openSchema.root emptyDocument [.field "xs"] .null ∧
      ∃ v ∈ openSchema.validate emptyDocument,
        Finding.ShownBy ⟨[.field "xs"], .wrongKind .null⟩ v := by
  have hcovers : openSchema.set.Covers openSchema.root emptyDocument [.field "xs"] .null :=
    .field (o := ⟨"T", [⟨"xs", 2, true, false⟩]⟩) (f := ⟨"xs", 2, true, false⟩) .here rfl
      List.mem_cons_self rfl
  -- a place that is left open is that of an element
  have hclosed : ¬openSchema.set.LeavesOpen openSchema.root emptyDocument [.field "xs"] := by
    rintro ⟨-, above, i, -, -, hl, -⟩
    have hsplit : ([] : Location) ++ [.field "xs"] = above ++ [.index i] := hl
    exact absurd (List.append_inj' hsplit rfl).2 (by simp)
  have hopen := reports_null openTypes nullable_openTypes [] (.named "T") [] schemaOf_openTypes
  obtain ⟨-, -, -, hleft⟩ := hopen openDocument
  obtain ⟨-, -, hreported, -⟩ := hopen emptyDocument
  exact ⟨nullable_openTypes, schemaOf_openTypes, validate_openDocument,
    hleft validate_openDocument, hcovers, hreported _ hcovers hclosed⟩

end Generator

end Conformance

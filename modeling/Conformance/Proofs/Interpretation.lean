import Conformance.Proofs.Checking.Shown
import Conformance.Proofs.Checking.Walk
import Conformance.Proofs.Generation.Evaluation
import Conformance.Proofs.Generation.Runs

/-!
# Checking against the descriptions themselves

What a document does wrong can be read off the descriptions, with no nodes at all: a named type is
looked up each time it is met, and a pattern is compiled each time a text is met. This reading
(`Conformance.Registry.violations`) knows nothing of the table that a generator makes. Still, the
two agree, whatever else the generator was asked before and after.

* `Conformance.Registry.violations` – the violations of a document, from the descriptions;
* `Conformance.SchemaSet.map_findings_eq_violations` – a node that stands for a type expression
  finds the same;
* `Conformance.Generator.validate_eq_interpret` – the schema of a type expression that a run was
  asked for.
-/

namespace Conformance

/-! ### The reading -/

/-- Whether a document is a text that matches a pattern, which is compiled for it. -/
def Document.matchesPattern (d : Document) (source : String) : Bool :=
  match d, Pattern.compile? source with
  | .string text, some p => p.isMatch text
  | _, _ => false

namespace Registry

/-- The violations of a scalar. The kind counts only where the pattern, if any, matches. -/
def scalarViolations (kind : ScalarKind) (pattern : Option String) (path : String) (d : Document) :
    List Violation :=
  if pattern.all d.matchesPattern then
    if kind.accepts d then [] else [.typeMismatch path d]
  else [.pattern path d]

/-- The required fields without a key, as one violation. -/
def requiredViolations (m : Mode) (t : ObjectType) (path : String)
    (members : List (String × Document)) : List Violation :=
  let missing := t.fields.filter fun f => (m.resolve f).1 && (Keyed.find? f.name members).isNone
  if missing.isEmpty then [] else [.required path (missing.map (·.name))]

/-- The violation of an array with less than the least number of elements. -/
def lengthViolations (least : Option Nat) (path : String) (items : List Document) :
    List Violation :=
  if items.length < least.getD 0 then [.minLength path items.length] else []

mutual

/-- **The violations of a document**, read off the descriptions: of a value of this type, with a
least number of elements if it is an array and a pattern if it is a scalar. -/
def violations (r : Registry) (m : Mode) (e : TypeExpr) (least : Option Nat)
    (pattern : Option String) (path : String) (d : Document) : List Violation :=
  match e with
  | .scalar kind => scalarViolations kind pattern path d
  | .array element =>
    match d with
    | .array items =>
      lengthViolations least path items ++ elementViolations r m element path 0 items
    | d => [.typeMismatch path d]
  | .named name =>
    match r.find? name with
    | none => []
    | some t =>
      match d with
      | .object members =>
        (t.fields.flatMap fun f =>
          match _h : Keyed.find? f.name members with
          | none => []
          | some .null =>
            if (m.resolve f).2 then []
            else [.typeMismatch (Segment.extend path (.field f.name)) .null]
          | some value =>
            violations r m f.type f.effectiveMinLength f.pattern
              (Segment.extend path (.field f.name)) value)
          ++ requiredViolations m t path members
      | d => [.typeMismatch path d]
termination_by sizeOf d
decreasing_by
  · simp only [Document.array.sizeOf_spec]
    omega
  · have := Keyed.sizeOf_find?_lt _h
    simp only [Document.object.sizeOf_spec]
    omega

/-- The violations of the elements of an array, counted from `i`. They are not constrained. -/
def elementViolations (r : Registry) (m : Mode) (element : TypeExpr) (path : String) (i : Nat)
    (items : List Document) : List Violation :=
  match items with
  | [] => []
  | item :: rest =>
    (if item.isNull && m.nullableElements then []
      else violations r m element none none (Segment.extend path (.index i)) item)
      ++ elementViolations r m element path (i + 1) rest
termination_by sizeOf items

end

/-- **The violations of a document** for a type expression without constraints, read off the
descriptions. -/
def interpret (r : Registry) (m : Mode) (e : TypeExpr) (d : Document) : List Violation :=
  r.violations m e none none "" d

end Registry

/-! ### One step of the reading -/

namespace Registry

variable {r : Registry} {m : Mode} {least : Option Nat} {pattern : Option String} {path : String}
variable {d : Document} {name : String} {t : ObjectType} {element : TypeExpr}

/-- The violations of a field, given what its key holds. -/
def valueViolations (r : Registry) (m : Mode) (f : FieldDescription) (path : String) :
    Option Document → List Violation
  | none => []
  | some .null =>
    if m.nullable f then [] else [.typeMismatch (Segment.extend path (.field f.name)) .null]
  | some value =>
    r.violations m f.type f.effectiveMinLength f.pattern (Segment.extend path (.field f.name)) value

theorem valueViolations_of_ne {f : FieldDescription} (h : d ≠ .null) :
    r.valueViolations m f path (some d) =
      r.violations m f.type f.effectiveMinLength f.pattern (Segment.extend path (.field f.name))
        d := by
  cases d with
  | null => exact absurd rfl h
  | _ => rfl

theorem violations_scalar {kind : ScalarKind} :
    r.violations m (.scalar kind) least pattern path d = scalarViolations kind pattern path d := by
  rw [violations.eq_def]

theorem violations_array {items : List Document} :
    r.violations m (.array element) least pattern path (.array items) =
      lengthViolations least path items ++ r.elementViolations m element path 0 items := by
  rw [violations.eq_def]

theorem violations_array_of_ne (hd : ∀ items, d ≠ .array items) :
    r.violations m (.array element) least pattern path d = [.typeMismatch path d] := by
  rw [violations.eq_def]
  cases d with
  | array items => exact absurd rfl (hd items)
  | _ => rfl

theorem violations_named {members : List (String × Document)} (ht : r.find? name = some t) :
    r.violations m (.named name) least pattern path (.object members) =
      (t.fields.flatMap fun f => r.valueViolations m f path (Keyed.find? f.name members)) ++
        requiredViolations m t path members := by
  rw [violations.eq_def]
  simp only [ht]
  refine congrArg (· ++ requiredViolations m t path members) ?_
  refine congrArg (List.flatMap · t.fields) (funext fun f => ?_)
  split
  · rename_i hfind
    rw [hfind]
    rfl
  · rename_i hfind
    rw [hfind]
    rfl
  · rename_i value hnull hfind
    rw [hfind, valueViolations_of_ne hnull]

theorem violations_named_of_ne (ht : r.find? name = some t) (hd : ∀ members, d ≠ .object members) :
    r.violations m (.named name) least pattern path d = [.typeMismatch path d] := by
  rw [violations.eq_def]
  simp only [ht]

/-- The violations of elements, counted from a number on, are those of each in turn. -/
theorem elementViolations_eq_flatMap {i : Nat} {items : List Document} :
    r.elementViolations m element path i items =
      (items.zipIdx i).flatMap fun p =>
        if p.1.isNull && m.nullableElements then []
        else r.violations m element none none (Segment.extend path (.index p.2)) p.1 := by
  induction items generalizing i with
  | nil => rw [elementViolations.eq_def, List.zipIdx_nil, List.flatMap_nil]
  | cons d rest ih =>
    rw [elementViolations.eq_def, List.zipIdx_cons, List.flatMap_cons, ← ih]

end Registry

/-! ### The nodes find the same -/

namespace SchemaSet

variable {r : Registry} {m : Mode} {set : SchemaSet} {l : Location} {d : Document}

/-- Lists whose entries belong together entry by entry yield the same, if entries that belong
together do. -/
theorem flatMap_eq_of_forall₂ {α β γ : Type} {R : α → β → Prop} {as : List α} {bs : List β}
    {f : α → List γ} {g : β → List γ} (h : List.Forall₂ R as bs)
    (hfg : ∀ a b, R a b → g b = f a) : bs.flatMap g = as.flatMap f := by
  induction h with
  | nil => rfl
  | cons hab _ ih => rw [List.flatMap_cons, List.flatMap_cons, hfg _ _ hab, ih]

theorem map_scalarFindings {kind : ScalarKind} {p : Option Pattern} :
    (ScalarSchema.findings ⟨kind, p⟩ l d).map (·.toViolation) =
      Registry.scalarViolations kind (p.map (·.source)) l.path d := by
  have hholds : ScalarSchema.patternHolds ⟨kind, p⟩ d =
      (p.map (·.source)).all d.matchesPattern := by
    cases p with
    | none => rfl
    | some p =>
      cases d with
      | string text => simp [ScalarSchema.patternHolds, Document.matchesPattern,
          Document.asString?, Pattern.compile?_source]
      | _ => rfl
  unfold ScalarSchema.findings Registry.scalarViolations
  rw [hholds]
  cases (p.map (·.source)).all d.matchesPattern <;> cases kind.accepts d <;> rfl

theorem requiredFields_eq {descriptions : List FieldDescription} {fields : List FieldSchema}
    {name : String} (h : List.Forall₂ (FieldStandsFor m set.nodes) descriptions fields) :
    ObjectSchema.requiredFields ⟨name, fields⟩ = (descriptions.filter m.required).map (·.name) := by
  unfold ObjectSchema.requiredFields
  induction h with
  | nil => rfl
  | cons hf _ ih =>
    rw [List.filter_cons, List.filter_cons, hf.required]
    split
    · rw [List.map_cons, List.map_cons, hf.name, ih]
    · exact ih

/-- The fields that are required and have no key are the same, whether they are taken from the node
or from the description. -/
theorem missingFields_eq {t : ObjectType} {fields : List FieldSchema} {name : String}
    {members : List (String × Document)} (h : FieldsStandFor m set.nodes t fields) :
    ObjectSchema.missingFields ⟨name, fields⟩ members =
      (t.fields.filter fun f =>
        (m.resolve f).1 && (Keyed.find? f.name members).isNone).map (·.name) := by
  rw [ObjectSchema.missingFields, requiredFields_eq h.each, List.filter_map, List.filter_filter]
  refine congrArg (List.map _) (List.filter_congr fun f _ => ?_)
  rw [Bool.and_comm, Function.comp_apply, Keyed.contains, Option.not_isSome]
  rfl

theorem map_objectFindings {t : ObjectType} {fields : List FieldSchema} {name : String}
    {members : List (String × Document)} (h : FieldsStandFor m set.nodes t fields) :
    (ObjectSchema.ownFindings ⟨name, fields⟩ l members).map (·.toViolation) =
      Registry.requiredViolations m t l.path members := by
  unfold ObjectSchema.ownFindings Registry.requiredViolations
  rw [missingFields_eq h]
  cases t.fields.filter fun f => (m.resolve f).1 && (Keyed.find? f.name members).isNone with
  | nil => rfl
  | cons f rest => rfl

theorem map_arrayFindings {a : ArraySchema} {items : List Document} :
    (a.ownFindings l items).map (·.toViolation) =
      Registry.lengthViolations a.minLength l.path items := by
  unfold ArraySchema.ownFindings Registry.lengthViolations
  cases a.minLength with
  | none => rfl
  | some n =>
    rw [Option.getD_some]
    dsimp only
    split
    · rfl
    · rfl

/-- **A node that stands for a type expression finds what the descriptions ask for.** -/
theorem map_findings_eq_violations (hs : set.Sound r m) {e : TypeExpr} {least : Option Nat}
    {pattern : Option String} {id : NodeId} (h : StandsFor m set.nodes e least pattern id) :
    (set.findings id l d).map (·.toViolation) = r.violations m e least pattern l.path d := by
  -- the descriptions and the nodes may be cyclic, and so the induction is on the document
  induction d using Document.induction_children generalizing e least pattern id l with
  | step d ih =>
  cases e with
  | scalar kind =>
    obtain ⟨p, rfl, hnode⟩ := h
    rw [findings_scalar hnode, map_scalarFindings, Registry.violations_scalar]
  | array element =>
    obtain ⟨elementId, -, hnode, helement⟩ := h
    rcases d.eq_array_or with ⟨items, rfl⟩ | hne
    · rw [findings_array hnode, Registry.violations_array, List.map_append, map_arrayFindings,
        elementFindings_eq_flatMap, Registry.elementViolations_eq_flatMap, List.map_flatMap]
      refine congrArg (_ ++ ·) (List.flatMap_congr fun p hp => ?_)
      have hchild : p.1.Child (.array items) := .item (List.fst_mem_of_mem_zipIdx hp)
      unfold itemFindings
      split
      · rfl
      · rw [ih p.1 hchild helement, Location.path_concat]
    · rw [findings_array_of_ne hnode hne, Registry.violations_array_of_ne hne]
      rfl
  | named name =>
    obtain ⟨fields, hnode⟩ := h
    obtain ⟨t, ht, hfields⟩ := hs.object id _ hnode
    rcases d.eq_object_or with ⟨members, rfl⟩ | hne
    · rw [findings_object hnode, Registry.violations_named ht, List.map_append,
        map_objectFindings hfields, List.map_flatMap]
      refine congrArg (· ++ _) (flatMap_eq_of_forall₂ hfields.each fun f s hfs => ?_)
      rw [hfs.name]
      cases hv : Keyed.find? f.name members with
      | none => rfl
      | some v =>
        by_cases hnull : v = .null
        · subst hnull
          rw [valueFindings_null, hfs.nullable, hfs.name, Registry.valueViolations,
            ← Location.path_concat]
          split
          · rfl
          · rfl
        · rw [valueFindings_of_ne hnull, Registry.valueViolations_of_ne hnull,
            ih v (.value hv) hfs.schema, hfs.name, Location.path_concat]
    · rw [findings_object_of_ne hnode hne, Registry.violations_named_of_ne ht hne]
      rfl

end SchemaSet

/-! ### Whatever else was asked -/

namespace Generator

/-- **The schema of a type expression asks for what the descriptions say.** Whatever a generator was
called for, and however its calls ended: if it answered a node for a type expression, the finished
table has a schema there, and it finds in every document what is read off the descriptions. -/
theorem validate_eq_interpret {r : Registry} {m : Mode} {calls : List Call} {e : TypeExpr}
    {id : NodeId}
    (h : (Call.generateExpr e, Answer.node (.ok id)) ∈ ((new r m).run calls).1) (d : Document) :
    ∃ s, ((new r m).run calls).2.finish.schema? id = some s ∧ s.validate d = r.interpret m e d := by
  have hstands := standsFor_of_mem_run h
  refine ⟨⟨((new r m).run calls).2.finish, id⟩, ?_, ?_⟩
  · unfold SchemaSet.schema? SchemaSet.node?
    rw [List.getElem?_eq_getElem hstands.lt]
    rfl
  · exact SchemaSet.map_findings_eq_violations (sound_finish_run r m calls) hstands

/-- A type that refers to itself, and one that refers to it and then to a type that is missing. -/
def trees : Registry :=
  ⟨[("Broken", ⟨"Broken", [.plain "tree" (.named "Tree"), .plain "other" (.named "Missing")]⟩),
    ("Tree", ⟨"Tree", [.plain "label" (.scalar .string),
      { FieldDescription.plain "children" (.array (.named "Tree")) with nonEmpty := true }]⟩)]⟩

/-- Calls of which the first fails, after it has made nodes for the type that the next asks for. -/
def treeCalls : List Call :=
  [.generate "Broken", .generateExpr (.array (.named "Tree")), .generateAll]

theorem validate_eq_interpret_trees :
    (Call.generateExpr (.array (.named "Tree")), Answer.node (.ok 3)) ∈
        ((new trees .allNonNullable).run treeCalls).1 ∧
      ∃ s, ((new trees .allNonNullable).run treeCalls).2.finish.schema? 3 = some s ∧
        s.validate (.array [.object [("label", .null)]]) =
          trees.interpret .allNonNullable (.array (.named "Tree"))
            (.array [.object [("label", .null)]]) := by
  have h : (Call.generateExpr (.array (.named "Tree")), Answer.node (.ok 3)) ∈
      ((new trees .allNonNullable).run treeCalls).1 := by
    have hrun : ((new trees .allNonNullable).run treeCalls).1 =
        [(.generate "Broken", .node (.error (.unknownType "Missing" "Broken.other"))),
          (.generateExpr (.array (.named "Tree")), .node (.ok 3)),
          (.generateAll, .all (.error (.unknownType "Missing" "Broken.other")))] := by
      simp only [treeCalls, run, call, generate, generateAll, generateExpr,
        Generating.exprNode_eq_exprNodeWithin_size]
      -- the call for all types goes through their names
      change [_, _, (Call.generateAll, Answer.all (generateNames _ ["Broken", "Tree"]).1)] = _
      simp only [generateNames, generate, generateExpr, Generating.exprNode_eq_exprNodeWithin_size]
      rfl
    simp [hrun]
  exact ⟨h, validate_eq_interpret h _⟩

end Generator

end Conformance

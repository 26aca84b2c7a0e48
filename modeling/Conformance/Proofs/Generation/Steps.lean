import Conformance.Schema.Generator

/-!
# What a step of generation ensures

A step of generation ends in a value or in a failure, and either way it leaves an arena behind.
`Conformance.Generating.Ensures` says what holds then. The steps of the generator are read once, in
this file, as equivalences between what they ensure and what their parts ensure; everything else
about generation is proved from these, without looking at the programs again.

* `Conformance.Generating.ensures_bind` – one step after another;
* `Conformance.Generating.constraintOf_eq_ok` – the fields that pass the checks of their
  constraints;
* `Conformance.Generating.ensures_fieldNode` – the node of a field;
* `Conformance.Generating.ensures_exprNode_cached`,
  `Conformance.Generating.ensures_exprNode_scalar`, `Conformance.Generating.ensures_exprNode_array`,
  `Conformance.Generating.ensures_exprNode_named`,
  `Conformance.Generating.ensures_exprNode_unknown` – the node of a type expression;
* `Conformance.Generating.ensures_fieldNodes_cons` – the fields of an object.
-/

namespace Conformance

namespace Generating

variable {α β : Type} {a : Arena} {x : Generating α}
variable {done : α → Arena → Prop} {failed : GenerationError → Arena → Prop}

/-- **What a step ensures** when it starts in an arena: one thing of its value and the arena it
leaves if it succeeds, another of its error and the arena it leaves if it fails. -/
def Ensures (x : Generating α) (a : Arena) (done : α → Arena → Prop)
    (failed : GenerationError → Arena → Prop) : Prop :=
  match x.run a with
  | .ok v b => done v b
  | .error e b => failed e b

/-! ### Steps in general -/

@[simp] theorem ensures_pure {v : α} : (pure v : Generating α).Ensures a done failed ↔ done v a :=
  Iff.rfl

@[simp] theorem ensures_throw {e : GenerationError} :
    (throw e : Generating α).Ensures a done failed ↔ failed e a :=
  Iff.rfl

@[simp] theorem ensures_get {done : Arena → Arena → Prop} :
    (get : Generating Arena).Ensures a done failed ↔ done a a :=
  Iff.rfl

@[simp] theorem ensures_modify {f : Arena → Arena} {done : PUnit → Arena → Prop} :
    (modify f : Generating PUnit).Ensures a done failed ↔ done ⟨⟩ (f a) :=
  Iff.rfl

/-- **One step after another**: the second one starts where the first one ended, and is not taken
after a failure. -/
@[simp] theorem ensures_bind {f : α → Generating β} {done : β → Arena → Prop} :
    (x >>= f).Ensures a done failed ↔
      x.Ensures a (fun v b => (f v).Ensures b done failed) failed := by
  change (match EStateM.bind x f a with
    | .ok v b => done v b
    | .error e b => failed e b) ↔ (match x a with
    | .ok v b => (f v).Ensures b done failed
    | .error e b => failed e b)
  rw [EStateM.bind]
  cases x a with
  | ok v b => exact Iff.rfl
  | error e b => exact Iff.rfl

@[simp] theorem ensures_ofExcept {r : Except GenerationError α} :
    (ofExcept r : Generating α).Ensures a done failed ↔
      match r with
      | .ok v => done v a
      | .error e => failed e a := by
  cases r with
  | ok v => exact Iff.rfl
  | error e => exact Iff.rfl

/-- What a step ensures may be weakened. -/
theorem Ensures.mono {done' : α → Arena → Prop} {failed' : GenerationError → Arena → Prop}
    (h : x.Ensures a done failed) (hd : ∀ v b, done v b → done' v b)
    (hf : ∀ e b, failed e b → failed' e b) : x.Ensures a done' failed' := by
  unfold Ensures at h ⊢
  cases hx : x.run a with
  | ok v b => exact hd v b (by simpa only [hx] using h)
  | error e b => exact hf e b (by simpa only [hx] using h)

/-- Two things that a step ensures hold together. -/
theorem Ensures.and {done' : α → Arena → Prop} {failed' : GenerationError → Arena → Prop}
    (h : x.Ensures a done failed) (h' : x.Ensures a done' failed') :
    x.Ensures a (fun v b => done v b ∧ done' v b) fun e b => failed e b ∧ failed' e b := by
  unfold Ensures at h h' ⊢
  cases hx : x.run a with
  | ok v b => exact ⟨by simpa only [hx] using h, by simpa only [hx] using h'⟩
  | error e b => exact ⟨by simpa only [hx] using h, by simpa only [hx] using h'⟩

/-! ### Adding nodes -/

@[simp] theorem ensures_push {n : Node} {done : NodeId → Arena → Prop} :
    (push n).Ensures a done failed ↔ done a.nodes.length (a.push n).2 :=
  Iff.rfl

@[simp] theorem ensures_pushCached {e : TypeExpr} {n : Node} {done : NodeId → Arena → Prop} :
    (pushCached e n).Ensures a done failed ↔
      done a.nodes.length ((a.push n).2.remember e a.nodes.length) :=
  Iff.rfl

/-! ### The constraint of a field -/

/-- **Which constraint a field has**: a least number of elements if it asks for one, a pattern if it
has one that compiles, or none. -/
def Constraint.IsOf (f : FieldDescription) : Constraint → Prop
  | none => f.effectiveMinLength = Option.none ∧ f.pattern = Option.none
  | minLength element n =>
    f.type = .array element ∧ f.effectiveMinLength = some n ∧ f.pattern = Option.none
  | pattern kind p =>
    f.type = .scalar kind ∧ f.effectiveMinLength = Option.none ∧ f.pattern = some p.source ∧
      (kind = .string ∨ kind = .any)

/-- A field that passes the checks has no annotation, and the constraint found is its own. -/
theorem constraintOf_eq_ok {owner : String} {f : FieldDescription} {c : Constraint}
    (h : constraintOf owner f = .ok c) : f.annotations = [] ∧ c.IsOf f := by
  unfold constraintOf at h
  split at h
  · exact absurd h (by simp)
  rename_i hannotations
  refine ⟨hannotations, ?_⟩
  split at h
  · exact absurd h (by simp)
  rename_i hlength
  split at h
  · -- no pattern, on an array
    rename_i element hpattern htype
    split at h
    · cases h
      exact ⟨htype, ‹_›, hpattern⟩
    · cases h
      exact ⟨‹_›, hpattern⟩
  · -- no pattern, on anything else
    rename_i hpattern hnoArray
    cases h
    refine ⟨?_, hpattern⟩
    have hisArray : f.type.isArray = false := by
      cases htype : f.type with
      | array element => exact absurd htype (hnoArray element)
      | _ => rfl
    simpa [hisArray] using hlength
  · -- a pattern, on a scalar
    rename_i source kind hpattern htype
    split at h
    · rename_i hkind
      split at h
      · rename_i p hcompiles
        cases h
        refine ⟨htype, ?_, ?_, by simpa using hkind⟩
        · simpa [htype, TypeExpr.isArray] using hlength
        · rw [hpattern, Pattern.source_of_compile? hcompiles]
      · exact absurd h (by simp)
    · exact absurd h (by simp)
  · exact absurd h (by simp)

/-! ### The node of a field -/

variable {m : Mode} {r : Registry} {owner referencedFrom : String} {seen : List String}

/-- **The node of a field**: that of its type if it has no constraint, and one of its own
otherwise. -/
theorem ensures_fieldNode {nodeOf : TypeExpr → String → Generating NodeId} {f : FieldDescription}
    {done : NodeId → Arena → Prop} :
    (fieldNode m nodeOf owner seen f).Ensures a done failed ↔
      if f.name ∈ seen then failed (.duplicateField owner f.name) a
      else match constraintOf owner f with
        | .error e => failed e a
        | .ok .none => (nodeOf f.type (owner ++ "." ++ f.name)).Ensures a done failed
        | .ok (.minLength element n) => (nodeOf element (owner ++ "." ++ f.name)).Ensures a
            (fun id b => done b.nodes.length (b.push (.array ⟨id, some n, m.nullableElements⟩)).2)
            failed
        | .ok (.pattern kind p) => done a.nodes.length (a.push (.scalar ⟨kind, some p⟩)).2 := by
  unfold fieldNode
  by_cases hseen : f.name ∈ seen
  · rw [if_pos (List.contains_iff_mem.mpr hseen), if_pos hseen]
    exact Iff.rfl
  rw [if_neg (by simpa using hseen), if_neg hseen, ensures_bind, ensures_ofExcept]
  rcases constraintOf owner f with e | (_ | ⟨element, n⟩ | ⟨kind, p⟩)
  · exact Iff.rfl
  · exact Iff.rfl
  · exact ensures_bind
  · exact Iff.rfl

/-- The node of a field, where it does not matter in which way the field fails. -/
theorem ensures_fieldNode_of {nodeOf : TypeExpr → String → Generating NodeId}
    {f : FieldDescription} {done : NodeId → Arena → Prop} (hf : ∀ e, failed e a)
    (hnone : f.name ∉ seen → Constraint.none.IsOf f →
      (nodeOf f.type (owner ++ "." ++ f.name)).Ensures a done failed)
    (hlength : ∀ element n, f.name ∉ seen → (Constraint.minLength element n).IsOf f →
      (nodeOf element (owner ++ "." ++ f.name)).Ensures a
        (fun id b => done b.nodes.length (b.push (.array ⟨id, some n, m.nullableElements⟩)).2)
        failed)
    (hpattern : ∀ kind p, f.name ∉ seen → (Constraint.pattern kind p).IsOf f →
      done a.nodes.length (a.push (.scalar ⟨kind, some p⟩)).2) :
    (fieldNode m nodeOf owner seen f).Ensures a done failed := by
  rw [ensures_fieldNode]
  by_cases hseen : f.name ∈ seen
  · rw [if_pos hseen]
    exact hf _
  rw [if_neg hseen]
  cases hc : constraintOf owner f with
  | error e => exact hf e
  | ok c =>
    have hof := (constraintOf_eq_ok hc).2
    cases c with
    | none => exact hnone hseen hof
    | minLength element n => exact hlength element n hseen hof
    | pattern kind p => exact hpattern kind p hseen hof

/-! ### The node of a type expression -/

variable {done : NodeId → Arena → Prop} {id : NodeId}

/-- A type expression that was met before has its node already. -/
theorem ensures_exprNode_cached {e : TypeExpr} (h : a.cached? e = some id) :
    (exprNode m r e referencedFrom).Ensures a done failed ↔ done id a := by
  rw [exprNode.eq_def, ensures_bind, ensures_get]
  simp only [h, ensures_pure]

/-- A scalar gets a node. -/
theorem ensures_exprNode_scalar {kind : ScalarKind} (h : a.cached? (.scalar kind) = none) :
    (exprNode m r (.scalar kind) referencedFrom).Ensures a done failed ↔
      done a.nodes.length
        ((a.push (.scalar ⟨kind, none⟩)).2.remember (.scalar kind) a.nodes.length) := by
  rw [exprNode, ensures_bind, ensures_get]
  simp only [h, ensures_pushCached]

/-- An array gets a node after its elements. -/
theorem ensures_exprNode_array {element : TypeExpr} (h : a.cached? (.array element) = none) :
    (exprNode m r (.array element) referencedFrom).Ensures a done failed ↔
      (exprNode m r element referencedFrom).Ensures a
        (fun id b => done b.nodes.length
          ((b.push (.array ⟨id, none, m.nullableElements⟩)).2.remember (.array element)
            b.nodes.length)) failed := by
  rw [exprNode, ensures_bind, ensures_get]
  simp only [h, ensures_bind, ensures_pushCached]

/-- A name without a type is a failure. -/
theorem ensures_exprNode_unknown {name : String} (h : a.cached? (.named name) = none)
    (hr : r.find? name = none) :
    (exprNode m r (.named name) referencedFrom).Ensures a done failed ↔
      failed (.unknownType name referencedFrom) a := by
  rw [exprNode, ensures_bind, ensures_get]
  simp only [h]
  split
  · exact ensures_throw
  · rename_i ht
    rw [hr] at ht
    exact absurd ht (by simp)

/-- **An object type** gets a node before its fields, which is filled in after them. -/
theorem ensures_exprNode_named {name : String} {t : ObjectType}
    (h : a.cached? (.named name) = none) (hr : r.find? name = some t) :
    (exprNode m r (.named name) referencedFrom).Ensures a done failed ↔
      (fieldNodes m (r.erase name) name [] t.fields).Ensures
        ((a.push (.object ⟨name, []⟩)).2.remember (.named name) a.nodes.length)
        (fun fields b => done a.nodes.length (b.fill a.nodes.length (.object ⟨name, fields⟩)))
        failed := by
  rw [exprNode, ensures_bind, ensures_get]
  simp only [h]
  split
  · rename_i ht
    rw [hr] at ht
    exact absurd ht (by simp)
  · rename_i t' ht
    obtain rfl : t = t' := Option.some.inj (hr.symm.trans ht)
    simp only [ensures_bind, ensures_pushCached, ensures_modify, ensures_pure]

/-! ### The fields of an object -/

theorem ensures_fieldNodes_nil {done : List FieldSchema → Arena → Prop} :
    (fieldNodes m r owner seen []).Ensures a done failed ↔ done [] a := by
  rw [fieldNodes, ensures_pure]

/-- The fields of an object get their nodes in turn. -/
theorem ensures_fieldNodes_cons {f : FieldDescription} {rest : List FieldDescription}
    {done : List FieldSchema → Arena → Prop} :
    (fieldNodes m r owner seen (f :: rest)).Ensures a done failed ↔
      (fieldNode m (exprNode m r) owner seen f).Ensures a
        (fun id b => (fieldNodes m r owner (f.name :: seen) rest).Ensures b
          (fun others c => done (⟨f.name, id, m.required f, m.nullable f⟩ :: others) c) failed)
        failed := by
  rw [fieldNodes, ensures_bind]
  simp only [ensures_bind, ensures_pure]

end Generating

end Conformance

import Conformance.Proofs.Entries
import Conformance.Proofs.Generation.Growth

/-!
# Derivations of nodes

How a node comes about, where generation succeeds: a derivation says which steps were taken, from
the arena at the start (`Conformance.Generating.Makes`) to the arena at the end. A derivation refers
to the registry as a whole. That the types whose fields are being looked at are taken out of it is a
matter of the recursion alone, and it is dealt with here once: such a type has its node already, and
so nobody looks for it (`Conformance.Arena.Lacks`).

What holds of every node that is made is proved by induction on its derivation, and nothing has to
be said about failures: a call that fails leaves no trace.

* `Conformance.Generating.exprNode_makes` – a node that generation answers has a derivation;
* `Conformance.Generating.Makes.grows`, `Conformance.Generating.Makes.cached?_eq` – a derivation
  only adds to the arena, and the type expression is known at its end.
-/

namespace Conformance

namespace Arena

/-- The part of the registry that is passed on has the types that were not met yet. -/
def Lacks (a : Arena) (r₀ r : Registry) : Prop :=
  ∀ name, a.cached? (.named name) = none → r.find? name = r₀.find? name

theorem Lacks.mono {a b : Arena} {r₀ r : Registry} (h : a.Lacks r₀ r) (hb : a.Grows b) :
    b.Lacks r₀ r :=
  fun name hname => h name (hb.cached?_eq_none hname)

/-- A type whose object is reserved may be taken out of the part that is passed on. -/
theorem Lacks.erase {a : Arena} {r₀ r : Registry} {name : String} {id : NodeId} {n : Node}
    (h : a.Lacks r₀ r) :
    ((a.push n).2.remember (.named name) id).Lacks r₀ (r.erase name) := by
  intro name' hname'
  have hne : name' ≠ name := by
    rintro rfl
    rw [cached?_remember_self] at hname'
    exact absurd hname' (by simp)
  rw [cached?_remember_of_ne (by simpa using hne)] at hname'
  rw [← h name' hname']
  exact Keyed.find?_erase_of_ne hne

end Arena

namespace Generating

variable {r r₀ : Registry} {m : Mode}

/-! ### Derivations -/

mutual

/-- **The node of a type expression is made**: what was there before, its place, and what is there
afterwards. -/
inductive Makes (r : Registry) (m : Mode) : TypeExpr → Arena → NodeId → Arena → Prop where
  /-- It was met before. -/
  | known {e : TypeExpr} {a : Arena} {id : NodeId} (h : a.cached? e = some id) : Makes r m e a id a
  /-- A scalar gets a node. -/
  | scalar {kind : ScalarKind} {a : Arena} (h : a.cached? (.scalar kind) = none) :
    Makes r m (.scalar kind) a a.nodes.length
      ((a.push (.scalar ⟨kind, none⟩)).2.remember (.scalar kind) a.nodes.length)
  /-- An array gets a node after its elements. -/
  | array {element : TypeExpr} {a b : Arena} {id : NodeId}
    (h : a.cached? (.array element) = none) (elements : Makes r m element a id b) :
    Makes r m (.array element) a b.nodes.length
      ((b.push (.array ⟨id, none, m.nullableElements⟩)).2.remember (.array element) b.nodes.length)
  /-- An object type gets a node before its fields, which is filled in after them. -/
  | named {name : String} {t : ObjectType} {a b : Arena} {fields : List FieldSchema}
    (h : a.cached? (.named name) = none) (type : r.find? name = some t)
    (each : MakesFields r m name [] t.fields
      ((a.push (.object ⟨name, []⟩)).2.remember (.named name) a.nodes.length) fields b) :
    Makes r m (.named name) a a.nodes.length (b.fill a.nodes.length (.object ⟨name, fields⟩))

/-- **The node of a field is made.** -/
inductive MakesField (r : Registry) (m : Mode) :
    String → FieldDescription → Arena → NodeId → Arena → Prop where
  /-- Without a constraint it is that of its type. -/
  | plain {owner : String} {f : FieldDescription} {a b : Arena} {id : NodeId}
    (h : constraintOf owner f = .ok .none) (node : Makes r m f.type a id b) :
    MakesField r m owner f a id b
  /-- With a least number of elements it is an array of its own. -/
  | least {owner : String} {f : FieldDescription} {element : TypeExpr} {n : Nat} {a b : Arena}
    {id : NodeId} (h : constraintOf owner f = .ok (.minLength element n))
    (node : Makes r m element a id b) :
    MakesField r m owner f a b.nodes.length (b.push (.array ⟨id, some n, m.nullableElements⟩)).2
  /-- With a pattern it is a scalar of its own. -/
  | pattern {owner : String} {f : FieldDescription} {kind : ScalarKind} {p : Pattern} {a : Arena}
    (h : constraintOf owner f = .ok (.pattern kind p)) :
    MakesField r m owner f a a.nodes.length (a.push (.scalar ⟨kind, some p⟩)).2

/-- **The fields of an object are made** in turn, where some names were seen before. -/
inductive MakesFields (r : Registry) (m : Mode) : String → List String → List FieldDescription →
    Arena → List FieldSchema → Arena → Prop where
  /-- There are none. -/
  | nil {owner : String} {seen : List String} {a : Arena} : MakesFields r m owner seen [] a [] a
  /-- The first one has a new name, and the others follow. -/
  | cons {owner : String} {seen : List String} {f : FieldDescription}
    {rest : List FieldDescription} {a b c : Arena} {id : NodeId} {others : List FieldSchema}
    (new : f.name ∉ seen) (node : MakesField r m owner f a id b)
    (behind : MakesFields r m owner (f.name :: seen) rest b others c) :
    MakesFields r m owner seen (f :: rest) a (⟨f.name, id, m.required f, m.nullable f⟩ :: others) c

end

/-! ### What is added -/

mutual

/-- **A derivation only adds to the arena.** -/
theorem Makes.grows {e : TypeExpr} {a b : Arena} {id : NodeId} :
    Makes r m e a id b → a.Grows b
  | .known _ => .refl _
  | .scalar h => ((Arena.Grows.refl _).push _).remember h (Nat.le_refl _) (by simp)
  | .array h elements => (elements.grows.push _).remember h elements.grows.length_le (by simp)
  | .named h _ each =>
    have hreserved := ((Arena.Grows.refl _).push _).remember h (Nat.le_refl _) (by simp)
    (hreserved.trans each.grows).fill (Nat.le_refl _) _

theorem MakesField.grows {owner : String} {f : FieldDescription} {a b : Arena} {id : NodeId} :
    MakesField r m owner f a id b → a.Grows b
  | .plain _ node => node.grows
  | .least _ node => node.grows.push _
  | .pattern _ => (Arena.Grows.refl _).push _

theorem MakesFields.grows {owner : String} {seen : List String} {fields : List FieldDescription}
    {a b : Arena} {made : List FieldSchema} :
    MakesFields r m owner seen fields a made b → a.Grows b
  | .nil => .refl _
  | .cons _ node behind => node.grows.trans behind.grows

end

/-- The place that was reserved for an object still has it, without fields, after the nodes of its
fields were made. -/
theorem MakesFields.getElem?_reserved {name : String} {fields : List FieldDescription}
    {a b : Arena} {made : List FieldSchema}
    (h : MakesFields r m name [] fields
      ((a.push (.object ⟨name, []⟩)).2.remember (.named name) a.nodes.length) made b) :
    b.nodes[a.nodes.length]? = some (.object ⟨name, []⟩) := by
  rw [h.grows.getElem? (by simp)]
  simp

/-- The type expression is known at the end, with its place. -/
theorem Makes.cached?_eq {e : TypeExpr} {a b : Arena} {id : NodeId} (h : Makes r m e a id b) :
    b.cached? e = some id := by
  cases h with
  | known h => exact h
  | scalar => exact Arena.cached?_remember_self
  | array => exact Arena.cached?_remember_self
  | named _ _ each => exact each.grows.cached? Arena.cached?_remember_self

/-! ### Derivations of what is generated -/

mutual

/-- **A node that generation answers has a derivation.** -/
theorem exprNode_makes (r : Registry) (e : TypeExpr) (referencedFrom : String) (a : Arena)
    (hr : a.Lacks r₀ r) :
    (exprNode m r e referencedFrom).Ensures a (fun id b => Makes r₀ m e a id b)
      fun _ _ => True := by
  cases hcached : a.cached? e with
  | some id =>
    rw [ensures_exprNode_cached hcached]
    exact .known hcached
  | none =>
    cases e with
    | scalar kind =>
      rw [ensures_exprNode_scalar hcached]
      exact .scalar hcached
    | array element =>
      rw [ensures_exprNode_array hcached]
      exact (exprNode_makes r element referencedFrom a hr).mono (fun _ _ hb => .array hcached hb)
        fun _ _ _ => trivial
    | named name =>
      cases ht : r.find? name with
      | none =>
        rw [ensures_exprNode_unknown hcached ht]
        trivial
      | some t =>
        rw [ensures_exprNode_named hcached ht]
        have ht₀ : r₀.find? name = some t := by rw [← hr name hcached, ht]
        exact (fieldNodes_makes (r.erase name) name [] t.fields _ hr.erase).mono
          (fun _ _ hb => .named hcached ht₀ hb) fun _ _ _ => trivial
termination_by (r.size, 0, sizeOf e)
decreasing_by
  · exact Prod.Lex.right _ (Prod.Lex.right _ (by simp +arith))
  · exact Prod.Lex.left _ _ (Registry.size_erase_lt ht)

/-- The fields that generation answers have a derivation. -/
theorem fieldNodes_makes (r : Registry) (owner : String) (seen : List String)
    (fields : List FieldDescription) (a : Arena) (hr : a.Lacks r₀ r) :
    (fieldNodes m r owner seen fields).Ensures a
      (fun made b => MakesFields r₀ m owner seen fields a made b) fun _ _ => True := by
  cases fields with
  | nil =>
    rw [ensures_fieldNodes_nil]
    exact .nil
  | cons f rest =>
    rw [ensures_fieldNodes_cons]
    by_cases hseen : f.name ∈ seen
    · rw [ensures_fieldNode, if_pos hseen]
      trivial
    have hfield : (fieldNode m (exprNode m r) owner seen f).Ensures a
        (fun id b => MakesField r₀ m owner f a id b) fun _ _ => True := by
      rw [ensures_fieldNode, if_neg hseen]
      split
      · trivial
      · rename_i hc
        exact (exprNode_makes r f.type _ a hr).mono (fun _ _ hb => .plain hc hb)
          fun _ _ _ => trivial
      · rename_i element n hc
        exact (exprNode_makes r element _ a hr).mono (fun _ _ hb => .least hc hb)
          fun _ _ _ => trivial
      · rename_i kind p hc
        exact .pattern hc
    refine hfield.mono (fun id b hb => ?_) fun _ _ _ => trivial
    exact (fieldNodes_makes r owner (f.name :: seen) rest b (hr.mono hb.grows)).mono
      (fun _ _ hc => .cons hseen hb hc) fun _ _ _ => trivial
termination_by (r.size, 1, sizeOf fields)
decreasing_by
  · exact Prod.Lex.right _ (Prod.Lex.left _ _ Nat.zero_lt_one)
  · exact Prod.Lex.right _ (Prod.Lex.left _ _ Nat.zero_lt_one)
  · exact Prod.Lex.right _ (Prod.Lex.right _ (by simp +arith))

end

end Generating

end Conformance

import Conformance.Schema.Generator

/-!
# Generation by recursion on a number

The recursion of the generator ends because the registry that is passed on gets smaller. The kernel
cannot compute by such a recursion. It can compute by one on a number, and there is such a number: a
descent that enters a type takes it out of the registry, so it is never inside more types than the
registry has. What is generated for a fixed registry is found in this way, with `rfl` at the end.

* `Conformance.Generating.exprNodeBy` – the step of the recursion: the node of a type expression,
  given those in smaller registries;
* `Conformance.Generating.exprNodeWithin` – the step taken a number of times;
* `Conformance.Generating.exprNode_eq_exprNodeWithin` – once more than there are types suffices.
-/

namespace Conformance

namespace Generating

variable {m : Mode} {r : Registry} {owner referencedFrom : String} {seen : List String}

/-- The fields of an object node, given the nodes of type expressions. -/
def fieldNodesBy (m : Mode) (nodeOf : TypeExpr → String → Generating NodeId) (owner : String) :
    List String → List FieldDescription → Generating (List FieldSchema)
  | _, [] => return []
  | seen, f :: rest => do
    let id ← fieldNode m nodeOf owner seen f
    let others ← fieldNodesBy m nodeOf owner (f.name :: seen) rest
    return ⟨f.name, id, m.required f, m.nullable f⟩ :: others

/-- **The step of the recursion**: the node of a type expression, given those in the registries that
lack a type. -/
def exprNodeBy (m : Mode) (below : Registry → TypeExpr → String → Generating NodeId)
    (r : Registry) : TypeExpr → String → Generating NodeId
  | .scalar kind, _ => do
    match (← get).cached? (.scalar kind) with
    | some id => return id
    | none => pushCached (.scalar kind) (.scalar ⟨kind, none⟩)
  | .array element, referencedFrom => do
    match (← get).cached? (.array element) with
    | some id => return id
    | none =>
      let id ← exprNodeBy m below r element referencedFrom
      pushCached (.array element) (.array ⟨id, none, m.nullableElements⟩)
  | .named name, referencedFrom => do
    match (← get).cached? (.named name) with
    | some id => return id
    | none =>
      match r.find? name with
      | none => throw (.unknownType name referencedFrom)
      | some type =>
        let id ← pushCached (.named name) (.object ⟨name, []⟩)
        let fields ← fieldNodesBy m (below (r.erase name)) name [] type.fields
        modify (·.fill id (.object ⟨name, fields⟩))
        return id

/-- The step taken a number of times, which bounds how many types a descent can be inside of. -/
def exprNodeWithin (m : Mode) : Nat → Registry → TypeExpr → String → Generating NodeId
  | 0, _, _, referencedFrom => throw (.unknownType "" referencedFrom)
  | n + 1, r, e, referencedFrom => exprNodeBy m (exprNodeWithin m n) r e referencedFrom

theorem fieldNodes_eq_fieldNodesBy (fields : List FieldDescription) :
    fieldNodes m r owner seen fields = fieldNodesBy m (exprNode m r) owner seen fields := by
  induction fields generalizing seen with
  | nil => rw [fieldNodes, fieldNodesBy]
  | cons f rest ih => rw [fieldNodes, fieldNodesBy, ih]

/-- The generator takes the step. -/
theorem exprNode_eq_exprNodeBy (e : TypeExpr) :
    exprNode m r e referencedFrom = exprNodeBy m (exprNode m) r e referencedFrom := by
  induction e with
  | scalar kind => exact (exprNode.eq_def ..).trans rfl
  | array element ih =>
    rw [exprNodeBy, ← ih]
    exact (exprNode.eq_def ..).trans rfl
  | named name =>
    rw [exprNode, exprNodeBy]
    refine bind_congr fun a => ?_
    cases a.cached? (.named name) with
    | some id => rfl
    | none =>
      simp only [fieldNodes_eq_fieldNodesBy]
      split
      · rename_i ht
        rw [ht]
      · rename_i t ht
        rw [ht]

/-- The step depends on the registries only that lack a type. -/
theorem exprNodeBy_congr {below below' : Registry → TypeExpr → String → Generating NodeId}
    (h : ∀ name t, r.find? name = some t → below (r.erase name) = below' (r.erase name))
    (e : TypeExpr) :
    exprNodeBy m below r e referencedFrom = exprNodeBy m below' r e referencedFrom := by
  induction e with
  | scalar kind => rfl
  | array element ih => rw [exprNodeBy, exprNodeBy, ih]
  | named name =>
    rw [exprNodeBy, exprNodeBy]
    cases ht : r.find? name with
    | none => rfl
    | some t => rw [h name t ht]

/-- **The step taken once more than there are types is enough.** -/
theorem exprNode_eq_exprNodeWithin {n : Nat} (hn : r.size < n) (e : TypeExpr) :
    exprNode m r e referencedFrom = exprNodeWithin m n r e referencedFrom := by
  induction n generalizing r e referencedFrom with
  | zero => exact absurd hn (Nat.not_lt_zero _)
  | succ n ih =>
    rw [exprNode_eq_exprNodeBy, exprNodeWithin]
    refine exprNodeBy_congr (fun name t ht => ?_) e
    have hsmaller : (r.erase name).size < n :=
      Nat.lt_of_lt_of_le (Registry.size_erase_lt ht) (Nat.lt_succ_iff.mp hn)
    funext e referencedFrom
    exact ih hsmaller e

theorem exprNode_eq_exprNodeWithin_size (e : TypeExpr) :
    exprNode m r e referencedFrom = exprNodeWithin m (r.size + 1) r e referencedFrom :=
  exprNode_eq_exprNodeWithin (Nat.lt_succ_self _) e

end Generating

end Conformance

import Mathlib.Logic.Relation
import Conformance.Proofs.Generation.Runs

/-!
# What the nodes point to

The nodes of a table form a graph (`Conformance.PointsTo`): an object points to the nodes of its
fields, and an array to that of its elements. A descent makes a node only because another one is
going to point to it, but the object that asks for the nodes of its fields gets them at the very
end, when all of them have been made. So what a descent adds hangs together only once the descent is
over: then everything it has added is reached from the node it answers.

* `Conformance.PointsTo.mono`, `Conformance.PointsTo.fill` – an arena that grows keeps the graph;
* `Conformance.Generating.Makes.reached` – what was made is reached from what was answered.
-/

namespace Conformance

open Relation (ReflTransGen)

/-- **One node points to another**: an object to the nodes of its fields, and an array to that of
its elements. -/
inductive PointsTo (nodes : List Node) : NodeId → NodeId → Prop where
  /-- To the node of a field. -/
  | field {id : NodeId} {o : ObjectSchema} {f : FieldSchema} (node : nodes[id]? = some (.object o))
    (declared : f ∈ o.fields) : PointsTo nodes id f.schema
  /-- To the node of the elements. -/
  | element {id : NodeId} {a : ArraySchema} (node : nodes[id]? = some (.array a)) :
    PointsTo nodes id a.element

namespace PointsTo

variable {nodes nodes' : List Node} {id id' : NodeId}

/-- Nodes that are added behind the others leave the graph as it is. -/
theorem mono (h : nodes <+: nodes') (hp : PointsTo nodes id id') : PointsTo nodes' id id' := by
  have hkept : ∀ {n : Node}, nodes[id]? = some n → nodes'[id]? = some n := by
    intro n hn
    obtain ⟨rest, rfl⟩ := h
    rw [List.getElem?_append_left (List.getElem?_eq_some_iff.mp hn).1]
    exact hn
  cases hp with
  | field node declared => exact .field (hkept node) declared
  | element node => exact .element (hkept node)

/-- Filling in the fields of an object that has none takes nothing away. -/
theorem fill {place : NodeId} {name : String} {fields : List FieldSchema}
    (h : nodes[place]? = some (.object ⟨name, []⟩)) (hp : PointsTo nodes id id') :
    PointsTo (nodes.set place (.object ⟨name, fields⟩)) id id' := by
  cases hp with
  | @field o f node declared =>
    have hne : place ≠ id := by
      rintro rfl
      obtain rfl : o = ⟨name, []⟩ := by simpa using node.symm.trans h
      exact absurd declared List.not_mem_nil
    exact .field (by rw [List.getElem?_set_ne hne, node]) declared
  | element node =>
    have hne : place ≠ id := by
      rintro rfl
      exact absurd (node.symm.trans h) (by simp)
    exact .element (by rw [List.getElem?_set_ne hne, node])

end PointsTo

namespace Generating

variable {r : Registry} {m : Mode}

/-- Behind a node from which everything new is reached, an array of its own may be added. -/
theorem reached_push_array {a b : Arena} {id : NodeId} {x : ArraySchema} (hx : x.element = id)
    (h : ∀ j, a.nodes.length ≤ j → j < b.nodes.length → ReflTransGen (PointsTo b.nodes) id j)
    (j : NodeId) (hle : a.nodes.length ≤ j) (hlt : j < (b.push (.array x)).2.nodes.length) :
    ReflTransGen (PointsTo (b.push (.array x)).2.nodes) b.nodes.length j := by
  rcases Nat.lt_or_ge j b.nodes.length with hold | hnew
  · have hstep : PointsTo (b.push (.array x)).2.nodes b.nodes.length id :=
      hx ▸ .element (by simp)
    exact .head hstep
      (ReflTransGen.mono (fun _ _ => PointsTo.mono (List.prefix_append _ _)) _ _ (h j hle hold))
  · obtain rfl : j = b.nodes.length :=
      Nat.le_antisymm (Nat.le_of_lt_succ (by simpa using hlt)) hnew
    exact .refl

mutual

/-- **What was made is reached from what was answered.** -/
theorem Makes.reached {e : TypeExpr} {a b : Arena} {id : NodeId} : Makes r m e a id b →
    ∀ j, a.nodes.length ≤ j → j < b.nodes.length → ReflTransGen (PointsTo b.nodes) id j
  | .known _, j, hle, hlt => absurd hlt (Nat.not_lt.mpr hle)
  | .scalar _, j, hle, hlt => by
    obtain rfl := Nat.le_antisymm (Nat.le_of_lt_succ (by simpa using hlt)) hle
    exact .refl
  | .array _ elements, j, hle, hlt => reached_push_array rfl elements.reached j hle hlt
  | @Makes.named _ _ name _ a b fields _ _ each, j, hle, hlt => by
    rcases Nat.eq_or_lt_of_le hle with rfl | hgt
    · exact .refl
    -- the fields were made after the object was reserved, and are filled in at the end
    have hreserved := each.getElem?_reserved
    obtain ⟨f, hf, hreached⟩ := each.reached j (by simpa using Nat.succ_le_of_lt hgt)
      (by simpa using hlt)
    have hstep : PointsTo (b.fill a.nodes.length (.object ⟨name, fields⟩)).nodes a.nodes.length
        f.schema := by
      refine .field (o := ⟨name, fields⟩) ?_ hf
      rw [Arena.nodes_fill, List.getElem?_set_self (List.getElem?_eq_some_iff.mp hreserved).1]
    exact .head hstep (ReflTransGen.mono (fun _ _ => PointsTo.fill hreserved) _ _ hreached)

theorem MakesField.reached {owner : String} {f : FieldDescription} {a b : Arena} {id : NodeId} :
    MakesField r m owner f a id b →
      ∀ j, a.nodes.length ≤ j → j < b.nodes.length → ReflTransGen (PointsTo b.nodes) id j
  | .plain _ node, j, hle, hlt => node.reached j hle hlt
  | .least _ node, j, hle, hlt => reached_push_array rfl node.reached j hle hlt
  | .pattern _, j, hle, hlt => by
    obtain rfl := Nat.le_antisymm (Nat.le_of_lt_succ (by simpa using hlt)) hle
    exact .refl

/-- What was made for the fields of an object is reached from the node of one of them. -/
theorem MakesFields.reached {owner : String} {seen : List String} {fields : List FieldDescription}
    {a b : Arena} {made : List FieldSchema} : MakesFields r m owner seen fields a made b →
      ∀ j, a.nodes.length ≤ j → j < b.nodes.length →
        ∃ f ∈ made, ReflTransGen (PointsTo b.nodes) f.schema j
  | .nil, j, hle, hlt => absurd hlt (Nat.not_lt.mpr hle)
  | @MakesFields.cons _ _ _ _ _ _ _ b _ _ _ _ node behind, j, hle, hlt => by
    rcases Nat.lt_or_ge j b.nodes.length with hold | hnew
    · have hreached := node.reached j hle hold
      exact ⟨_, List.mem_cons_self,
        ReflTransGen.mono (fun _ _ => PointsTo.mono behind.grows.nodes) _ _ hreached⟩
    · obtain ⟨f, hf, hreached⟩ := behind.reached j hnew hlt
      exact ⟨f, List.mem_cons_of_mem _ hf, hreached⟩

end

end Generating

end Conformance

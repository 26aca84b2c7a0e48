import Mathlib.Logic.Relation
import Conformance.Proofs.Checking.Locality

/-!
# What a check overlooks

A check asks an object for its declared keys only. So nothing that stands under another key can be
seen from outside, at whatever depth the object is. It might still show through a value that a
violation carries, but such a value is never an object that was looked into: it is one that was
rejected as a whole, and there the walk ends.

A null is not overlooked like this. It stands for an absent key where the field may be null and need
not be there. If the field has to be there, the null keeps the key from being missing, and if it
must not be null, the null is reported itself.

* `Conformance.ObjectSchema.Overlooks` – a change of the members of one object;
* `Conformance.SchemaSet.Overlooks` – such a change in an object that is visited;
* `Conformance.Generator.overlooks_undeclared` – any number of changes, here and there.
-/

namespace Conformance

/-- **A change of members that an object node overlooks**: under each declared key they hold the
same as before, or a null that might as well have been absent is gone. -/
def ObjectSchema.Overlooks (o : ObjectSchema) (members members' : List (String × Document)) :
    Prop :=
  ∀ f ∈ o.fields, Keyed.find? f.name members' = Keyed.find? f.name members ∨
    f.nullable = true ∧ f.required = false ∧ Keyed.find? f.name members = some .null ∧
      Keyed.find? f.name members' = none

namespace SchemaSet

variable {set : SchemaSet} {id : NodeId} {d d' : Document} {r : Registry} {m : Mode}
variable {members members' : List (String × Document)} {o : ObjectSchema}

/-- **A change of a document that its node overlooks**, in the members of one object that is
visited. -/
inductive Overlooks (set : SchemaSet) (id : NodeId) (d : Document) : Document → Prop where
  /-- At the place of the object. -/
  | change {id' : NodeId} {l : Location} {members members' : List (String × Document)}
    {o : ObjectSchema} (visits : set.Visits id d id' l (.object members))
    (node : set.node? id' = some (.object o)) (h : o.Overlooks members members') :
    Overlooks set id d (d.replace l (.object members'))

/-- In a field, a null that might as well be absent is found no more than an absent value. -/
theorem flatMap_valueFindings_of_overlooks (h : o.Overlooks members members') :
    (o.fields.flatMap fun f => set.valueFindings f [] (Keyed.find? f.name members')) =
      o.fields.flatMap fun f => set.valueFindings f [] (Keyed.find? f.name members) := by
  refine List.flatMap_congr fun f hf => ?_
  rcases h f hf with hsame | ⟨hnullable, -, hnull, habsent⟩
  · rw [hsame]
  · rw [hnull, habsent, valueFindings_none, valueFindings_null, if_pos hnullable]

/-- The same required fields are missing. -/
theorem missingFields_of_overlooks (h : o.Overlooks members members') :
    o.missingFields members' = o.missingFields members := by
  refine List.filter_congr fun name hname => ?_
  obtain ⟨f, hf, rfl⟩ := List.mem_map.mp hname
  obtain ⟨hmem, hrequired⟩ := List.mem_filter.mp hf
  rcases h f hmem with hsame | ⟨-, hoptional, -⟩
  · rw [Keyed.contains, Keyed.contains, hsame]
  · -- a null that is gone was not required to be there
    exact absurd (hrequired.symm.trans hoptional) (by simp)

/-- In the object itself, the same is found. -/
theorem findings_of_overlooks (node : set.node? id = some (.object o))
    (h : o.Overlooks members members') :
    set.findings id [] (.object members') = set.findings id [] (.object members) := by
  rw [findings_object node, findings_object node, flatMap_valueFindings_of_overlooks h,
    ObjectSchema.ownFindings, missingFields_of_overlooks h, ObjectSchema.ownFindings]

/-- **In the whole document, the same is found**, since the object is isolated and stays one. -/
theorem Overlooks.findings_eq (hs : set.Sound r m) (h : set.Overlooks id d d') :
    set.findings id [] d' = set.findings id [] d := by
  cases h with
  | @change id' l members members' o visits node h =>
    obtain ⟨before, after, -, -, hsplit⟩ := visits.isolates hs
    calc set.findings id [] (d.replace l (.object members'))
        = before ++ (set.findings id' [] (.object members')).map (·.under l) ++ after :=
          hsplit _ (by simp)
      _ = before ++ (set.findings id' [] (.object members)).map (·.under l) ++ after := by
          rw [findings_of_overlooks node h]
      _ = set.findings id [] (d.replace l (.object members)) := (hsplit _ (by simp)).symm
      _ = set.findings id [] d := by
          rw [Document.replace_self visits.at?_eq]

end SchemaSet

namespace Generator

/-- **Data that is not declared does not interfere.** If two documents differ by changes that their
node overlooks, made in the one or in the other, one after another and in any objects that are
visited, then a check reports the same of both. -/
theorem overlooks_undeclared (r : Registry) (m : Mode) (calls : List Call) (id : NodeId) :
    let s : Schema := ⟨((new r m).run calls).2.finish, id⟩
    ∀ d d', Relation.EqvGen (s.set.Overlooks s.root) d d' → s.validate d = s.validate d' := by
  intro s d d' h
  have hs : s.set.Sound r m := sound_finish_run r m calls
  induction h with
  | rel d d' h => exact congrArg (List.map _) (h.findings_eq hs).symm
  | refl d => rfl
  | symm d d' _ ih => exact ih.symm
  | trans d d' d'' _ _ ih ih' => exact ih.trans ih'

/-- The same order, with a note that is not declared and without a null in its third line. -/
def notedLines : Document :=
  .object [("lines", .array [.object [("count", .bool true)], .object [("count", .string "two")],
    .object [("part", .object [])]]), ("note", .string "urgent")]

/-- A note and a null are overlooked, at two depths. -/
theorem overlooks_undeclared_orders :
    let s : Schema := ⟨((new orders .explicitOnly).run [.generate "Order"]).2.finish, 0⟩
    Relation.EqvGen (s.set.Overlooks s.root) threeLines notedLines ∧
      s.validate threeLines = s.validate notedLines := by
  intro s
  have h : Relation.EqvGen (s.set.Overlooks s.root) threeLines notedLines := by
    rw [show s.set = orderTable from finish_orders]
    let third : Location := [.field "lines", .index 2]
    have hvisits : orderTable.Visits 0 threeLines 1 third
        (.object [("part", .object []), ("count", .null)]) :=
      visits_lines.trans (.element (a := ⟨1, some 1, true⟩) (i := 2) rfl rfl (by simp) .here)
    have hnull : orderTable.Overlooks 0 threeLines
        (threeLines.replace third (.object [("part", .object [])])) := by
      refine .change (o := ⟨"Line", _⟩) hvisits rfl fun f hf => ?_
      rcases List.mem_cons.mp hf with rfl | hf
      · exact Or.inr ⟨rfl, rfl, rfl, rfl⟩
      · obtain rfl := List.mem_singleton.mp hf
        exact Or.inl rfl
    have hnote : orderTable.Overlooks 0 (threeLines.replace third (.object [("part", .object [])]))
        notedLines := by
      refine .change (l := []) (o := ⟨"Order", _⟩) .here rfl fun f hf => ?_
      obtain rfl := List.mem_singleton.mp hf
      exact Or.inl rfl
    exact .trans _ _ _ (.rel _ _ hnull) (.rel _ _ hnote)
  exact ⟨h, overlooks_undeclared orders .explicitOnly [.generate "Order"] 0 _ _ h⟩

end Generator

end Conformance

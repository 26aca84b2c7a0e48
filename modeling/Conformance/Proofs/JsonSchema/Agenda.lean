import Conformance.Proofs.Completeness
import Conformance.Proofs.JsonSchema.References
import Conformance.Proofs.SortedEntries

/-!
# Definitions in any order

The definitions of a rendering may be collected with an agenda (`Conformance.SchemaSet.Agenda`): a
type is queued when it is first referred to, and a type that is pending is taken, gets its
definition, and queues what its fields refer to. Which of the pending types is taken is left open
here (`Conformance.SchemaSet.Agenda.Takes`), and it makes no difference: whatever the order, no type
is taken twice, an end is reached, and the rendering is always the same. What carries this is that
whatever was queued is either defined or pending, and that a type with a definition has queued all
that it refers to (`Conformance.SchemaSet.Agenda.Sound`).

* `Conformance.SchemaSet.Agenda.Takes.sound` – one type is taken;
* `Conformance.SchemaSet.Agenda.Sound.acc` – there is an end;
* `Conformance.SchemaSet.Agenda.Sound.mem_made_iff` – what has been defined at the end;
* `Conformance.Registry.definesExactly_of_yields` – the definitions and the references of a
  rendering.
-/

namespace Conformance

open Relation (ReflTransGen)

/-- The JSON Schema of a schema with given definitions. -/
def Schema.withDefinitions (s : Schema) (definitions : List (String × Document)) : Document :=
  let members := s.set.nodeMembers s.root ++ [("$schema", .string JsonSchema.dialect)]
  .ofMembers (if definitions.isEmpty then members
    else members ++ [("$defs", .ofMembers definitions)])

theorem Schema.withDefinitions_definitionsOf (s : Schema) :
    s.withDefinitions (s.set.definitionsOf s.root) = s.toJsonSchema := rfl

namespace SchemaSet

/-! ### The agenda -/

/-- **The state of the collection of definitions.** -/
structure Agenda where
  /-- The definitions made so far, the last one first. -/
  made : List (String × Document)
  /-- The names of all types that were ever pending. -/
  queued : List String
  /-- The types that are referred to, and have no definition yet. -/
  pending : List ObjectSchema

namespace Agenda

/-- Queues a type, unless its name was queued before. -/
def queue (a : Agenda) (o : ObjectSchema) : Agenda :=
  if o.name ∈ a.queued then a
  else { a with queued := o.name :: a.queued, pending := o :: a.pending }

/-- Queues types in turn. -/
def queueAll (a : Agenda) (types : List ObjectSchema) : Agenda := types.foldl queue a

/-- The agenda at the start: the type that the root refers to, if there is one. -/
def start (set : SchemaSet) (root : NodeId) : Agenda :=
  queueAll ⟨[], [], []⟩ (set.referred? root).toList

/-- **A pending type is taken**, whichever it is: it gets its definition, and what its fields refer
to is queued. -/
inductive Takes (set : SchemaSet) : Agenda → Agenda → Prop where
  /-- The one between these is taken. -/
  | take {a : Agenda} {before after : List ObjectSchema} {o : ObjectSchema}
    (h : a.pending = before ++ o :: after) :
    Takes set a (queueAll ⟨(o.name, set.objectBody o) :: a.made, a.queued, before ++ after⟩
      (set.reached o))

variable {set : SchemaSet} {root : NodeId} {a b : Agenda} {o : ObjectSchema} {name : String}
variable {types : List ObjectSchema} {r : Registry} {m : Mode}

/-! ### What is queued -/

theorem made_queue : (a.queue o).made = a.made := by
  unfold queue
  split <;> rfl

theorem made_queueAll : (a.queueAll types).made = a.made := by
  induction types generalizing a with
  | nil => rfl
  | cons o rest ih => exact ih.trans made_queue

theorem mem_queued_queue : name ∈ (a.queue o).queued ↔ name ∈ a.queued ∨ name = o.name := by
  unfold queue
  split
  · rename_i hmem
    refine ⟨Or.inl, ?_⟩
    rintro (h | rfl)
    · exact h
    · exact hmem
  · rw [List.mem_cons, or_comm]

/-- What is queued was queued before, or is one of the types. -/
theorem mem_queued_queueAll :
    name ∈ (a.queueAll types).queued ↔ name ∈ a.queued ∨ ∃ o ∈ types, name = o.name := by
  induction types generalizing a with
  | nil => simp [queueAll]
  | cons o rest ih =>
    refine ih.trans ?_
    rw [mem_queued_queue, List.exists_mem_cons_iff, or_assoc]

/-! ### The invariant -/

/-- **What is queued is defined or pending**, each name once, and all of it is reached. -/
structure Queues (set : SchemaSet) (root : NodeId) (a : Agenda) : Prop where
  /-- No name is queued twice. -/
  nodup : a.queued.Nodup
  /-- What is queued is what is defined and what is pending. -/
  each : (a.made.map (·.1) ++ a.pending.map (·.name)).Perm a.queued
  /-- A definition is that of an object that is reached. -/
  made : ∀ e ∈ a.made, ∃ o, set.ReachesObject root o ∧ e = (o.name, set.objectBody o)
  /-- What is pending is reached. -/
  pending : ∀ o ∈ a.pending, set.ReachesObject root o

theorem Queues.queue (h : a.Queues set root) (ho : set.ReachesObject root o) :
    (a.queue o).Queues set root := by
  unfold Agenda.queue
  split
  · exact h
  · rename_i hnew
    refine ⟨List.nodup_cons.mpr ⟨hnew, h.nodup⟩, ?_, h.made,
      List.forall_mem_cons.mpr ⟨ho, h.pending⟩⟩
    exact List.perm_middle.trans (h.each.cons o.name)

theorem Queues.queueAll (h : a.Queues set root) (htypes : ∀ o ∈ types, set.ReachesObject root o) :
    (a.queueAll types).Queues set root := by
  induction types generalizing a with
  | nil => exact h
  | cons o rest ih =>
    obtain ⟨ho, hrest⟩ := List.forall_mem_cons.mp htypes
    exact ih (h.queue ho) hrest

/-- No type has two definitions. -/
theorem Queues.nodup_made (h : a.Queues set root) : (a.made.map (·.1)).Nodup :=
  ((h.each.nodup_iff).mpr h.nodup).of_append_left

/-- **A sound agenda**: moreover the root and all types with a definition have queued what they
refer to. -/
structure Sound (set : SchemaSet) (root : NodeId) (a : Agenda) : Prop extends
    a.Queues set root where
  /-- The root has. -/
  root : ∀ o, set.referred? root = some o → o.name ∈ a.queued
  /-- The types with a definition have. -/
  closed : ∀ o, set.Has o → o.name ∈ a.made.map (·.1) → ∀ o' ∈ set.reached o, o'.name ∈ a.queued

theorem sound_start (set : SchemaSet) (root : NodeId) : (start set root).Sound set root := by
  have hempty : Queues set root ⟨[], [], []⟩ :=
    ⟨List.nodup_nil, List.Perm.refl _, by simp, by simp⟩
  refine ⟨hempty.queueAll fun o ho => reachesObject_of_referred? (Option.mem_toList.mp ho),
    fun o ho => ?_, fun o _ ho => ?_⟩
  · exact mem_queued_queueAll.mpr (Or.inr ⟨o, Option.mem_toList.mpr ho, rfl⟩)
  · rw [start, made_queueAll] at ho
    exact absurd ho List.not_mem_nil

/-- **Taking a type keeps the agenda sound.** -/
theorem Takes.sound (hs : set.Sound r m) (h : a.Takes set b) (ha : a.Sound set root) :
    b.Sound set root := by
  obtain ⟨hpending⟩ := h
  rename_i before after o
  have ho : set.ReachesObject root o := ha.pending o (by simp [hpending])
  have hqueues : Queues set root
      ⟨(o.name, set.objectBody o) :: a.made, a.queued, before ++ after⟩ := by
    refine ⟨ha.nodup, ?_, List.forall_mem_cons.mpr ⟨⟨o, ho, rfl⟩, ha.made⟩, fun o' ho' => ?_⟩
    · -- the name has moved from the pending ones to those with a definition
      have heach := ha.each
      rw [hpending, List.map_append, List.map_cons] at heach
      rw [List.map_cons, List.cons_append, List.map_append]
      refine List.Perm.trans ?_ heach
      rw [← List.append_assoc, ← List.append_assoc]
      exact List.perm_middle.symm
    · exact ha.pending o' (by
        rw [hpending]
        rcases List.mem_append.mp ho' with h | h
        · exact List.mem_append_left _ h
        · exact List.mem_append_right _ (List.mem_cons_of_mem _ h))
  refine ⟨hqueues.queueAll fun o' ho' => ho.reached ho',
    fun o' ho' => mem_queued_queueAll.mpr (Or.inl (ha.root o' ho')),
    fun o' hhas hmade o'' ho'' => ?_⟩
  rw [made_queueAll, List.map_cons] at hmade
  rcases List.mem_cons.mp hmade with hname | hmade
  · obtain rfl := Has.eq hs hhas ho.has hname
    exact mem_queued_queueAll.mpr (Or.inr ⟨o'', ho'', rfl⟩)
  · exact mem_queued_queueAll.mpr (Or.inl (ha.closed o' hhas hmade o'' ho''))

/-- A run keeps the agenda sound. -/
theorem sound_of_reflTransGen (hs : set.Sound r m)
    (h : ReflTransGen (Takes set) (start set root) a) : a.Sound set root := by
  induction h with
  | refl => exact sound_start set root
  | tail _ htakes ih => exact htakes.sound hs ih

/-! ### The end -/

theorem Takes.length_made (h : a.Takes set b) : b.made.length = a.made.length + 1 := by
  obtain ⟨hpending⟩ := h
  rw [made_queueAll, List.length_cons]

/-- There are no more definitions than objects. -/
theorem Queues.length_made_le (h : a.Queues set root) :
    a.made.length ≤ set.objectNames.length := by
  have hsub : a.made.map (·.1) ⊆ set.objectNames := by
    intro name hname
    obtain ⟨e, he, rfl⟩ := List.mem_map.mp hname
    obtain ⟨o, ho, rfl⟩ := h.made e he
    exact mem_objectNames ho.has
  have hle := (List.subperm_of_subset h.nodup_made hsub).length_le
  rwa [List.length_map] at hle

/-- **There is an end**, in whatever order the types are taken. -/
theorem Sound.acc (hs : set.Sound r m) (ha : a.Sound set root) :
    Acc (fun b a => a.Takes set b) a := by
  -- every type that is taken leaves one object fewer without a definition
  induction hleft : set.objectNames.length - a.made.length using Nat.strongRecOn generalizing a with
  | ind left ih =>
  refine ⟨_, fun b htakes => ih _ ?_ (htakes.sound hs ha) rfl⟩
  have hle := (htakes.sound hs ha).length_made_le
  rw [htakes.length_made] at hle ⊢
  omega

/-- **What has been defined at the end**: the objects that are reached, each by its schema. -/
theorem Sound.mem_made_iff (hs : set.Sound r m) (ha : a.Sound set root) (hend : a.pending = [])
    {e : String × Document} :
    e ∈ a.made ↔ ∃ o, set.ReachesObject root o ∧ e = (o.name, set.objectBody o) := by
  refine ⟨ha.made e, ?_⟩
  rintro ⟨o, ho, rfl⟩
  have heach : (a.made.map (·.1)).Perm a.queued := by
    simpa [hend] using ha.each
  -- all that is reached was queued, and has its definition by now
  have hname : o.name ∈ a.made.map (·.1) := heach.mem_iff.mpr
    (ho.induction hs (P := fun o => o.name ∈ a.queued) ha.root
      fun o hhas hqueued => ha.closed o hhas (heach.mem_iff.mpr hqueued))
  obtain ⟨e, he, hkey⟩ := List.mem_map.mp hname
  obtain ⟨o', ho', rfl⟩ := ha.made e he
  obtain rfl := Has.eq hs ho'.has ho.has hkey
  exact he

/-- **The order makes no difference** to the rendering. -/
theorem Sound.withDefinitions_eq {s : Schema} (hs : s.set.Sound r m) (ha : a.Sound s.set s.root)
    (hend : a.pending = []) : s.withDefinitions a.made = s.toJsonSchema := by
  have hsame : ∀ e, e ∈ a.made ↔ e ∈ s.set.definitionsOf s.root := fun e =>
    (ha.mem_made_iff hs hend).trans (mem_definitionsOf_iff hs).symm
  have hempty : a.made.isEmpty = (s.set.definitionsOf s.root).isEmpty := by
    rw [Bool.eq_iff_iff, List.isEmpty_iff, List.isEmpty_iff, List.eq_nil_iff_forall_not_mem,
      List.eq_nil_iff_forall_not_mem]
    exact forall_congr' fun e => not_congr (hsame e)
  have hdefinitions : Document.ofMembers a.made =
      Document.ofMembers (s.set.definitionsOf s.root) :=
    congrArg Document.object
      (Keyed.ofList_congr ha.nodup_made (nodup_definitions (nodup_objectNames hs)) hsame)
  rw [← Schema.withDefinitions_definitionsOf]
  unfold Schema.withDefinitions
  rw [hempty, hdefinitions]

end Agenda

end SchemaSet

/-! ### The definitions and the references of a rendering -/

open SchemaSet in
/-- **A rendering defines what it refers to, and nothing else.** -/
structure Schema.DefinesExactly (s : Schema) : Prop where
  /-- The rendering looks up only places of the table. -/
  rendered : s.toJsonSchema? = some s.toJsonSchema
  /-- Where objects are reached from the root, each has its definition, under its name, and there
  are no others. -/
  definitions : (∃ o, s.set.ReachesObject s.root o) →
    ∃ entries, s.toJsonSchema.get? "$defs" = some (.object entries) ∧
      (entries.map (·.1)).Nodup ∧
      ∀ e, e ∈ entries ↔ ∃ o, s.set.ReachesObject s.root o ∧ e = (o.name, s.set.objectBody o)
  /-- Where none is, there are no definitions. -/
  none : (¬∃ o, s.set.ReachesObject s.root o) → s.toJsonSchema.get? "$defs" = none
  /-- Every reference is one to an object that is reached. -/
  references : ∀ ref, s.toJsonSchema.Mentions ref →
    ∃ o, s.set.ReachesObject s.root o ∧ ref = "#/$defs/" ++ o.name
  /-- Pending types can be taken in any order: there is an end. -/
  ends : Acc (fun b a => Agenda.Takes s.set a b) (Agenda.start s.set s.root)
  /-- None is taken twice. -/
  once : ∀ a, ReflTransGen (Agenda.Takes s.set) (Agenda.start s.set s.root) a →
    (a.made.map (·.1)).Nodup
  /-- At the end there is one rendering. -/
  unordered : ∀ a, ReflTransGen (Agenda.Takes s.set) (Agenda.start s.set s.root) a →
    a.pending = [] → s.withDefinitions a.made = s.toJsonSchema

namespace Schema

open SchemaSet

variable {s : Schema} {r : Registry} {m : Mode}

/-- **A schema of a sound table defines exactly what it refers to**, if it stays inside. -/
theorem StaysInside.definesExactly (h : s.StaysInside) (hs : s.set.Sound r m) :
    s.DefinesExactly := by
  have hmem : ∀ e, e ∈ s.set.definitionsOf s.root ↔
      ∃ o, s.set.ReachesObject s.root o ∧ e = (o.name, s.set.objectBody o) := fun e =>
    mem_definitionsOf_iff hs
  have hnodup : ((s.set.definitionsOf s.root).map (·.1)).Nodup :=
    nodup_definitions (nodup_objectNames hs)
  refine ⟨h.toJsonSchema, ?_, fun hnone => ?_, fun ref => mentions_toJsonSchema hs,
    (Agenda.sound_start s.set s.root).acc hs,
    fun a ha => (Agenda.sound_of_reflTransGen hs ha).nodup_made,
    fun a ha => (Agenda.sound_of_reflTransGen hs ha).withDefinitions_eq hs⟩
  · rintro ⟨o, ho⟩
    have hne : s.set.definitionsOf s.root ≠ [] :=
      List.ne_nil_of_mem ((hmem _).mpr ⟨o, ho, rfl⟩)
    exact ⟨_, get?_toJsonSchema_of_ne_nil hne, (Keyed.ordered_ofList _).nodup_keys,
      fun e => (Keyed.mem_ofList_iff hnodup).trans (hmem e)⟩
  · refine get?_toJsonSchema_of_nil (List.eq_nil_iff_forall_not_mem.mpr fun e he => hnone ?_)
    obtain ⟨o, ho, -⟩ := (hmem e).mp he
    exact ⟨o, ho⟩

end Schema

namespace Registry

/-- **Every rendering defines what it refers to, and nothing else.** -/
theorem definesExactly_of_yields {r : Registry} {m : Mode} {s : Schema} (h : r.Yields m s) :
    s.DefinesExactly :=
  h.staysInside.definesExactly h.sound

open Generator in
/-- The table of an order was begun by a call that failed. Its rendering has a definition of the
order itself. -/
theorem definesExactly_of_yields_orders :
    let g := ((new orders .explicitOnly).run [.generate "Draft", .generate "Order"]).2
    g.finish.typeId? "Order" = some 0 ∧ Schema.DefinesExactly ⟨g.finish, 0⟩ ∧
      ∃ entries, (Schema.toJsonSchema ⟨g.finish, 0⟩).get? "$defs" = some (.object entries) ∧
        "Order" ∈ Keyed.keys entries := by
  have htype : ((new orders .explicitOnly).run
      [.generate "Draft", .generate "Order"]).2.finish.typeId? "Order" = some 0 := by
    simp only [run, call, generate, generateExpr, Generating.exprNode_eq_exprNodeWithin_size]
    rfl
  obtain ⟨fields, hnode⟩ : ∃ fields, ((new orders .explicitOnly).run
      [.generate "Draft", .generate "Order"]).2.finish.node? 0 =
        some (.object ⟨"Order", fields⟩) := by
    simp only [run, call, generate, generateExpr, Generating.exprNode_eq_exprNodeWithin_size]
    exact ⟨_, rfl⟩
  have hdefines := definesExactly_of_yields (.finished (.type htype))
  have hreaches := SchemaSet.ReachesObject.of_node? hnode
  obtain ⟨entries, hentries, -, hmem⟩ := hdefines.definitions ⟨_, hreaches⟩
  exact ⟨htype, hdefines, entries, hentries,
    List.mem_map_of_mem (f := (·.1)) ((hmem _).mpr ⟨_, hreaches, rfl⟩)⟩

end Registry

end Conformance

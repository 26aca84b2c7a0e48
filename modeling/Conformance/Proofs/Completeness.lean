import Conformance.Proofs.Entries
import Conformance.Proofs.Generation.Failures
import Conformance.Proofs.Lookups

/-!
# Complete arenas

Between two calls nothing is reserved: the arena of a generator is closed, and its registry
describes it (`Conformance.Arena.Complete`), whatever calls were made before and whether they
failed. So the places that can be had of a finished table (`Conformance.SchemaSet.Gives`) have a
node, and neither a walk nor a rendering that starts at one of them ever leaves the table.

* `Conformance.Generator.Leads.complete` – the arena of a generator is complete;
* `Conformance.Generator.complete_run` – so is that of every run, and the schemas of its table stay
  inside;
* `Conformance.Registry.Yields` – the schemas that can be had.
-/

namespace Conformance

/-- **A complete arena**: no place that is held anywhere lies outside, and what is there is what the
registry describes. -/
structure Arena.Complete (r : Registry) (m : Mode) (a : Arena) : Prop where
  /-- The places that are known lie inside. -/
  cached_lt : ∀ p ∈ a.cache, p.2 < a.nodes.length
  /-- The nodes of fields lie inside. -/
  field_lt : ∀ (id : NodeId) (o : ObjectSchema), a.nodes[id]? = some (.object o) →
    ∀ f ∈ o.fields, f.schema < a.nodes.length
  /-- The elements of an array lie before it. -/
  element_lt : ∀ (id : NodeId) (x : ArraySchema), a.nodes[id]? = some (.array x) → x.element < id
  /-- An object is that of a type of the registry, with its fields. -/
  object : ∀ (id : NodeId) (o : ObjectSchema), a.nodes[id]? = some (.object o) →
    ∃ t, r.find? o.name = some t ∧ FieldsStandFor m a.nodes t o.fields
  /-- The fields of an object have different names. -/
  distinct : ∀ (id : NodeId) (o : ObjectSchema), a.nodes[id]? = some (.object o) →
    (o.fields.map (·.name)).Nodup
  /-- No two objects have one name. -/
  unique : ∀ (id id' : NodeId) (o o' : ObjectSchema), a.nodes[id]? = some (.object o) →
    a.nodes[id']? = some (.object o') → o.name = o'.name → id = id'
  /-- A type expression that is known has a node of its shape. -/
  cached : ∀ e id, a.cached? e = some id → StandsFor m a.nodes e none none id

/-- **The schemas that a finished table gives**: at a place that has a node, and under the name of a
type. -/
inductive SchemaSet.Gives (set : SchemaSet) : Schema → Prop where
  /-- At a place that has a node. -/
  | place {id : NodeId} {s : Schema} (h : set.schema? id = some s) : set.Gives s
  /-- Under the name of a type. -/
  | type {name : String} {id : NodeId} (h : set.typeId? name = some id) : set.Gives ⟨set, id⟩

namespace Generator

variable {r : Registry} {m : Mode} {g : Generator}

/-- The arena of a generator is complete. -/
theorem Leads.complete (h : (new r m).Leads g) : g.arena.Complete r m := by
  have hsound : g.arena.Sound r m [] := h.sound_arena
  have hset : g.finish.Sound r m := h.sound_finish
  refine ⟨h.sound.bounded, fun id o ho f hf => ?_, fun id x hx => (hsound.fits id _ hx).element,
    hset.object, fun id o => hset.nodup, hset.unique, hsound.cached⟩
  obtain ⟨n, hn⟩ := hset.exists_node ho hf
  exact (List.getElem?_eq_some_iff.mp hn).1

/-- The place of a named type is inside the finished table. -/
theorem lt_of_typeId? (hg : g.Sound) {name : String} {id : NodeId}
    (h : g.finish.typeId? name = some id) : id < g.arena.nodes.length := by
  obtain ⟨⟨e, id'⟩, hmem, heq⟩ := List.mem_filterMap.mp (Keyed.mem_of_find?_ofList h)
  cases e with
  | named name' =>
    obtain ⟨-, rfl⟩ := Prod.mk.inj (Option.some.inj heq)
    exact hg.bounded _ hmem
  | _ => exact absurd heq (by simp)

/-- The schemas that the finished table of a generator gives stay inside it. -/
theorem Leads.staysInside (h : (new r m).Leads g) {s : Schema} (hs : g.finish.Gives s) :
    s.StaysInside := by
  cases hs with
  | place hplace =>
    obtain ⟨n, hn, rfl⟩ := Option.map_eq_some_iff.mp hplace
    exact h.sound_finish.staysInside hn
  | type htype =>
    exact h.sound_finish.staysInside (List.getElem?_eq_getElem (lt_of_typeId? h.sound htype))

/-- The schema of one type has a table that a new generator leads to, and its root is in it. -/
theorem exists_leads_of_generate {name : String} {s : Schema}
    (h : Schema.generate r name m = .ok s) :
    ∃ g, (new r m).Leads g ∧ s.set = g.finish ∧ ∃ n, s.set.node? s.root = some n := by
  have hleads := (Leads.refl (sound_new r m)).generateExpr (.named name)
  unfold Schema.generate at h
  split at h
  · rename_i id g hcall
    obtain rfl := Except.ok.inj h
    have hanswer : ((new r m).generateExpr (.named name)).1 = .ok id := congrArg Prod.fst hcall
    have hknown := (generateExpr_makes (sound_new r m) hanswer).cached?_eq
    rw [show (new r m).generateExpr (.named name) = (.ok id, g) from hcall] at hleads hknown
    exact ⟨g, hleads, rfl, _, List.getElem?_eq_getElem (hleads.sound.bounded.lt hknown)⟩
  · exact absurd h (by simp)

/-- The schema of one type stays inside its table. -/
theorem staysInside_of_generate {name : String} {s : Schema}
    (h : Schema.generate r name m = .ok s) : s.StaysInside := by
  obtain ⟨g, hleads, hset, n, hn⟩ := exists_leads_of_generate h
  have hsound : s.set.Sound r m := by
    rw [hset]
    exact hleads.sound_finish
  exact hsound.staysInside hn

/-- **After every run the arena is complete**, and the schemas that its table gives stay inside it,
as does that of a type that is generated on its own. -/
theorem complete_run (r : Registry) (m : Mode) (calls : List Call) :
    let g := ((new r m).run calls).2
    g.arena.Complete r m ∧ (∀ s, g.finish.Gives s → s.StaysInside) ∧
      ∀ name s, Schema.generate r name m = .ok s → s.StaysInside := by
  intro g
  have hleads : (new r m).Leads g := run_leads (sound_new r m) calls
  exact ⟨hleads.complete, fun s => hleads.staysInside, fun name s => staysInside_of_generate⟩

/-- The schema of orders stays inside a table that was begun by a call that failed. -/
theorem complete_run_orders :
    let g := ((new orders .explicitOnly).run [.generate "Draft", .generate "Order"]).2
    g.finish.typeId? "Order" = some 0 ∧ Schema.StaysInside ⟨g.finish, 0⟩ := by
  have htype : ((new orders .explicitOnly).run
      [.generate "Draft", .generate "Order"]).2.finish.typeId? "Order" = some 0 := by
    simp only [run, call, generate, generateExpr, Generating.exprNode_eq_exprNodeWithin_size]
    rfl
  obtain ⟨-, hgives, -⟩ := complete_run orders .explicitOnly [.generate "Draft", .generate "Order"]
  exact ⟨htype, hgives _ (.type htype)⟩

end Generator

/-- **The schemas that a registry yields**: those that the finished table of a generator gives,
after any calls, and those of types that are generated on their own. -/
inductive Registry.Yields (r : Registry) (m : Mode) : Schema → Prop where
  /-- From a finished table. -/
  | finished {calls : List Call} {s : Schema}
    (h : ((Generator.new r m).run calls).2.finish.Gives s) : r.Yields m s
  /-- On its own. -/
  | generated {name : String} {s : Schema} (h : Schema.generate r name m = .ok s) : r.Yields m s

namespace Registry.Yields

variable {r : Registry} {m : Mode} {s : Schema}

/-- A schema that is yielded has a sound table. -/
theorem sound (h : r.Yields m s) : s.set.Sound r m := by
  cases h with
  | @finished calls _ h =>
    have hsound := Generator.sound_finish_run r m calls
    cases h with
    | place hplace =>
      obtain ⟨n, -, rfl⟩ := Option.map_eq_some_iff.mp hplace
      exact hsound
    | type htype => exact hsound
  | generated h =>
    obtain ⟨g, hleads, hset, -⟩ := Generator.exists_leads_of_generate h
    rw [hset]
    exact hleads.sound_finish

/-- A schema that is yielded stays inside its table. -/
theorem staysInside (h : r.Yields m s) : s.StaysInside := by
  cases h with
  | @finished calls _ h => exact (Generator.run_leads (Generator.sound_new r m) calls).staysInside h
  | generated h => exact Generator.staysInside_of_generate h

end Registry.Yields

end Conformance

import Conformance.Proofs.Generation.Depiction

/-!
# Runs of a generator

A generator is called any number of times, in any order, and its calls may fail. A run
(`Conformance.Generator.run`) keeps each call with its answer. What one call does
(`Conformance.Generator.Leads`) is that it keeps the generator sound and only adds to its arena; so
does a run, and what was answered in its course still holds at its end.

* `Conformance.Generator.generateExpr_of_ensures` – what one call does;
* `Conformance.Generator.run_preserves` – what a call for a type expression preserves, a run does;
* `Conformance.Generator.run_leads` – what a run does;
* `Conformance.Generator.cached?_of_answered` – a type expression whose node was answered is known
  at the end of the run, with that node;
* `Conformance.Generator.sound_finish_run` – the table that a run from the start ends in is sound
  (`Conformance.SchemaSet.Sound`).
-/

namespace Conformance

/-- A call of a generator. -/
inductive Call where
  /-- For the node of a named type. -/
  | generate (name : String)
  /-- For the node of a type expression. -/
  | generateExpr (e : TypeExpr)
  /-- For the nodes of all types of the registry. -/
  | generateAll

/-- The type expression that a call for one node is for. -/
def Call.expr? : Call → Option TypeExpr
  | .generate name => some (.named name)
  | .generateExpr e => some e
  | .generateAll => none

/-- What a call answers. -/
inductive Answer where
  /-- A node, or a failure. -/
  | node (result : Except GenerationError NodeId)
  /-- Success, or the first failure. -/
  | all (result : Except GenerationError Unit)

namespace Generator

/-- The answer to a call, and the generator afterwards. -/
def call (g : Generator) : Call → Answer × Generator
  | .generate name => ((.node (g.generate name).1), (g.generate name).2)
  | .generateExpr e => ((.node (g.generateExpr e).1), (g.generateExpr e).2)
  | .generateAll => ((.all g.generateAll.1), g.generateAll.2)

/-- The calls made in turn, each with its answer, and the generator at the end. -/
def run (g : Generator) : List Call → List (Call × Answer) × Generator
  | [] => ([], g)
  | c :: rest =>
    let next := (g.call c).2.run rest
    ((c, (g.call c).1) :: next.1, next.2)

/-- A sound generator: its arena is sound, with nothing reserved. -/
structure Sound (g : Generator) : Prop where
  /-- Every type expression that was met has a node. -/
  bounded : g.arena.Bounded
  /-- The nodes stand for the descriptions. -/
  arena : g.arena.Sound g.registry g.mode []

/-- **One generator leads to another**: it stays sound, keeps its registry and its mode, and its
arena grows. -/
structure Leads (g g' : Generator) : Prop where
  /-- The registry is kept. -/
  registry : g'.registry = g.registry
  /-- The mode is kept. -/
  mode : g'.mode = g.mode
  /-- The arena grows. -/
  grows : g.arena.Grows g'.arena
  /-- Soundness is kept. -/
  sound : g'.Sound

variable {g g' g'' : Generator} {e : TypeExpr} {id : NodeId}

theorem Leads.refl (hg : g.Sound) : g.Leads g := ⟨rfl, rfl, .refl _, hg⟩

theorem Leads.trans (h : g.Leads g') (h' : g'.Leads g'') : g.Leads g'' :=
  ⟨h'.registry.trans h.registry, h'.mode.trans h.mode, h.grows.trans h'.grows, h'.sound⟩

theorem sound_new (r : Registry) (m : Mode) : (new r m).Sound :=
  ⟨fun _ hp => absurd hp (by simp [new, Arena.empty]), Arena.sound_empty r m⟩

/-- **A call for a type expression does what its step does**, except that a failure changes
nothing. -/
theorem generateExpr_of_ensures (hg : g.Sound) {done : NodeId → Arena → Prop}
    {failed : GenerationError → Arena → Prop}
    (h : (Generating.exprNode g.mode g.registry e "<root>").Ensures g.arena done failed) :
    (∃ id b, g.generateExpr e = (.ok id, { g with arena := b }) ∧ done id b) ∨
    ∃ error b, g.generateExpr e = (.error error, g) ∧ failed error b := by
  have hstep := (Generating.exprNode_grows (m := g.mode) g.registry e "<root>" g.arena).and h
  unfold Generating.Ensures at hstep
  unfold generateExpr
  cases hrun : (Generating.exprNode g.mode g.registry e "<root>").run g.arena with
  | ok id b =>
    rw [hrun] at hstep
    exact Or.inl ⟨id, b, rfl, hstep.2⟩
  | error error b =>
    -- what the descent has added until it failed is rolled back
    rw [hrun] at hstep
    obtain ⟨hgrows, hfailed⟩ := hstep
    simp only [hgrows.rollback hg.bounded]
    exact Or.inr ⟨error, b, rfl, hfailed⟩

/-- A call for a type expression makes a node, or it fails and changes nothing. -/
theorem generateExpr_cases (hg : g.Sound) (e : TypeExpr) :
    (∃ id b, g.generateExpr e = (.ok id, { g with arena := b }) ∧
      Generating.Makes g.registry g.mode e g.arena id b) ∨
    ∃ error, g.generateExpr e = (.error error, g) := by
  have hlacks : g.arena.Lacks g.registry g.registry := fun _ _ => rfl
  rcases generateExpr_of_ensures hg
      (Generating.exprNode_makes g.registry e "<root>" g.arena hlacks) with
    h | ⟨error, b, hcall, -⟩
  · exact Or.inl h
  · exact Or.inr ⟨error, hcall⟩

/-- A node that a call answers was made. -/
theorem generateExpr_makes (hg : g.Sound) (h : (g.generateExpr e).1 = .ok id) :
    Generating.Makes g.registry g.mode e g.arena id (g.generateExpr e).2.arena := by
  rcases generateExpr_cases hg e with ⟨id', b, heq, hmakes⟩ | ⟨error, heq⟩
  · rw [heq] at h ⊢
    obtain rfl : id' = id := by simpa using h
    exact hmakes
  · rw [heq] at h
    exact absurd h (by simp)

/-- A call that makes a node leads to another generator, and so does one that fails. -/
theorem generateExpr_leads (hg : g.Sound) (e : TypeExpr) : g.Leads (g.generateExpr e).2 := by
  rcases generateExpr_cases hg e with ⟨id, b, heq, hmakes⟩ | ⟨error, heq⟩
  · rw [heq]
    exact ⟨rfl, rfl, hmakes.grows, hmakes.grows.bounded hg.bounded, hmakes.sound hg.arena⟩
  · rw [heq]
    exact .refl hg

/-! What a call for a type expression preserves is preserved by every call and by every run. -/

section Preservation

variable {P : Generator → Prop} (hstep : ∀ g e, P g → P (generateExpr g e).2)

include hstep

theorem generateNames_preserves (hg : P g) (names : List String) :
    P (g.generateNames names).2 := by
  induction names generalizing g with
  | nil => exact hg
  | cons name rest ih =>
    have hcall : P (g.generate name).2 := hstep g (.named name) hg
    unfold generateNames
    split
    · rename_i id g' heq
      rw [heq] at hcall
      exact ih hcall
    · rename_i error g' heq
      rw [heq] at hcall
      exact hcall

theorem call_preserves (hg : P g) (c : Call) : P (g.call c).2 := by
  cases c with
  | generate name => exact hstep g (.named name) hg
  | generateExpr e => exact hstep g e hg
  | generateAll => exact generateNames_preserves hstep hg g.registry.names

theorem run_preserves (hg : P g) (calls : List Call) : P (g.run calls).2 := by
  induction calls generalizing g with
  | nil => exact hg
  | cons c rest ih => exact ih (call_preserves hstep hg c)

end Preservation

/-- What a generator leads to leads on. -/
theorem Leads.generateExpr (h : g.Leads g') (e : TypeExpr) : g.Leads (g'.generateExpr e).2 :=
  h.trans (generateExpr_leads h.sound e)

/-- **What a call does**, whatever it is for. -/
theorem call_leads (hg : g.Sound) (c : Call) : g.Leads (g.call c).2 :=
  call_preserves (fun _ e h => h.generateExpr e) (.refl hg) c

/-- **What a run does.** -/
theorem run_leads (hg : g.Sound) (calls : List Call) : g.Leads (g.run calls).2 :=
  run_preserves (fun _ e h => h.generateExpr e) (.refl hg) calls

/-- A call for one node does what the call for its type expression does. -/
theorem call_of_expr? {c : Call} (h : c.expr? = some e) :
    g.call c = (.node (g.generateExpr e).1, (g.generateExpr e).2) := by
  cases c with
  | generate name =>
    obtain rfl := Option.some.inj h
    rfl
  | generateExpr e' =>
    obtain rfl := Option.some.inj h
    rfl
  | generateAll => exact absurd h (by simp [Call.expr?])

/-- **What was answered still holds**: a type expression whose node was answered in the course of a
run, under its name or as it is, has that node at its end. -/
theorem cached?_of_answered (hg : g.Sound) {calls : List Call} {c : Call} (he : c.expr? = some e)
    (h : (c, Answer.node (.ok id)) ∈ (g.run calls).1) :
    (g.run calls).2.arena.cached? e = some id := by
  induction calls generalizing g with
  | nil => exact absurd h (by simp [run])
  | cons c' rest ih =>
    have hcall := call_leads hg c'
    rcases List.mem_cons.mp h with heq | hmem
    · obtain ⟨rfl, hanswer⟩ := Prod.mk.inj heq
      have hid : (g.generateExpr e).1 = .ok id := by
        simpa [call_of_expr? he] using hanswer.symm
      have hknown : (g.call c).2.arena.cached? e = some id := by
        rw [call_of_expr? he]
        exact (generateExpr_makes hg hid).cached?_eq
      exact (run_leads hcall.sound rest).grows.cached? hknown
    · exact ih hcall.sound hmem

theorem cached?_of_mem_run (hg : g.Sound) {calls : List Call}
    (h : (Call.generateExpr e, Answer.node (.ok id)) ∈ (g.run calls).1) :
    (g.run calls).2.arena.cached? e = some id :=
  cached?_of_answered hg rfl h

variable {r : Registry} {m : Mode}

/-- What a new generator leads to is sound for its registry and its mode. -/
theorem Leads.sound_arena (h : (new r m).Leads g) : g.arena.Sound r m [] := by
  have hsound := h.sound.arena
  rw [h.registry, h.mode] at hsound
  exact hsound

/-- What a run from the start makes is sound. -/
theorem sound_run_new (r : Registry) (m : Mode) (calls : List Call) :
    ((new r m).run calls).2.arena.Sound r m [] :=
  (run_leads (sound_new r m) calls).sound_arena

end Generator

/-! ### Finished tables -/

/-- **A sound table**, made from the types of a registry. -/
structure SchemaSet.Sound (r : Registry) (m : Mode) (s : SchemaSet) : Prop where
  /-- An object stands for the type of its name. -/
  object : ∀ (id : NodeId) (o : ObjectSchema), s.node? id = some (.object o) →
    ∃ t, r.find? o.name = some t ∧ FieldsStandFor m s.nodes t o.fields
  /-- No two objects have one name. -/
  unique : ∀ (id id' : NodeId) (o o' : ObjectSchema), s.node? id = some (.object o) →
    s.node? id' = some (.object o') → o.name = o'.name → id = id'
  /-- Every node fits at its place. -/
  fits : ∀ (id : NodeId) (n : Node), s.node? id = some n → n.Fits r m id

/-- The names of the fields of an object differ. -/
theorem SchemaSet.Sound.nodup {r : Registry} {m : Mode} {s : SchemaSet} (h : s.Sound r m)
    {id : NodeId} {o : ObjectSchema} (ho : s.node? id = some (.object o)) :
    (o.fields.map (·.name)).Nodup := by
  obtain ⟨t, -, hfields⟩ := h.object id o ho
  exact hfields.nodup

/-- A field of an object stands for a field of one of the types. -/
theorem SchemaSet.Sound.exists_describes {r : Registry} {m : Mode} {s : SchemaSet}
    (h : s.Sound r m) {id : NodeId} {o : ObjectSchema} (ho : s.node? id = some (.object o))
    {f : FieldSchema} (hf : f ∈ o.fields) : ∃ d, r.Describes d ∧ FieldStandsFor m s.nodes d f := by
  obtain ⟨t, ht, hfields⟩ := h.object id o ho
  obtain ⟨d, hd, hstands⟩ := hfields.exists_of_mem hf
  exact ⟨d, ⟨_, t, ht, hd⟩, hstands⟩

/-- A field of an object has a node. -/
theorem SchemaSet.Sound.exists_node {r : Registry} {m : Mode} {s : SchemaSet} (h : s.Sound r m)
    {id : NodeId} {o : ObjectSchema} (ho : s.node? id = some (.object o)) {f : FieldSchema}
    (hf : f ∈ o.fields) : ∃ n, s.node? f.schema = some n := by
  obtain ⟨d, -, hd⟩ := h.exists_describes ho hf
  exact ⟨_, List.getElem?_eq_getElem hd.schema.lt⟩

namespace Generator

variable {r : Registry} {m : Mode} {calls : List Call} {e : TypeExpr} {id : NodeId}

/-- What a new generator leads to has a sound table. -/
theorem Leads.sound_finish {g : Generator} (hg : (new r m).Leads g) : g.finish.Sound r m := by
  have h := hg.sound_arena
  refine ⟨fun id o ho => ?_, fun id id' o o' ho ho' hname => ?_, h.fits⟩
  · obtain ⟨-, t, ht, -⟩ := h.object id o ho
    exact ⟨t, ht, h.fieldsStandFor ho ht⟩
  · have hid := (h.object id o ho).1
    rw [hname, (h.object id' o' ho').1] at hid
    exact (Option.some.inj hid).symm

/-- **The table that a run from the start ends in is sound.** -/
theorem sound_finish_run (r : Registry) (m : Mode) (calls : List Call) :
    ((new r m).run calls).2.finish.Sound r m :=
  (run_leads (sound_new r m) calls).sound_finish

/-- A type expression whose node was answered in the course of a run has a node in the table that
the run ends in, which stands for it. -/
theorem standsFor_of_mem_run
    (h : (Call.generateExpr e, Answer.node (.ok id)) ∈ ((new r m).run calls).1) :
    StandsFor m ((new r m).run calls).2.finish.nodes e none none id :=
  (sound_run_new r m calls).cached e id (cached?_of_mem_run (sound_new r m) h)

end Generator

end Conformance

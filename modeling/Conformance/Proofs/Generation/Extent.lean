import Conformance.Proofs.Generation.Evaluation
import Conformance.Proofs.Generation.Outcomes
import Conformance.Proofs.Generation.Reachability
import Conformance.Proofs.SortedEntries

/-!
# What a finished table holds

A table is finished with everything that its generator has made. If the generator was asked for one
type only, and was new, that is what the type reaches and nothing else
(`Conformance.Schema.Exhausts`): the types that it links to, in any number of steps, each with one
object, and no node that cannot be reached from the root.

If it was asked for all types, in the order of their names, it stops at the first one that has no
schema (`Conformance.Generator.GeneratesAll`). Which one this is does not depend on the calls
before, and the types in front of it are all that is added.

* `Conformance.Generator.typeId?_finish` – the types of a finished table are those that were met;
* `Conformance.Generator.exhausts_of_generate` – the schema of one type;
* `Conformance.Generator.generateNames_cases` – calls for named types, in turn;
* `Conformance.Generator.generates_what_is_reached` – the schema of one type, and the call for all
  types.
-/

namespace Conformance

open Relation (ReflTransGen)

/-! ### Registries in order -/

namespace Registry

/-- **A registry in the order of the names of its types**, none of which occurs twice. -/
def Ordered (r : Registry) : Prop := Keyed.Ordered r.types

theorem ordered_empty : empty.Ordered := List.Pairwise.nil

/-- Adding a type keeps the order. -/
theorem Ordered.register {r : Registry} (h : r.Ordered) (t : ObjectType) : (r.register t).Ordered :=
  Keyed.ordered_insert h

/-- Adding new types keeps the order. -/
theorem Ordered.merge {r r' : Registry} (h : r.Ordered) {types : List ObjectType}
    (hmerge : r.merge types = .ok r') : r'.Ordered := by
  induction types generalizing r with
  | nil =>
    obtain rfl : r = r' := by simpa [Registry.merge] using hmerge
    exact h
  | cons t rest ih =>
    rw [Registry.merge] at hmerge
    split at hmerge
    · exact absurd hmerge (by simp)
    · exact ih (h.register t) hmerge

end Registry

/-! ### Type expressions are remembered once -/

namespace Arena

variable {a : Arena} {e : TypeExpr} {id : NodeId} {n : Node}

/-- No type expression is remembered twice. -/
def Distinct (a : Arena) : Prop := (a.cache.map (·.1)).Nodup

theorem Distinct.push (h : a.Distinct) : (a.push n).2.Distinct := h

theorem Distinct.fill (h : a.Distinct) : (a.fill id n).Distinct := h

theorem Distinct.remember (h : a.Distinct) : (a.remember e id).Distinct := by
  refine List.nodup_cons.mpr ⟨fun hmem => ?_, (List.filter_sublist.map _).nodup h⟩
  obtain ⟨p, hp, heq⟩ := List.mem_map.mp hmem
  exact absurd heq (by simpa using (List.mem_filter.mp hp).2)

/-- What stands in the cache is known. -/
theorem Distinct.cached?_eq_some_iff (h : a.Distinct) :
    a.cached? e = some id ↔ (e, id) ∈ a.cache := by
  refine ⟨mem_of_cached?, fun hmem => ?_⟩
  obtain ⟨nodes, cache⟩ := a
  induction cache with
  | nil => exact absurd hmem List.not_mem_nil
  | cons p rest ih =>
    obtain ⟨hnot, hrest⟩ := List.nodup_cons.mp h
    rcases List.mem_cons.mp hmem with rfl | hmem
    · exact List.lookup_cons_self
    · have hne : e ≠ p.1 := by
        rintro rfl
        exact hnot (List.mem_map_of_mem (f := (·.1)) hmem)
      have hrest' : cached? ⟨nodes, rest⟩ e = some id := ih hrest hmem
      rw [cached?, List.lookup_cons, beq_false_of_ne hne]
      exact hrest'

end Arena

namespace Generating

variable {r : Registry} {m : Mode}

mutual

/-- A derivation remembers no type expression twice. -/
theorem Makes.distinct {e : TypeExpr} {a b : Arena} {id : NodeId} :
    Makes r m e a id b → a.Distinct → b.Distinct
  | .known _, h => h
  | .scalar _, h => h.push.remember
  | .array _ elements, h => (elements.distinct h).push.remember
  | .named _ _ each, h => (each.distinct h.push.remember).fill

theorem MakesField.distinct {owner : String} {f : FieldDescription} {a b : Arena} {id : NodeId} :
    MakesField r m owner f a id b → a.Distinct → b.Distinct
  | .plain _ node, h => node.distinct h
  | .least _ node, h => (node.distinct h).push
  | .pattern _, h => h.push

theorem MakesFields.distinct {owner : String} {seen : List String}
    {fields : List FieldDescription} {a b : Arena} {made : List FieldSchema} :
    MakesFields r m owner seen fields a made b → a.Distinct → b.Distinct
  | .nil, h => h
  | .cons _ node behind, h => behind.distinct (node.distinct h)

end

end Generating

namespace Generator

variable {r : Registry} {m : Mode} {g : Generator} {e : TypeExpr} {name : String} {id : NodeId}

/-- A call remembers no type expression twice. -/
theorem generateExpr_distinct (hg : g.Sound) (h : g.arena.Distinct) (e : TypeExpr) :
    (g.generateExpr e).2.arena.Distinct := by
  rcases generateExpr_cases hg e with ⟨id, b, heq, hmakes⟩ | ⟨error, heq⟩
  · rw [heq]
    exact hmakes.distinct h
  · rw [heq]
    exact h

/-- A run remembers no type expression twice. -/
theorem run_distinct (hg : g.Sound) (h : g.arena.Distinct) (calls : List Call) :
    (g.run calls).2.arena.Distinct :=
  (run_preserves (P := fun g => g.Sound ∧ g.arena.Distinct)
    (fun _ e h => ⟨(generateExpr_leads h.1 e).sound, generateExpr_distinct h.1 h.2 e⟩)
    ⟨hg, h⟩ calls).2

theorem distinct_new (r : Registry) (m : Mode) : (new r m).arena.Distinct := List.nodup_nil

/-! ### The types of a finished table -/

/-- **The types of a finished table are those that were met**, each with its node. -/
theorem typeId?_finish (h : g.arena.Distinct) :
    g.finish.typeId? name = some id ↔ g.arena.cached? (.named name) = some id := by
  have hmem : ∀ {name : String} {id : NodeId},
      (name, id) ∈ g.namedTypes ↔ (TypeExpr.named name, id) ∈ g.arena.cache := by
    intro name id
    refine List.mem_filterMap.trans ⟨?_, fun hc => ⟨_, hc, rfl⟩⟩
    rintro ⟨⟨e, id'⟩, hc, heq⟩
    cases e with
    | named name' =>
      obtain ⟨rfl, rfl⟩ := Prod.mk.inj (Option.some.inj heq)
      exact hc
    | _ => exact absurd heq (by simp)
  have hnodup : (g.namedTypes.map (·.1)).Nodup := by
    refine List.pairwise_map.mpr (List.pairwise_filterMap.mpr ((List.pairwise_map.mp h).imp ?_))
    rintro ⟨e, id⟩ ⟨e', id'⟩ hne p hp p' hp' heq
    cases e with
    | named name =>
      cases e' with
      | named name' =>
        obtain rfl := Option.some.inj hp
        obtain rfl := Option.some.inj hp'
        exact hne (congrArg TypeExpr.named heq)
      | _ => exact absurd hp' (by simp)
    | _ => exact absurd hp (by simp)
  exact (Keyed.find?_ofList hnodup).trans (hmem.trans h.cached?_eq_some_iff.symm)

/-- The names of a finished table are those of the types that were met. -/
theorem mem_typeNames_finish (h : g.arena.Distinct) :
    name ∈ g.finish.typeNames ↔ g.arena.Knows name :=
  Keyed.mem_keys_iff.trans (exists_congr fun _ => typeId?_finish h)

end Generator

/-! ### The schema of one type -/

/-- **The schema of a type holds what the type reaches, and nothing else**: these types, each with
one object, and no node but those that are reached from the root, which is the object of the type
itself. -/
structure Schema.Exhausts (r : Registry) (name : String) (s : Schema) : Prop where
  /-- The root is the object of the type. -/
  root : s.set.typeId? name = some s.root
  /-- The types are those that this one links to, in any number of steps. -/
  types : ∀ name', name' ∈ s.set.typeNames ↔ ReflTransGen r.Links name name'
  /-- Each of them has one object. -/
  object : ∀ name' ∈ s.set.typeNames, ∃ id, s.set.typeSchema? name' = some ⟨s.set, id⟩ ∧
    ∀ id', (∃ fields, s.set.node? id' = some (.object ⟨name', fields⟩)) ↔ id' = id
  /-- Every node is reached from the root. -/
  reached : ∀ id < s.set.size, ReflTransGen (PointsTo s.set.nodes) s.root id

namespace Generator

/-- A type of a finished table has one object. -/
theorem Leads.typeSchema?_finish (h : (new r m).Leads g) (hdistinct : g.arena.Distinct)
    (hname : name ∈ g.finish.typeNames) : ∃ id, g.finish.typeSchema? name = some ⟨g.finish, id⟩ ∧
      ∀ id', (∃ fields, g.finish.node? id' = some (.object ⟨name, fields⟩)) ↔ id' = id := by
  obtain ⟨id, hid⟩ := (mem_typeNames_finish hdistinct).mp hname
  obtain ⟨fields, hnode⟩ := h.sound_arena.cached _ _ hid
  refine ⟨id, ?_, fun id' => ⟨?_, ?_⟩⟩
  · have hnode' : g.finish.node? id = some (.object ⟨name, fields⟩) := hnode
    rw [SchemaSet.typeSchema?, (typeId?_finish hdistinct).mpr hid, Option.bind_some,
      SchemaSet.schema?, hnode', Option.map_some]
  · rintro ⟨fields', hnode'⟩
    exact Option.some.inj ((h.sound_arena.object id' _ hnode').1.symm.trans hid)
  · rintro rfl
    exact ⟨fields, hnode⟩

/-- **The schema of a type holds what the type reaches**, and nothing else. -/
theorem exhausts_of_generate {s : Schema} (h : Schema.generate r name m = .ok s) :
    s.Exhausts r name := by
  rcases generateExpr_survey (sound_new r m) (settled_new r m) (.named name) with
    ⟨id, b, known, hcall, hok, hb⟩ | ⟨error, hcall, -⟩
  · have hleads := (Leads.refl (sound_new r m)).generateExpr (.named name)
    have hdistinct := generateExpr_distinct (sound_new r m) (distinct_new r m) (.named name)
    have hid : ((new r m).generateExpr (.named name)).1 = .ok id := by rw [hcall]
    have hmakes := generateExpr_makes (sound_new r m) hid
    rw [hcall] at hleads hdistinct hmakes
    obtain rfl : (⟨finish { new r m with arena := b }, id⟩ : Schema) = s := by
      simpa [Schema.generate, generate, hcall] using h
    refine ⟨(typeId?_finish hdistinct).mpr hmakes.cached?_eq, fun name' => ?_,
      fun name' => hleads.typeSchema?_finish hdistinct,
      fun id' => hmakes.reached id' (Nat.zero_le _)⟩
    -- a new generator knows nothing that the survey has not met
    have hnone : ¬(new r m).arena.Knows name' :=
      fun ⟨_, hid'⟩ => absurd hid' (by simp [new, Arena.cached?, Arena.empty])
    rw [mem_typeNames_finish hdistinct, hb.knows, or_iff_left hnone, Registry.mem_survey_iff hok]
    simp [Registry.Reaches, TypeExpr.objectName?, new]
  · exact absurd h (by simp [Schema.generate, generate, hcall])

/-! ### Calls for named types, in turn -/

/-- A call for a named type ends as it does with a new generator, and the type is known then. -/
theorem generate_cases (hg : (new r m).Leads g) (hs : g.Settled) (name : String) :
    (∃ id g', g.generate name = (.ok id, g') ∧ (new r m).Leads g' ∧ g'.Settled ∧
      g'.arena.Knows name ∧ ∃ id', ((new r m).generate name).1 = .ok id') ∨
    ∃ error, g.generate name = (.error error, g) ∧
      ((new r m).generate name).1 = .error error := by
  -- the survey does not depend on the generator
  have hnew := generateExpr_survey (sound_new r m) (settled_new r m) (.named name)
  have hsurvey := generateExpr_survey hg.sound hs (.named name)
  rw [hg.registry] at hsurvey
  rcases hsurvey with ⟨id, b, known, hcall, hok, -⟩ | ⟨error, hcall, hfault⟩
  · rcases hnew with ⟨id', b', known', hcall', -, -⟩ | ⟨error, -, hfault⟩
    · have hid : (g.generateExpr (.named name)).1 = .ok id := by rw [hcall]
      have hmakes := generateExpr_makes hg.sound hid
      have hleads := hg.generateExpr (.named name)
      have hsettled := generateExpr_settled hg.sound hs (.named name)
      rw [hcall] at hmakes hleads hsettled
      exact Or.inl ⟨id, _, hcall, hleads, hsettled, ⟨id, hmakes.cached?_eq⟩, id',
        congrArg Prod.fst hcall'⟩
    · exact absurd (hok.symm.trans hfault) (by simp)
  · rcases hnew with ⟨id', b', known', -, hok, -⟩ | ⟨error', hcall', hfault'⟩
    · exact absurd (hok.symm.trans hfault) (by simp)
    · obtain rfl : error = error' := by simpa using hfault.symm.trans hfault'
      exact Or.inr ⟨error, hcall, congrArg Prod.fst hcall'⟩

/-- **Calls for named types, in turn**, end with the first one that a new generator fails to make.
They add what the types in front of it add. -/
theorem generateNames_cases (hg : (new r m).Leads g) (hs : g.Settled) (names : List String) :
    ((∀ name ∈ names, ∃ id, ((new r m).generate name).1 = .ok id) ∧
      g.generateNames names = (.ok (), (g.run (names.map .generate)).2) ∧
      ∀ name ∈ names, (g.run (names.map .generate)).2.arena.Knows name) ∨
    ∃ before name after error, names = before ++ name :: after ∧
      (∀ name' ∈ before, ∃ id, ((new r m).generate name').1 = .ok id) ∧
      ((new r m).generate name).1 = .error error ∧
      g.generateNames names = (.error error, (g.run (before.map .generate)).2) := by
  induction names generalizing g with
  | nil => exact Or.inl ⟨by simp, rfl, by simp⟩
  | cons name rest ih =>
    rcases generate_cases hg hs name with
      ⟨id, g', hcall, hg', hs', hknown, hfirst⟩ | ⟨error, hcall, hfails⟩
    · have hnames : g.generateNames (name :: rest) = g'.generateNames rest := by
        rw [generateNames, hcall]
      have hrun : ∀ calls, (g.run (.generate name :: calls)).2 = (g'.run calls).2 := by
        intro calls
        change ((g.generate name).2.run calls).2 = _
        rw [hcall]
      rcases ih hg' hs' with ⟨hothers, hrest, hknows⟩ |
        ⟨before, name', after, error, rfl, hothers, hfails, hrest⟩
      · refine Or.inl ⟨List.forall_mem_cons.mpr ⟨hfirst, hothers⟩, ?_,
          List.forall_mem_cons.mpr ⟨?_, fun name' hname' => ?_⟩⟩
        · rw [hnames, hrest, List.map_cons, hrun]
        · obtain ⟨id', hid'⟩ := hknown
          rw [List.map_cons, hrun]
          exact ⟨id', (run_leads hg'.sound _).grows.cached? hid'⟩
        · rw [List.map_cons, hrun]
          exact hknows name' hname'
      · refine Or.inr ⟨name :: before, name', after, error, rfl,
          List.forall_mem_cons.mpr ⟨hfirst, hothers⟩, hfails, ?_⟩
        rw [hnames, hrest, List.map_cons, hrun]
    · refine Or.inr ⟨[], name, rest, error, rfl, by simp, hfails, ?_⟩
      rw [generateNames, hcall]
      rfl

/-- **The call for all types**, of a generator that may have answered other calls. -/
structure GeneratesAll (r : Registry) (m : Mode) (g : Generator) : Prop where
  /-- It succeeds if every type has a schema of its own, and in no other case. -/
  ok_iff : g.generateAll.1 = .ok () ↔
    ∀ name ∈ r.names, ∃ s, Schema.generate r name m = .ok s
  /-- Then the types of the table are those of the registry. -/
  types : g.generateAll.1 = .ok () →
    ∀ name, name ∈ g.generateAll.2.finish.typeNames ↔ name ∈ r.names
  /-- They come in the same order. -/
  typeNames : g.generateAll.1 = .ok () → r.Ordered → g.generateAll.2.finish.typeNames = r.names
  /-- Otherwise the error is that of the first type without a schema, and the types in front of it
  are all that was made. -/
  failure : ∀ error, g.generateAll.1 = .error error → ∃ before name after,
    r.names = before ++ name :: after ∧
    (∀ name' ∈ before, ∃ s, Schema.generate r name' m = .ok s) ∧
    Schema.generate r name m = .error error ∧
    g.generateAll.2 = (g.run (before.map .generate)).2

/-- A type has a schema of its own if a new generator makes its node. -/
theorem exists_schema_iff :
    (∃ s, Schema.generate r name m = .ok s) ↔ ∃ id, ((new r m).generate name).1 = .ok id := by
  unfold Schema.generate
  rcases (new r m).generate name with ⟨error | id, g⟩ <;> simp

theorem schema_eq_error_iff {error : GenerationError} :
    Schema.generate r name m = .error error ↔ ((new r m).generate name).1 = .error error := by
  unfold Schema.generate
  rcases (new r m).generate name with ⟨error | id, g⟩ <;> simp

/-- The types that a generator knows are types of the registry. -/
theorem Leads.mem_names (hg : (new r m).Leads g) (h : g.arena.Knows name) : name ∈ r.names := by
  obtain ⟨id, hid⟩ := h
  obtain ⟨fields, hnode⟩ := hg.sound_arena.cached _ _ hid
  obtain ⟨-, t, ht, -⟩ := hg.sound_arena.object id _ hnode
  exact Registry.mem_names_iff.mpr ⟨t, ht⟩

/-- **The call for all types**, after any calls. -/
theorem generatesAll_run (r : Registry) (m : Mode) (calls : List Call) :
    ((new r m).run calls).2.GeneratesAll r m := by
  have hg := run_leads (sound_new r m) calls
  have hs := settled_run_new r m calls
  have hdistinct := run_distinct (sound_new r m) (distinct_new r m) calls
  generalize ((new r m).run calls).2 = g at hg hs hdistinct
  have hall : g.generateAll = g.generateNames r.names := by
    rw [generateAll, hg.registry]
    rfl
  rcases generateNames_cases hg hs r.names with
    ⟨heach, hcall, hknows⟩ | ⟨before, name, after, error, hnames, hbefore, hfails, hcall⟩
  · have hend := hg.trans (run_leads hg.sound (r.names.map .generate))
    have htypes : ∀ name, name ∈ g.generateAll.2.finish.typeNames ↔ name ∈ r.names := by
      intro name
      rw [hall, hcall, mem_typeNames_finish (run_distinct hg.sound hdistinct _)]
      exact ⟨hend.mem_names, hknows name⟩
    refine ⟨?_, fun _ => htypes, fun _ hordered => ?_, fun error herror => ?_⟩
    · rw [hall, hcall]
      exact iff_of_true rfl fun name hname => exists_schema_iff.mpr (heach name hname)
    · exact eq_of_pairwise_lt id (Keyed.ordered_ofList _).pairwise_keys hordered.pairwise_keys
        htypes
    · rw [hall, hcall] at herror
      exact absurd herror (by simp)
  · have hfails' : Schema.generate r name m = .error error := schema_eq_error_iff.mpr hfails
    have hfailure : g.generateAll.1 = .error error := by rw [hall, hcall]
    have hnot : g.generateAll.1 ≠ .ok () := by simp [hfailure]
    refine ⟨iff_of_false hnot fun heach => ?_, fun h => absurd h hnot, fun h => absurd h hnot,
      fun error' herror => ?_⟩
    · have hmem : name ∈ r.names := by
        rw [hnames]
        exact List.mem_append_right _ List.mem_cons_self
      obtain ⟨s, hs⟩ := heach name hmem
      exact absurd (hs.symm.trans hfails') (by simp)
    · obtain rfl : error = error' := by simpa using hfailure.symm.trans herror
      exact ⟨before, name, after, hnames, fun n hn => exists_schema_iff.mpr (hbefore n hn), hfails',
        by rw [hall, hcall]⟩

/-! ### Both -/

/-- **A table holds what it was asked for, and what this reaches.** The schema of one type holds
what the type reaches and nothing else; the call for all types, after any calls, makes all of them,
or those in front of the first one that has no schema. -/
theorem generates_what_is_reached (r : Registry) (m : Mode) :
    (∀ name s, Schema.generate r name m = .ok s → s.Exhausts r name) ∧
      ∀ calls, ((new r m).run calls).2.GeneratesAll r m :=
  ⟨fun _ _ => exhausts_of_generate, generatesAll_run r m⟩

/-- Albums with their tracks. -/
def albums : Registry :=
  (Registry.empty.register ⟨"Track", [.plain "next" (.named "Track")]⟩).register
    ⟨"Album", [{ FieldDescription.plain "tracks" (.array (.named "Track")) with
      nonEmpty := true }]⟩

theorem ordered_albums : albums.Ordered := (Registry.ordered_empty.register _).register _

/-- Albums, and loans that refer to a type that is missing. -/
def loans : Registry :=
  albums.register
    ⟨"Loan", [.plain "of" (.array (.named "Album")), .plain "by" (.named "Person")]⟩

/-- The schema of an album has three nodes, and the call for all types makes both types. With loans
it stops there, and no node of a loan is left. -/
theorem generates_what_is_reached_albums :
    let g := ((new albums .explicitOnly).run [.generateExpr (.array (.named "Track"))]).2
    let g' := ((new loans .explicitOnly).run [.generateExpr (.array (.named "Track"))]).2
    (∃ s, Schema.generate albums "Album" .explicitOnly = .ok s ∧ s.set.size = 3 ∧
      s.Exhausts albums "Album") ∧
    (g.generateAll.1 = .ok () ∧ g.generateAll.2.finish.typeNames = albums.names) ∧
    g'.generateAll.1 = .error (.unknownType "Person" "Loan.by") ∧
      ∃ before name after, loans.names = before ++ name :: after ∧
        (∀ name' ∈ before, ∃ s, Schema.generate loans name' .explicitOnly = .ok s) ∧
        Schema.generate loans name .explicitOnly = .error (.unknownType "Person" "Loan.by") ∧
        g'.generateAll.2 = (g'.run (before.map .generate)).2 := by
  obtain ⟨hgenerate, halbums⟩ := generates_what_is_reached albums .explicitOnly
  obtain ⟨-, hloans⟩ := generates_what_is_reached loans .explicitOnly
  obtain ⟨s, hs, hsize⟩ : ∃ s, Schema.generate albums "Album" .explicitOnly = .ok s ∧
      s.set.size = 3 := by
    simp only [Schema.generate, generate, generateExpr, Generating.exprNode_eq_exprNodeWithin_size]
    exact ⟨_, rfl, rfl⟩
  have hsucceeds : ((new albums .explicitOnly).run
      [.generateExpr (.array (.named "Track"))]).2.generateAll.1 = .ok () := by
    simp only [run, call, generateAll, generateExpr, Generating.exprNode_eq_exprNodeWithin_size]
    -- the call for all types goes through their names
    change (generateNames _ ["Album", "Track"]).1 = _
    simp only [generateNames, generate, generateExpr, Generating.exprNode_eq_exprNodeWithin_size]
    rfl
  have hfails : ((new loans .explicitOnly).run
      [.generateExpr (.array (.named "Track"))]).2.generateAll.1 =
      .error (.unknownType "Person" "Loan.by") := by
    simp only [run, call, generateAll, generateExpr, Generating.exprNode_eq_exprNodeWithin_size]
    change (generateNames _ ["Album", "Loan", "Track"]).1 = _
    simp only [generateNames, generate, generateExpr, Generating.exprNode_eq_exprNodeWithin_size]
    rfl
  exact ⟨⟨s, hs, hsize, hgenerate _ s hs⟩,
    ⟨hsucceeds, (halbums _).typeNames hsucceeds ordered_albums⟩, hfails,
    (hloans _).failure _ hfails⟩

end Generator

end Conformance

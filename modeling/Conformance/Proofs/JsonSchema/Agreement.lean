import Mathlib.Data.List.Forall2
import Conformance.Proofs.JsonSchema.Definitions
import Conformance.Proofs.JsonSchema.Rendering

/-!
# Tables that were made from the same descriptions

Two tables that were made from the same descriptions need not have the same nodes: each was made in
the order in which types were asked for, and it may hold types that the other lacks. Their nodes can
only be told apart by their places, though, and a rendering mentions no place. So nodes that stand
for the same type expression are rendered alike.

The objects of two tables that have one name are twins (`Conformance.SchemaSet.Twins`). Twins have
the same fields up to the places of their nodes, what the fields refer to are twins again, and so
the walks that collect the definitions go along with each other, name by name.

* `Conformance.SchemaSet.nodeMembers_eq` – nodes for one type expression have the same schema;
* `Conformance.SchemaSet.Twins.objectBody_eq` – twins have the same schema;
* `Conformance.SchemaSet.definitions_eq` – the walks collect the same definitions;
* `Conformance.SchemaSet.toJsonSchema_eq_of_standsFor` – the renderings are equal.
-/

namespace Conformance

/-- Patterns of one text are equal. -/
theorem Pattern.source_injective : Function.Injective Pattern.source := by
  intro p q h
  have hp := p.compile?_source
  rw [h, q.compile?_source] at hp
  exact (Option.some.inj hp).symm

namespace SchemaSet

variable {set set' : SchemaSet} {id id' : NodeId} {o o' : ObjectSchema} {e : TypeExpr}
variable {least : Option Nat} {pattern : Option String} {r : Registry} {m : Mode}

/-! ### Nodes for one type expression -/

/-- **Nodes that stand for one type expression have the same schema.** -/
theorem nodeMembers_eq (h : StandsFor m set.nodes e least pattern id)
    (h' : StandsFor m set'.nodes e least pattern id') :
    set.nodeMembers id = set'.nodeMembers id' := by
  induction e generalizing least pattern id id' with
  | scalar kind =>
    obtain ⟨p, hp, hnode⟩ := h
    obtain ⟨p', hp', hnode'⟩ := h'
    obtain rfl : p = p' := Option.map_injective Pattern.source_injective (hp.trans hp'.symm)
    rw [nodeMembers_scalar hnode, nodeMembers_scalar hnode']
  | array element ih =>
    obtain ⟨elementId, hlt, hnode, helement⟩ := h
    obtain ⟨elementId', hlt', hnode', helement'⟩ := h'
    rw [nodeMembers_array hnode hlt, nodeMembers_array hnode' hlt', nodeSchema, nodeSchema,
      ih helement helement']
  | named name =>
    obtain ⟨fields, hnode⟩ := h
    obtain ⟨fields', hnode'⟩ := h'
    rw [nodeMembers_object hnode, nodeMembers_object hnode']

/-- **Twins**: an object of one table, and the object of its name in another. -/
structure Twins (set set' : SchemaSet) (o o' : ObjectSchema) : Prop where
  /-- The one. -/
  left : set.Has o
  /-- The other. -/
  right : set'.Has o'
  /-- They have one name. -/
  name : o.name = o'.name

/-- Nodes that stand for one type expression refer to twins, or to nothing. -/
theorem referred?_rel (h : StandsFor m set.nodes e least pattern id)
    (h' : StandsFor m set'.nodes e least pattern id') :
    Option.Rel (set.Twins set') (set.referred? id) (set'.referred? id') := by
  induction e generalizing least pattern id id' with
  | scalar kind =>
    obtain ⟨p, -, hnode⟩ := h
    obtain ⟨p', -, hnode'⟩ := h'
    rw [referred?_scalar hnode, referred?_scalar hnode']
    exact .none
  | array element ih =>
    obtain ⟨elementId, hlt, hnode, helement⟩ := h
    obtain ⟨elementId', hlt', hnode', helement'⟩ := h'
    rw [referred?_array hnode hlt, referred?_array hnode' hlt']
    exact ih helement helement'
  | named name =>
    obtain ⟨fields, hnode⟩ := h
    obtain ⟨fields', hnode'⟩ := h'
    rw [referred?_object hnode, referred?_object hnode']
    exact .some ⟨⟨id, hnode⟩, ⟨id', hnode'⟩, rfl⟩

/-! ### Twins -/

namespace Twins

/-- The fields of twins stand for the same descriptions, one by one. -/
theorem fields (hs : set.Sound r m) (hs' : set'.Sound r m) (h : set.Twins set' o o') :
    List.Forall₂ (fun s s' => ∃ f, FieldStandsFor m set.nodes f s ∧
      FieldStandsFor m set'.nodes f s') o.fields o'.fields := by
  obtain ⟨⟨id, hnode⟩, ⟨id', hnode'⟩, hname⟩ := h
  obtain ⟨t, ht, heach, -⟩ := hs.object id o hnode
  obtain ⟨t', ht', heach', -⟩ := hs'.object id' o' hnode'
  rw [← hname, ht] at ht'
  obtain rfl := Option.some.inj ht'
  generalize t.fields = descriptions at heach heach'
  generalize o.fields = fields at heach
  generalize o'.fields = fields' at heach'
  induction heach generalizing fields' with
  | nil =>
    cases heach'
    exact .nil
  | cons hf _ ih =>
    cases heach' with
    | cons hf' hrest' => exact .cons ⟨_, hf, hf'⟩ (ih _ hrest')

/-- **Twins have the same schema.** -/
theorem objectBody_eq (hs : set.Sound r m) (hs' : set'.Sound r m) (h : set.Twins set' o o') :
    set.objectBody o = set'.objectBody o' := by
  have hfields := h.fields hs hs'
  have hproperties : (o.fields.map fun s =>
      (s.name, JsonSchema.orNull (set.nodeSchema s.schema) s.nullable)) =
        o'.fields.map fun s =>
          (s.name, JsonSchema.orNull (set'.nodeSchema s.schema) s.nullable) := by
    refine List.forall₂_eq_eq_eq ▸ List.rel_map (fun s s' hss => ?_) hfields
    obtain ⟨f, hf, hf'⟩ := hss
    rw [hf.name, hf'.name, hf.nullable, hf'.nullable, nodeSchema, nodeSchema,
      nodeMembers_eq hf.schema hf'.schema]
  have hrequired : o.requiredFields = o'.requiredFields := by
    refine List.forall₂_eq_eq_eq ▸ List.rel_map (fun s s' hss => ?_)
      (List.rel_filter (fun s s' hss => ?_) hfields)
    · obtain ⟨f, hf, hf'⟩ := hss
      rw [hf.name, hf'.name]
    · obtain ⟨f, hf, hf'⟩ := hss
      exact Bool.eq_iff_iff.mp (hf.required.trans hf'.required.symm)
  unfold objectBody
  rw [hproperties, hrequired]

/-- What twins refer to are twins. -/
theorem reached (hs : set.Sound r m) (hs' : set'.Sound r m) (h : set.Twins set' o o') :
    List.Forall₂ (set.Twins set') (set.reached o) (set'.reached o') := by
  refine List.rel_filterMap (fun s s' hss => ?_) (h.fields hs hs')
  obtain ⟨f, hf, hf'⟩ := hss
  exact referred?_rel hf.schema hf'.schema

end Twins

/-! ### The definitions -/

/-- **The walks collect the same definitions** if twins are pending and their names are left in both
or in neither. -/
theorem definitions_eq (hs : set.Sound r m) (hs' : set'.Sound r m) {left left' : List String}
    {pending pending' : List ObjectSchema} (hnodup : left.Nodup) (hnodup' : left'.Nodup)
    (hleft : ∀ o o', set.Twins set' o o' → (o.name ∈ left ↔ o.name ∈ left'))
    (hpending : List.Forall₂ (set.Twins set') pending pending') :
    set.definitions left pending = set'.definitions left' pending' := by
  induction left, pending using walk_induction set generalizing left' pending' with
  | done left =>
    cases hpending
    rw [definitions_nil, definitions_nil]
  | take left o rest hmem ih =>
    cases hpending with
    | @cons _ o' _ rest' htwins hrest =>
      have hmem' : o'.name ∈ left' := htwins.name ▸ (hleft o o' htwins).mp hmem
      rw [definitions_cons_of_mem hmem, definitions_cons_of_mem hmem', htwins.objectBody_eq hs hs',
        htwins.name]
      rw [htwins.name] at ih
      refine congrArg _ (ih (hnodup.erase _) (hnodup'.erase _) (fun q q' hq => ?_)
        (List.rel_append (htwins.reached hs hs') hrest))
      rw [hnodup.mem_erase_iff, hnodup'.mem_erase_iff, hleft q q' hq]
  | pass left o rest hmem ih =>
    cases hpending with
    | @cons _ o' _ rest' htwins hrest =>
      have hmem' : o'.name ∉ left' := htwins.name ▸ mt (hleft o o' htwins).mpr hmem
      rw [definitions_cons_of_not_mem hmem, definitions_cons_of_not_mem hmem']
      exact ih hnodup hnodup' hleft hrest

/-- **Nodes that stand for one type expression are rendered alike**, whatever else the tables
hold. -/
theorem toJsonSchema_eq_of_standsFor (hs : set.Sound r m) (hs' : set'.Sound r m)
    (h : StandsFor m set.nodes e least pattern id)
    (h' : StandsFor m set'.nodes e least pattern id') :
    Schema.toJsonSchema ⟨set, id⟩ = Schema.toJsonSchema ⟨set', id'⟩ := by
  have hpending : List.Forall₂ (set.Twins set') (set.referred? id).toList
      (set'.referred? id').toList := by
    have hreferred := referred?_rel h h'
    generalize set.referred? id = referred, set'.referred? id' = referred' at hreferred
    cases hreferred with
    | some htwins => exact .cons htwins .nil
    | none => exact .nil
  have hdefinitions : set.definitionsOf id = set'.definitionsOf id' :=
    definitions_eq hs hs' (nodup_objectNames hs) (nodup_objectNames hs')
      (fun o o' htwins => iff_of_true (mem_objectNames htwins.left)
        (htwins.name ▸ mem_objectNames htwins.right)) hpending
  rw [Schema.toJsonSchema_eq, Schema.toJsonSchema_eq, Schema.renderedMembers,
    Schema.renderedMembers, nodeMembers_eq h h', hdefinitions]

end SchemaSet

end Conformance

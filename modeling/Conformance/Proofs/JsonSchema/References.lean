import Conformance.Proofs.Generation.Reachability
import Conformance.Proofs.JsonSchema.Rendering

/-!
# References and definitions

Which references a rendering mentions, at any depth, and which definitions it has. Both are read off
the graph of the nodes (`Conformance.PointsTo`): the definitions are those of the objects that are
reached from the root, and a reference that is mentioned anywhere is one to such a definition.

* `Conformance.Document.Mentions` – a reference in a document;
* `Conformance.Schema.mentions_toJsonSchema` – the references of a rendering;
* `Conformance.Schema.mem_definitionsOf_iff` – its definitions.
-/

namespace Conformance

open Relation (ReflTransGen)

/-! ### References in documents -/

namespace Document

/-- **A document mentions a reference**: it has it under `$ref`, or one of its children mentions
it. -/
inductive Mentions (ref : String) : Document → Prop where
  /-- It is a reference itself. -/
  | here {members : List (String × Document)}
    (h : Keyed.find? "$ref" members = some (.string ref)) : Mentions ref (.object members)
  /-- One of its children mentions it. -/
  | inside {c d : Document} (child : c.Child d) (h : Mentions ref c) : Mentions ref d

variable {ref : String} {members : List (String × Document)} {items : List Document}

/-- What an object mentions is one of its members, or is mentioned by one. -/
theorem mentions_ofMembers (h : (ofMembers members).Mentions ref) :
    ∃ e ∈ members, e = ("$ref", .string ref) ∨ e.2.Mentions ref := by
  unfold ofMembers at h
  cases h with
  | here hfind => exact ⟨_, Keyed.mem_of_find?_ofList hfind, Or.inl rfl⟩
  | inside child h =>
    cases child with
    | value hfind => exact ⟨_, Keyed.mem_of_find?_ofList hfind, Or.inr h⟩

theorem mentions_array (h : (array items).Mentions ref) : ∃ d ∈ items, d.Mentions ref := by
  cases h with
  | inside child h =>
    cases child with
    | item hmem => exact ⟨_, hmem, h⟩

theorem not_mentions_string {text : String} : ¬(string text).Mentions ref := by
  intro h
  cases h with
  | inside child _ => cases child

theorem not_mentions_number {n : Number} : ¬(number n).Mentions ref := by
  intro h
  cases h with
  | inside child _ => cases child

end Document

namespace SchemaSet

open JsonSchema Document

variable {set : SchemaSet} {id : NodeId} {o : ObjectSchema} {ref : String} {r : Registry} {m : Mode}

/-! ### The references of a node -/

/-- A choice with null mentions what the schema mentions. -/
theorem mentions_orNull {schema : Document} {nullable : Bool}
    (h : (orNull schema nullable).Mentions ref) : schema.Mentions ref := by
  cases nullable with
  | false => exact h
  | true =>
    have hmembers : (ofMembers
        [("anyOf", .array [schema, .ofMembers (ofType "null")])]).Mentions ref := h
    obtain ⟨e, he, h⟩ := mentions_ofMembers hmembers
    obtain rfl := List.mem_singleton.mp he
    obtain ⟨d, hd, hchoice⟩ := mentions_array (h.resolve_left (by simp))
    rcases List.mem_cons.mp hd with rfl | hd
    · exact hchoice
    · -- the schema of null has no reference
      obtain rfl := List.mem_singleton.mp hd
      obtain ⟨e, he, hnull⟩ := mentions_ofMembers hchoice
      obtain rfl := List.mem_singleton.mp he
      exact absurd (hnull.resolve_left (by simp)) not_mentions_string

/-- The schema of a scalar mentions nothing. -/
theorem not_mentions_ofScalar {s : ScalarSchema} {e : String × Document} (he : e ∈ ofScalar s) :
    ¬(e = ("$ref", .string ref) ∨ e.2.Mentions ref) := by
  have htext : ∃ text, e.2 = .string text ∧ e.1 ≠ "$ref" := by
    unfold ofScalar at he
    split at he
    · rcases List.mem_append.mp he with he | he
      · obtain rfl := List.mem_singleton.mp he
        exact ⟨_, rfl, by simp⟩
      · obtain rfl := List.mem_singleton.mp he
        exact ⟨_, rfl, by simp⟩
    · split at he
      · exact absurd he List.not_mem_nil
      · obtain rfl := List.mem_singleton.mp he
        exact ⟨_, rfl, by simp⟩
  obtain ⟨text, hvalue, hkey⟩ := htext
  rintro (rfl | h)
  · exact hkey rfl
  · rw [hvalue] at h
    exact not_mentions_string h

/-- **The schema of a node mentions the object that it refers to**, and nothing else. -/
theorem mentions_nodeMembers (hs : set.Sound r m) {e : String × Document}
    (he : e ∈ set.nodeMembers id) (h : e = ("$ref", .string ref) ∨ e.2.Mentions ref) :
    ∃ o, set.referred? id = some o ∧ ref = definitionsPointer ++ o.name := by
  -- the elements of an array come before it
  induction id using Nat.strongRecOn generalizing e with
  | ind id ih =>
  cases hnode : set.node? id with
  | none =>
    rw [nodeMembers_none hnode] at he
    exact absurd he List.not_mem_nil
  | some n =>
    cases n with
    | scalar s =>
      rw [nodeMembers_scalar hnode] at he
      exact absurd h (not_mentions_ofScalar he)
    | object o =>
      rw [nodeMembers_object hnode] at he
      obtain rfl := List.mem_singleton.mp he
      refine ⟨o, referred?_object hnode, ?_⟩
      rcases h with h | h
      · simpa using h.symm
      · exact absurd h not_mentions_string
    | array a =>
      have hlt : a.element < id := (hs.fits id _ hnode).element
      rw [nodeMembers_array hnode hlt, List.append_assoc] at he
      rcases List.mem_append.mp he with he | he
      · obtain rfl := List.mem_singleton.mp he
        exact absurd (h.resolve_left (by simp)) not_mentions_string
      rcases List.mem_cons.mp he with rfl | he
      · obtain ⟨e, he, h⟩ := mentions_ofMembers (mentions_orNull (h.resolve_left (by simp)))
        rw [referred?_array hnode hlt]
        exact ih a.element hlt he h
      · obtain ⟨n, -, rfl⟩ := Option.map_eq_some_iff.mp (Option.mem_toList.mp he)
        exact absurd (h.resolve_left (by simp)) not_mentions_number

theorem mentions_nodeSchema (hs : set.Sound r m) (h : (set.nodeSchema id).Mentions ref) :
    ∃ o, set.referred? id = some o ∧ ref = definitionsPointer ++ o.name := by
  obtain ⟨e, he, h⟩ := mentions_ofMembers h
  exact mentions_nodeMembers hs he h

/-- **The schema of an object type mentions the objects that its fields refer to**, and nothing
else. -/
theorem mentions_objectBody (hs : set.Sound r m) (h : (set.objectBody o).Mentions ref) :
    ∃ o' ∈ set.reached o, ref = definitionsPointer ++ o'.name := by
  obtain ⟨e, he, h⟩ := mentions_ofMembers h
  simp only [List.mem_cons, List.not_mem_nil, or_false] at he
  rcases he with rfl | rfl | rfl
  · exact absurd (h.resolve_left (by simp)) not_mentions_string
  · obtain ⟨e, he, h⟩ := mentions_ofMembers (h.resolve_left (by simp))
    obtain ⟨f, hf, rfl⟩ := List.mem_map.mp he
    -- a field may be named like the keyword, but its schema is no text
    have hvalue : orNull (set.nodeSchema f.schema) f.nullable ≠ .string ref := by
      cases f.nullable <;> simp [orNull, nodeSchema, ofMembers]
    have hfield := h.resolve_left fun heq => hvalue (congrArg Prod.snd heq)
    obtain ⟨o', ho', href⟩ := mentions_nodeSchema hs (mentions_orNull hfield)
    exact ⟨o', List.mem_filterMap.mpr ⟨f, hf, ho'⟩, href⟩
  · obtain ⟨d, hd, h⟩ := mentions_array (h.resolve_left (by simp))
    obtain ⟨name, -, rfl⟩ := List.mem_map.mp hd
    exact absurd h not_mentions_string

/-! ### What is reached -/

/-- **An object is reached** from a node, through the fields of objects and the elements of
arrays. -/
def ReachesObject (set : SchemaSet) (id : NodeId) (o : ObjectSchema) : Prop :=
  ∃ id', ReflTransGen (PointsTo set.nodes) id id' ∧ set.node? id' = some (.object o)

theorem ReachesObject.has (h : set.ReachesObject id o) : set.Has o := by
  obtain ⟨id', -, hnode⟩ := h
  exact ⟨id', hnode⟩

/-- An object reaches itself. -/
theorem ReachesObject.of_node? (h : set.node? id = some (.object o)) : set.ReachesObject id o :=
  ⟨id, .refl, h⟩

/-- What a node refers to is reached. -/
theorem reachesObject_of_referred? (h : set.referred? id = some o) : set.ReachesObject id o := by
  -- the elements of an array come before it
  induction id using Nat.strongRecOn with
  | ind id ih =>
  rw [referred?] at h
  split at h
  · rename_i o' hnode
    obtain rfl := Option.some.inj h
    exact .of_node? hnode
  · rename_i a hnode
    split at h
    · rename_i hlt
      obtain ⟨id', hreaches, hnode'⟩ := ih a.element hlt h
      exact ⟨id', .head (.element hnode) hreaches, hnode'⟩
    · exact absurd h (by simp)
  · exact absurd h (by simp)

/-- What an object refers to is reached if the object is. -/
theorem ReachesObject.reached {o' : ObjectSchema} (h : set.ReachesObject id o)
    (ho' : o' ∈ set.reached o) : set.ReachesObject id o' := by
  obtain ⟨id', hreaches, hnode⟩ := h
  obtain ⟨f, hf, hreferred⟩ := List.mem_filterMap.mp ho'
  obtain ⟨id'', hreaches', hnode'⟩ := reachesObject_of_referred? hreferred
  exact ⟨id'', (hreaches.tail (.field hnode hf)).trans hreaches', hnode'⟩

/-- What holds of the objects that nodes refer to, from a root on, holds of all that is reached. -/
theorem ReachesObject.induction (hs : set.Sound r m) {P : ObjectSchema → Prop}
    (root : ∀ o, set.referred? id = some o → P o)
    (field : ∀ o, set.Has o → P o → ∀ o' ∈ set.reached o, P o')
    (h : set.ReachesObject id o) : P o := by
  obtain ⟨id', hreaches, hnode⟩ := h
  -- along the way, it holds of the object that the node refers to
  have hway : ∀ o, set.referred? id' = some o → P o := by
    clear hnode
    induction hreaches with
    | refl => exact root
    | tail _ hstep ih =>
      cases hstep with
      | field node declared =>
        exact fun o' ho' => field _ ⟨_, node⟩ (ih _ (referred?_object node)) o'
          (List.mem_filterMap.mpr ⟨_, declared, ho'⟩)
      | element node =>
        rw [referred?_array node (hs.fits _ _ node).element] at ih
        exact ih
  exact hway o (referred?_object hnode)

/-! ### What is defined -/

/-- What is pending and closed under what is referred to has all definitions. -/
theorem exists_of_mem_definitions {P : ObjectSchema → Prop}
    (hP : ∀ o, P o → ∀ o' ∈ set.reached o, P o') {left : List String} {pending : List ObjectSchema}
    (hpending : ∀ o ∈ pending, P o) {e : String × Document}
    (he : e ∈ set.definitions left pending) : ∃ o, P o ∧ e = (o.name, set.objectBody o) := by
  induction left, pending using walk_induction set with
  | done left =>
    rw [definitions_nil] at he
    exact absurd he List.not_mem_nil
  | take left first rest hfirst ih =>
    obtain ⟨hPfirst, hPrest⟩ := List.forall_mem_cons.mp hpending
    rw [definitions_cons_of_mem hfirst] at he
    rcases List.mem_cons.mp he with rfl | he
    · exact ⟨first, hPfirst, rfl⟩
    · exact ih (List.forall_mem_append.mpr ⟨hP first hPfirst, hPrest⟩) he
  | pass left first rest hfirst ih =>
    rw [definitions_cons_of_not_mem hfirst] at he
    exact ih (List.forall_mem_cons.mp hpending).2 he

/-- **The definitions in a rendering are those of the objects that are reached** from the root. -/
theorem mem_definitionsOf_iff (hs : set.Sound r m) {e : String × Document} :
    e ∈ set.definitionsOf id ↔ ∃ o, set.ReachesObject id o ∧ e = (o.name, set.objectBody o) := by
  constructor
  · exact exists_of_mem_definitions (fun _ h _ ho' => h.reached ho')
      fun _ ho => reachesObject_of_referred? (Option.mem_toList.mp ho)
  · rintro ⟨o, ho, rfl⟩
    exact ho.induction hs (fun _ => defines_of_referred? hs)
      fun _ hhas hdefines _ ho' => Defines.reached hs hdefines hhas ho'

theorem defines_iff (hs : set.Sound r m) (ho : set.Has o) :
    set.Defines id o ↔ set.ReachesObject id o := by
  refine (mem_definitionsOf_iff hs).trans ⟨?_, fun h => ⟨o, h, rfl⟩⟩
  rintro ⟨o', ho', heq⟩
  obtain rfl := Has.eq hs ho ho'.has (Prod.mk.inj heq).1
  exact ho'

end SchemaSet

namespace Schema

open JsonSchema SchemaSet Document

variable {s : Schema} {ref name : String} {body : Document} {r : Registry} {m : Mode}

/-- **A reference in a rendering is one to an object that is reached** from the root. -/
theorem mentions_toJsonSchema (hs : s.set.Sound r m) (h : s.toJsonSchema.Mentions ref) :
    ∃ o, s.set.ReachesObject s.root o ∧ ref = definitionsPointer ++ o.name := by
  rw [toJsonSchema_eq] at h
  obtain ⟨e, he, h⟩ := mentions_ofMembers h
  rw [renderedMembers, List.append_assoc] at he
  rcases List.mem_append.mp he with he | he
  · obtain ⟨o, ho, href⟩ := mentions_nodeMembers hs he h
    exact ⟨o, reachesObject_of_referred? ho, href⟩
  rcases List.mem_append.mp he with he | he
  · obtain rfl := List.mem_singleton.mp he
    exact absurd (h.resolve_left (by simp)) not_mentions_string
  split at he
  · exact absurd he List.not_mem_nil
  -- in a definition, an object mentions what its fields refer to
  obtain rfl := List.mem_singleton.mp he
  obtain ⟨e, he, h⟩ := mentions_ofMembers (h.resolve_left (by simp))
  obtain ⟨o, ho, rfl⟩ := (mem_definitionsOf_iff hs).mp he
  have hvalue : s.set.objectBody o ≠ .string ref := by simp [objectBody, ofMembers]
  have hbody := h.resolve_left fun heq => hvalue (congrArg Prod.snd heq)
  obtain ⟨o', ho', href⟩ := mentions_objectBody hs hbody
  exact ⟨o', ho.reached ho', href⟩

/-- Where there are definitions, they stand under their key. -/
theorem get?_toJsonSchema_of_ne_nil (h : s.set.definitionsOf s.root ≠ []) :
    s.toJsonSchema.get? "$defs" = some (.ofMembers (s.set.definitionsOf s.root)) := by
  rw [toJsonSchema_eq]
  refine (Keyed.find?_ofList nodup_renderedMembers).mpr (List.mem_append_right _ ?_)
  rw [if_neg (by simpa using h)]
  exact List.mem_cons_self

/-- Where there are none, the key is missing. -/
theorem get?_toJsonSchema_of_nil (h : s.set.definitionsOf s.root = []) :
    s.toJsonSchema.get? "$defs" = none := by
  rw [toJsonSchema_eq, Option.eq_none_iff_forall_ne_some]
  intro d hd
  have hmem := (Keyed.find?_ofList nodup_renderedMembers).mp hd
  rw [renderedMembers, if_pos (by simpa using h), List.append_nil] at hmem
  rcases List.mem_append.mp hmem with hmem | hmem
  · have hkey := keys_nodeMembers.subset (List.mem_map_of_mem (f := (·.1)) hmem)
    exact absurd hkey (by simp)
  · exact absurd hmem (by simp)

end Schema

end Conformance

import Mathlib.Data.List.Nodup
import Conformance.Proofs.Entries
import Conformance.Proofs.Generation.Runs
import Conformance.Schema.Export

/-!
# The definitions of a rendering

Which object types stand under the definitions of a rendering. They are collected by a walk that
takes each type out of the names that are left, and so the walk ends although types refer to each
other; what has to be seen is that nothing is lost by this. No two objects of a sound table have one
name, so a type that is not left any more has its own definition and not that of another.

* `Conformance.SchemaSet.mem_definitions` – what is pending has a definition, if its name is left;
* `Conformance.SchemaSet.definitions_closed` – what is reached from a type with a definition has
  one;
* `Conformance.SchemaSet.nodup_definitions` – no name has two.
-/

namespace Conformance

namespace SchemaSet

variable {set : SchemaSet} {id : NodeId} {o o' : ObjectSchema} {left : List String}
variable {pending : List ObjectSchema} {r : Registry} {m : Mode}

/-- An object of a table. -/
def Has (set : SchemaSet) (o : ObjectSchema) : Prop :=
  ∃ id, set.node? id = some (.object o)

/-- The objects of a sound table are told apart by their names. -/
theorem Has.eq (hs : set.Sound r m) (h : set.Has o) (h' : set.Has o') (hname : o.name = o'.name) :
    o = o' := by
  obtain ⟨id, hid⟩ := h
  obtain ⟨id', hid'⟩ := h'
  obtain rfl := hs.unique id id' o o' hid hid' hname
  simpa using hid.symm.trans hid'

/-- What is referred to is an object of the table. -/
theorem has_of_referred? (h : set.referred? id = some o) : set.Has o := by
  -- the elements of an array come before it
  induction id using Nat.strongRecOn with
  | ind id ih =>
  rw [referred?] at h
  split at h
  · rename_i o' hnode
    obtain rfl := Option.some.inj h
    exact ⟨id, hnode⟩
  · rename_i a hnode
    split at h
    · rename_i hlt
      exact ih a.element hlt h
    · exact absurd h (by simp)
  · exact absurd h (by simp)

theorem referred?_scalar {s : ScalarSchema} (h : set.node? id = some (.scalar s)) :
    set.referred? id = none := by
  rw [referred?]
  simp only [h]

theorem referred?_object (h : set.node? id = some (.object o)) : set.referred? id = some o := by
  rw [referred?]
  simp only [h]

theorem referred?_array {a : ArraySchema} (h : set.node? id = some (.array a))
    (hlt : a.element < id) : set.referred? id = set.referred? a.element := by
  rw [referred?]
  simp only [h, dif_pos hlt]

/-! ### The walk -/

/-- What is reached from an object. -/
def reached (set : SchemaSet) (o : ObjectSchema) : List ObjectSchema :=
  o.fields.filterMap fun f => set.referred? f.schema

theorem has_of_mem_reached (h : o' ∈ set.reached o) : set.Has o' := by
  obtain ⟨f, -, hf⟩ := List.mem_filterMap.mp h
  exact has_of_referred? hf

theorem definitions_nil : set.definitions left [] = [] := by
  rw [definitions]

/-- A type whose name is left gets its definition, and what is reached from it is pending. -/
theorem definitions_cons_of_mem (h : o.name ∈ left) :
    set.definitions left (o :: pending) =
      (o.name, set.objectBody o) ::
        set.definitions (left.erase o.name) (set.reached o ++ pending) := by
  rw [definitions, dif_pos h]
  rfl

/-- A type whose name is not left is passed over. -/
theorem definitions_cons_of_not_mem (h : o.name ∉ left) :
    set.definitions left (o :: pending) = set.definitions left pending := by
  rw [definitions, dif_neg h]

/-- **Induction along the walk**: a type is taken, and what it reaches is pending next, or it is
passed over. -/
@[elab_as_elim]
theorem walk_induction (set : SchemaSet) {motive : List String → List ObjectSchema → Prop}
    (done : ∀ left, motive left [])
    (take : ∀ left o rest, o.name ∈ left →
      motive (left.erase o.name) (set.reached o ++ rest) → motive left (o :: rest))
    (pass : ∀ left o rest, o.name ∉ left → motive left rest → motive left (o :: rest))
    (left : List String) (pending : List ObjectSchema) : motive left pending :=
  match pending with
  | [] => done left
  | o :: rest =>
    if _h : o.name ∈ left then
      take left o rest _h
        (walk_induction set done take pass (left.erase o.name) (set.reached o ++ rest))
    else pass left o rest _h (walk_induction set done take pass left rest)
termination_by (left.length, pending.length)
decreasing_by
  · refine Prod.Lex.left _ _ ?_
    have := List.length_pos_of_mem _h
    rw [List.length_erase_of_mem _h]
    omega
  · exact Prod.Lex.right _ (by simp)

/-- **What is pending has a definition**, if its name is left. -/
theorem mem_definitions (hs : set.Sound r m) (hhas : ∀ o ∈ pending, set.Has o) (ho : o ∈ pending)
    (hleft : o.name ∈ left) : (o.name, set.objectBody o) ∈ set.definitions left pending := by
  induction left, pending using walk_induction set with
  | done left => exact absurd ho List.not_mem_nil
  | take left first rest hfirst ih =>
    rw [definitions_cons_of_mem hfirst]
    -- the name is taken by the first one: then it is the type itself, or else another is left
    by_cases hname : o.name = first.name
    · obtain rfl := Has.eq hs (hhas o ho) (hhas first List.mem_cons_self) hname
      exact List.mem_cons_self
    · have hrest : o ∈ rest := List.mem_of_ne_of_mem (fun h => hname (congrArg _ h)) ho
      refine List.mem_cons_of_mem _ (ih (fun o' ho' => ?_) (List.mem_append_right _ hrest) ?_)
      · rcases List.mem_append.mp ho' with ho' | ho'
        · exact has_of_mem_reached ho'
        · exact hhas o' (List.mem_cons_of_mem _ ho')
      · exact (List.mem_erase_of_ne hname).mpr hleft
  | pass left first rest hfirst ih =>
    rw [definitions_cons_of_not_mem hfirst]
    have hrest : o ∈ rest := by
      rcases List.mem_cons.mp ho with rfl | hrest
      · exact absurd hleft hfirst
      · exact hrest
    exact ih (fun o' ho' => hhas o' (List.mem_cons_of_mem _ ho')) hrest hleft

/-- **What is reached from a type with a definition has one**, if its name is left. -/
theorem definitions_closed (hs : set.Sound r m) (hhas : ∀ o ∈ pending, set.Has o) (ho : set.Has o)
    (hkey : o.name ∈ (set.definitions left pending).map (·.1)) (hreached : o' ∈ set.reached o)
    (hleft : o'.name ∈ left) : (o'.name, set.objectBody o') ∈ set.definitions left pending := by
  induction left, pending using walk_induction set with
  | done left =>
    rw [definitions_nil] at hkey
    exact absurd hkey List.not_mem_nil
  | take left first rest hfirst ih =>
    have hhas' : ∀ o ∈ set.reached first ++ rest, set.Has o := by
      intro o ho
      rcases List.mem_append.mp ho with ho | ho
      · exact has_of_mem_reached ho
      · exact hhas o (List.mem_cons_of_mem _ ho)
    rw [definitions_cons_of_mem hfirst] at hkey ⊢
    by_cases hname : o'.name = first.name
    · obtain rfl := Has.eq hs (has_of_mem_reached hreached) (hhas first List.mem_cons_self) hname
      exact List.mem_cons_self
    · have hleft' : o'.name ∈ left.erase first.name := (List.mem_erase_of_ne hname).mpr hleft
      refine List.mem_cons_of_mem _ ?_
      rcases List.mem_cons.mp hkey with hkey | hkey
      · -- the type with the definition is the first one, and what it reaches is pending next
        obtain rfl := Has.eq hs ho (hhas first List.mem_cons_self) hkey
        exact mem_definitions hs hhas' (List.mem_append_left _ hreached) hleft'
      · exact ih hhas' hkey hleft'
  | pass left first rest hfirst ih =>
    rw [definitions_cons_of_not_mem hfirst] at hkey ⊢
    exact ih (fun o ho => hhas o (List.mem_cons_of_mem _ ho)) hkey hleft

/-- Only names that are left get a definition. -/
theorem mem_left_of_mem_definitions {e : String × Document}
    (h : e ∈ set.definitions left pending) : e.1 ∈ left := by
  induction left, pending using walk_induction set with
  | done left =>
    rw [definitions_nil] at h
    exact absurd h List.not_mem_nil
  | take left first rest hfirst ih =>
    rw [definitions_cons_of_mem hfirst] at h
    rcases List.mem_cons.mp h with rfl | h
    · exact hfirst
    · exact List.mem_of_mem_erase (ih h)
  | pass left first rest hfirst ih =>
    rw [definitions_cons_of_not_mem hfirst] at h
    exact ih h

/-- **No name has two definitions.** -/
theorem nodup_definitions (h : left.Nodup) :
    ((set.definitions left pending).map (·.1)).Nodup := by
  induction left, pending using walk_induction set with
  | done left =>
    rw [definitions_nil]
    exact List.nodup_nil
  | take left first rest hfirst ih =>
    -- the name that is taken is not left for what comes after
    rw [definitions_cons_of_mem hfirst, List.map_cons, List.nodup_cons]
    refine ⟨fun hmem => ?_, ih (h.erase _)⟩
    obtain ⟨e, he, hname⟩ := List.mem_map.mp hmem
    exact (h.mem_erase_iff.mp (mem_left_of_mem_definitions he)).1 hname
  | pass left first rest hfirst ih =>
    rw [definitions_cons_of_not_mem hfirst]
    exact ih h

/-! ### The definitions of a rendering -/

theorem mem_objectNames (h : set.Has o) : o.name ∈ set.objectNames := by
  obtain ⟨id, hid⟩ := h
  exact List.mem_filterMap.mpr ⟨.object o, List.mem_of_getElem? hid, rfl⟩

theorem nodup_objectNames (hs : set.Sound r m) : set.objectNames.Nodup := by
  unfold objectNames
  rw [List.nodup_iff_pairwise_ne, List.pairwise_filterMap, List.pairwise_iff_getElem]
  intro i j hi hj hij name hname name' hname'
  rintro rfl
  cases hnode : set.nodes[i] with
  | object o =>
    cases hnode' : set.nodes[j] with
    | object o' =>
      rw [hnode] at hname
      rw [hnode'] at hname'
      have hsame : o.name = o'.name :=
        (Option.some.inj hname).trans (Option.some.inj hname').symm
      have hobject : set.node? i = some (.object o) := by
        rw [node?, List.getElem?_eq_getElem hi, hnode]
      have hobject' : set.node? j = some (.object o') := by
        rw [node?, List.getElem?_eq_getElem hj, hnode']
      exact absurd (hs.unique i j o o' hobject hobject' hsame) (Nat.ne_of_lt hij)
    | _ =>
      rw [hnode'] at hname'
      exact absurd hname' (by simp)
  | _ =>
    rw [hnode] at hname
    exact absurd hname (by simp)

/-- The definitions in the rendering of the schema at a place. -/
def definitionsOf (set : SchemaSet) (id : NodeId) : List (String × Document) :=
  set.definitions set.objectNames (set.referred? id).toList

/-- **An object is defined** in the rendering of the schema at a place. -/
def Defines (set : SchemaSet) (id : NodeId) (o : ObjectSchema) : Prop :=
  (o.name, set.objectBody o) ∈ set.definitionsOf id

theorem has_of_mem_toList (h : o ∈ (set.referred? id).toList) : set.Has o :=
  has_of_referred? (Option.mem_toList.mp h)

/-- The object that the root refers to is defined. -/
theorem defines_of_referred? (hs : set.Sound r m) (h : set.referred? id = some o) :
    set.Defines id o :=
  mem_definitions hs (fun _ => has_of_mem_toList) (Option.mem_toList.mpr h)
    (mem_objectNames (has_of_referred? h))

/-- The objects that the fields of a defined object refer to are defined. -/
theorem Defines.reached (hs : set.Sound r m) (h : set.Defines id o) (ho : set.Has o)
    (ho' : o' ∈ set.reached o) : set.Defines id o' :=
  definitions_closed hs (fun _ => has_of_mem_toList) ho (List.mem_map_of_mem (f := (·.1)) h) ho'
    (mem_objectNames (has_of_mem_reached ho'))

/-- A definition is found under the name of its object. -/
theorem Defines.find? (hs : set.Sound r m) (h : set.Defines id o) :
    Keyed.find? o.name (Keyed.ofList (set.definitionsOf id)) = some (set.objectBody o) :=
  (Keyed.find?_ofList (nodup_definitions (nodup_objectNames hs))).mpr h

end SchemaSet

end Conformance

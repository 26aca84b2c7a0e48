import Conformance.Description.Loading
import Conformance.Proofs.SortedEntries

/-!
# Types that are registered

A registry is made by registering one type after the other (`Conformance.Registry.registered`). If
no name occurs twice, their order makes no difference, and the registry lists them in the order of
their names. Merging does the same with a check before each type, and so there are two ways in which
it ends: with the registry of all the types, or at the first one whose name was there before.

* `Conformance.Registry.registered_congr` – types with different names, in any order;
* `Conformance.Registry.merge_registered`, `Conformance.Registry.merge_registered_of_mem` – the two
  ends of merging;
* `Conformance.Registry.exists_repeated` – there is no third one.
-/

namespace Conformance

namespace Registry

/-- The names of types, in the order of the types. -/
def namesOf (types : List ObjectType) : List String := types.map (·.name)

/-- **The registry of types that are registered in turn.** -/
def registered (types : List ObjectType) : Registry := types.foldl register empty

variable {types types' earlier before after : List ObjectType} {t : ObjectType} {name : String}

@[simp]
theorem namesOf_append : namesOf (types ++ types') = namesOf types ++ namesOf types' :=
  List.map_append

theorem registered_append_singleton :
    registered (types ++ [t]) = (registered types).register t := by
  rw [registered, List.foldl_append]
  rfl

/-- A registry is the mapping from the names of the types to the types. -/
theorem types_registered :
    (registered types).types = Keyed.ofList (types.map fun t => (t.name, t)) := by
  have hfold : ∀ r : Registry, (types.foldl register r).types =
      (types.map fun t => (t.name, t)).foldl (fun m e => Keyed.insert e.1 e.2 m) r.types := by
    induction types with
    | nil => exact fun _ => rfl
    | cons t rest ih => exact fun r => ih (r.register t)
  exact hfold empty

theorem nodup_entries (h : (namesOf types).Nodup) :
    ((types.map fun t => (t.name, t)).map (·.1)).Nodup := by
  rwa [List.map_map]

theorem contains_registered_iff (h : (namesOf types).Nodup) :
    (registered types).contains name = true ↔ name ∈ namesOf types := by
  rw [contains, Keyed.contains, Option.isSome_iff_exists, types_registered]
  simp only [Keyed.find?_ofList (nodup_entries h)]
  simp [namesOf]

/-- **Types with different names may be registered in any order.** -/
theorem registered_congr (h : (namesOf types).Nodup) (h' : (namesOf types').Nodup)
    (hsame : ∀ t, t ∈ types ↔ t ∈ types') : registered types = registered types' := by
  have htypes : (registered types).types = (registered types').types := by
    rw [types_registered, types_registered]
    refine Keyed.ofList_congr (nodup_entries h) (nodup_entries h') fun e => ?_
    simp only [List.mem_map, hsame]
  exact congrArg Registry.mk htypes

/-! ### The list of a registry -/

theorem mem_toList_registered_iff (h : (namesOf types).Nodup) :
    t ∈ (registered types).toList ↔ t ∈ types := by
  rw [toList, types_registered, List.mem_map]
  simp only [Keyed.mem_ofList_iff (nodup_entries h)]
  simp

/-- Under each name of a registry of registered types there is the type of this name. -/
theorem namesOf_toList_registered (h : (namesOf types).Nodup) :
    namesOf (registered types).toList = Keyed.keys (registered types).types := by
  rw [namesOf, toList, Keyed.keys, List.map_map]
  refine List.map_congr_left fun e he => ?_
  rw [types_registered, Keyed.mem_ofList_iff (nodup_entries h)] at he
  obtain ⟨t, -, rfl⟩ := List.mem_map.mp he
  rfl

/-- **A registry lists its types in the order of their names.** -/
theorem pairwise_namesOf_toList (h : (namesOf types).Nodup) :
    (namesOf (registered types).toList).Pairwise (· < ·) := by
  rw [namesOf_toList_registered h, types_registered]
  exact (Keyed.ordered_ofList _).pairwise_keys

/-- A registry lists the types that were registered. -/
theorem perm_toList_registered (h : (namesOf types).Nodup) :
    (registered types).toList.Perm types := by
  have hlist : (namesOf (registered types).toList).Nodup :=
    (pairwise_namesOf_toList h).imp fun hlt => ne_of_lt hlt
  exact (List.perm_ext_iff_of_nodup (.of_map _ hlist) (.of_map _ h)).mpr fun _ =>
    mem_toList_registered_iff h

/-! ### Merging -/

theorem nodup_append_singleton_iff : (namesOf (types ++ [t])).Nodup ↔
    (namesOf types).Nodup ∧ t.name ∉ namesOf types := by
  rw [namesOf_append, List.nodup_append_comm]
  exact List.nodup_cons.trans and_comm

theorem nodup_left (h : (namesOf (types ++ types')).Nodup) : (namesOf types).Nodup := by
  rw [namesOf_append] at h
  exact h.of_append_left

/-- A type with a new name is registered, and merging goes on. -/
theorem merge_registered_cons (h : (namesOf (earlier ++ [t])).Nodup) :
    (registered earlier).merge (t :: types) = (registered (earlier ++ [t])).merge types := by
  have hnew : (registered earlier).contains t.name = false := by
    obtain ⟨hnames, hname⟩ := nodup_append_singleton_iff.mp h
    rw [Bool.eq_false_iff, ne_eq, contains_registered_iff hnames]
    exact hname
  rw [merge, hnew, registered_append_singleton]
  rfl

/-- **Merging types that are all new** registers them. -/
theorem merge_registered (h : (namesOf (earlier ++ types)).Nodup) :
    (registered earlier).merge types = .ok (registered (earlier ++ types)) := by
  induction types generalizing earlier with
  | nil => rw [List.append_nil, merge]
  | cons t rest ih =>
    rw [List.append_cons] at h ⊢
    rw [merge_registered_cons (nodup_left h), ih h]

/-- **Merging ends at the first type whose name was there before.** -/
theorem merge_registered_of_mem (h : (namesOf (earlier ++ before)).Nodup)
    (hmem : t.name ∈ namesOf (earlier ++ before)) :
    (registered earlier).merge (before ++ t :: after) = .error t.name := by
  induction before generalizing earlier with
  | nil =>
    rw [List.append_nil] at h hmem
    rw [List.nil_append, merge, (contains_registered_iff h).mpr hmem]
    rfl
  | cons first rest ih =>
    rw [List.append_cons] at h hmem
    rw [List.cons_append, merge_registered_cons (nodup_left h), ih h hmem]

/-- **Where a name occurs twice there is a first type whose name was there before.** -/
theorem exists_repeated (hearlier : (namesOf earlier).Nodup)
    (h : ¬(namesOf (earlier ++ types)).Nodup) :
    ∃ before t after, types = before ++ t :: after ∧ (namesOf (earlier ++ before)).Nodup ∧
      t.name ∈ namesOf (earlier ++ before) := by
  induction types generalizing earlier with
  | nil => exact absurd hearlier (by rwa [List.append_nil] at h)
  | cons t rest ih =>
    by_cases hmem : t.name ∈ namesOf earlier
    · exact ⟨[], t, rest, rfl, by rwa [List.append_nil], by rwa [List.append_nil]⟩
    have hnext : (namesOf (earlier ++ [t])).Nodup :=
      nodup_append_singleton_iff.mpr ⟨hearlier, hmem⟩
    rw [List.append_cons] at h
    obtain ⟨before, t', after, rfl, hbefore, ht'⟩ := ih hnext h
    rw [← List.append_cons] at hbefore ht'
    exact ⟨t :: before, t', after, rfl, hbefore, ht'⟩

/-! ### Texts that were read -/

variable {text : SourceText} {origin : String} {r : Registry}

theorem mergeFrom_empty (h : (namesOf types).Nodup) :
    empty.mergeFrom origin types = .ok (registered types) := by
  have hmerge : empty.merge types = .ok (registered types) :=
    merge_registered (show (namesOf ([] ++ types)).Nodup from h)
  rw [mergeFrom, hmerge]

/-- The first type whose name was there before is named. -/
theorem mergeFrom_empty_of_mem (h : (namesOf before).Nodup) (hmem : t.name ∈ namesOf before) :
    empty.mergeFrom origin (before ++ t :: after) = .error (.duplicateType t.name origin) := by
  have hmerge : empty.merge (before ++ t :: after) = .error t.name :=
    merge_registered_of_mem (show (namesOf ([] ++ before)).Nodup from h) hmem
  rw [mergeFrom, hmerge]

/-- **A text is loaded** if its types can be read and have different names. -/
theorem ofSource_eq_ok_iff : ofSource text origin = .ok r ↔
    ∃ types, text.decode text.readTypes = .ok types ∧ (namesOf types).Nodup ∧
      r = registered types := by
  unfold ofSource
  constructor
  · intro h
    split at h
    · exact nomatch h
    next types hdecode =>
    by_cases hnames : (namesOf types).Nodup
    · rw [mergeFrom_empty hnames] at h
      exact ⟨types, hdecode, hnames, (Except.ok.inj h).symm⟩
    · obtain ⟨before, t, after, rfl, hbefore, ht⟩ := exists_repeated
        (show (namesOf []).Nodup from List.nodup_nil) hnames
      rw [List.nil_append] at hbefore ht
      rw [mergeFrom_empty_of_mem hbefore ht] at h
      exact nomatch h
  · rintro ⟨types, hdecode, hnames, rfl⟩
    rw [hdecode]
    exact mergeFrom_empty hnames

end Registry

end Conformance

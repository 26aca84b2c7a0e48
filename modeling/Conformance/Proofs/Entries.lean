import Mathlib.Algebra.GroupWithZero.Nat
import Mathlib.Data.List.Basic
import Conformance.Keyed

/-!
# The laws of keyed entries

What is found under a key after an operation on keyed entries. None of this needs the entries to be
in the order of their keys.

* `Conformance.Keyed.find?_erase_of_ne`, `Conformance.Keyed.find?_insert_of_ne` – other keys are
  left alone;
* `Conformance.Keyed.find?_ofList` – a list of entries with different keys, as a mapping;
* `Conformance.Keyed.mem_of_find?_ofList` – nothing is found in a mapping but what it was made from;
* `Conformance.Keyed.sum_find?_le` – different keys lead to different entries.
-/

namespace Conformance.Keyed

variable {α : Type} {key key' : String} {v w : α} {entries : List (String × α)}

theorem find?_cons_self : find? key ((key, v) :: entries) = some v := by
  simp [find?]

theorem find?_cons_of_ne (h : key ≠ key') :
    find? key' ((key, v) :: entries) = find? key' entries := by
  simp [find?, h]

/-- What is found under a key is one of the entries. -/
theorem mem_of_find? (h : find? key entries = some v) : (key, v) ∈ entries := by
  induction entries with
  | nil => exact absurd h (by simp [find?])
  | cons e rest ih =>
    obtain ⟨k, w⟩ := e
    by_cases hk : k = key
    · subst hk
      rw [find?_cons_self] at h
      rw [Option.some.inj h]
      exact List.mem_cons_self ..
    · rw [find?_cons_of_ne hk] at h
      exact List.mem_cons_of_mem _ (ih h)

theorem mem_keys_iff : key ∈ keys entries ↔ ∃ v, find? key entries = some v := by
  constructor
  · intro hmem
    induction entries with
    | nil => exact absurd hmem List.not_mem_nil
    | cons e rest ih =>
      obtain ⟨k, w⟩ := e
      by_cases hk : k = key
      · subst hk
        exact ⟨w, find?_cons_self⟩
      · rw [find?_cons_of_ne hk]
        exact ih ((List.mem_cons.mp hmem).resolve_left fun heq => hk heq.symm)
  · rintro ⟨v, hv⟩
    exact List.mem_map_of_mem (f := (·.1)) (mem_of_find? hv)

theorem find?_erase_of_ne (h : key' ≠ key) :
    find? key' (erase key entries) = find? key' entries := by
  induction entries with
  | nil => rfl
  | cons e rest ih =>
    obtain ⟨k, w⟩ := e
    by_cases hk : k = key
    · subst hk
      rw [find?_cons_of_ne h.symm]
      simp [erase]
    · have herase : erase key ((k, w) :: rest) = (k, w) :: erase key rest := by simp [erase, hk]
      rw [herase]
      by_cases hk' : k = key'
      · subst hk'
        rw [find?_cons_self, find?_cons_self]
      · rw [find?_cons_of_ne hk', find?_cons_of_ne hk', ih]

theorem find?_insert_self : find? key (insert key v entries) = some v := by
  induction entries with
  | nil => exact find?_cons_self
  | cons e rest ih =>
    obtain ⟨k, w⟩ := e
    unfold insert
    split
    · exact find?_cons_self
    · rename_i hk
      split
      · exact find?_cons_self
      · rw [find?_cons_of_ne (by simpa using hk), ih]

theorem find?_insert_of_ne (h : key' ≠ key) :
    find? key' (insert key v entries) = find? key' entries := by
  induction entries with
  | nil => exact find?_cons_of_ne h.symm
  | cons e rest ih =>
    obtain ⟨k, w⟩ := e
    unfold insert
    split
    · rename_i hk
      obtain rfl : k = key := by simpa using hk
      rw [find?_cons_of_ne h.symm, find?_cons_of_ne h.symm]
    · split
      · exact find?_cons_of_ne h.symm
      · by_cases hk' : k = key'
        · subst hk'
          rw [find?_cons_self, find?_cons_self]
        · rw [find?_cons_of_ne hk', find?_cons_of_ne hk', ih]

/-- In the mapping of a list of entries with different keys, each entry is found, and nothing
else. -/
theorem find?_ofList (h : (entries.map (·.1)).Nodup) :
    find? key (ofList entries) = some v ↔ (key, v) ∈ entries := by
  -- stated for a mapping that has entries already, so that the induction goes through
  have hfold : ∀ start : List (String × α),
      find? key (entries.foldl (fun m e => insert e.1 e.2 m) start) = some v ↔
        (key, v) ∈ entries ∨ key ∉ entries.map (·.1) ∧ find? key start = some v := by
    induction entries with
    | nil => simp
    | cons e rest ih =>
      obtain ⟨k, w⟩ := e
      obtain ⟨hk, hrest⟩ := List.nodup_cons.mp h
      intro start
      rw [List.foldl_cons, ih hrest]
      by_cases heq : key = k
      · subst heq
        have hnot : (key, v) ∉ rest := fun hmem => hk (List.mem_map_of_mem (f := (·.1)) hmem)
        rw [find?_insert_self]
        simp [hnot, hk, eq_comm]
      · rw [find?_insert_of_ne heq]
        simp [heq]
  rw [ofList, hfold []]
  simp [find?]

/-- What is found in the mapping of a list of entries is one of them, whatever their keys are. -/
theorem mem_of_find?_ofList (h : find? key (ofList entries) = some v) : (key, v) ∈ entries := by
  have hfold : ∀ start : List (String × α),
      find? key (entries.foldl (fun m e => insert e.1 e.2 m) start) = some v →
        (key, v) ∈ entries ∨ find? key start = some v := by
    clear h
    induction entries with
    | nil => exact fun _ => Or.inr
    | cons e rest ih =>
      intro start hfind
      rcases ih _ hfind with hmem | hfind
      · exact Or.inl (List.mem_cons_of_mem _ hmem)
      by_cases heq : key = e.1
      · subst heq
        rw [find?_insert_self] at hfind
        obtain rfl := Option.some.inj hfind
        exact Or.inl List.mem_cons_self
      · rw [find?_insert_of_ne heq] at hfind
        exact Or.inr hfind
  exact (hfold [] h).resolve_right (by simp [find?])

/-- What is found under different keys adds up to no more than all entries do. -/
theorem sum_find?_le (count : α → Nat) {names : List String} (h : names.Nodup) :
    (names.map fun name => ((find? name entries).map count).getD 0).sum ≤
      (entries.map fun e => count e.2).sum := by
  induction entries generalizing names with
  | nil => simp [find?]
  | cons e rest ih =>
    obtain ⟨k, v⟩ := e
    -- the first entry counts only under its own key, which is among the names once at most
    have hrest : ∀ others : List String, k ∉ others →
        (others.map fun name => ((find? name ((k, v) :: rest)).map count).getD 0) =
          others.map fun name => ((find? name rest).map count).getD 0 := by
      intro others hk
      refine List.map_congr_left fun name hname => ?_
      rw [find?_cons_of_ne (ne_of_mem_of_not_mem hname hk).symm]
    rw [List.map_cons, List.sum_cons]
    by_cases hk : k ∈ names
    · have hmem : k ∉ names.erase k := fun hmem => (h.mem_erase_iff.mp hmem).1 rfl
      rw [((List.perm_cons_erase hk).map _).sum_nat, List.map_cons, List.sum_cons, hrest _ hmem,
        find?_cons_self]
      exact Nat.add_le_add_left (ih (h.erase k)) _
    · rw [hrest _ hk]
      exact Nat.le_trans (ih h) (Nat.le_add_left _ _)

end Conformance.Keyed

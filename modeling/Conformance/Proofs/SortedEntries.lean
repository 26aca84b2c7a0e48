import Mathlib.Data.List.Sort
import Mathlib.Data.String.Basic
import Conformance.Proofs.Entries

/-!
# Mappings are in the order of their keys

A mapping is made by inserting one entry after the other, each at its place, and so it ends up in
the order of its keys (`Conformance.Keyed.Ordered`) whatever the entries came in. What was inserted
is then all there is to say about it: mappings with the same entries are equal.

* `Conformance.Text.before_iff_lt` – the order of texts is the linear order of strings;
* `Conformance.Keyed.ordered_ofList` – a mapping is in order;
* `Conformance.Keyed.ofList_congr` – entries with different keys may come in any order.
-/

namespace Conformance

namespace Text

theorem charsBefore_iff_lt {as bs : List Char} : charsBefore as bs = true ↔ as < bs := by
  induction as generalizing bs with
  | nil => cases bs <;> simp [charsBefore]
  | cons a as ih =>
    cases bs with
    | nil => simp [charsBefore]
    | cons b bs =>
      rw [charsBefore, Bool.or_eq_true, Bool.and_eq_true, decide_eq_true_iff, beq_iff_eq, ih,
        List.cons_lt_cons_iff]
      exact Iff.rfl

/-- **The order of texts** is the linear order of strings. -/
theorem before_iff_lt {a b : String} : before a b = true ↔ a < b := charsBefore_iff_lt

end Text

/-- Lists in strict order of some text of their elements are equal if they have the same
elements. -/
theorem eq_of_pairwise_lt {α : Type} (text : α → String) {l l' : List α}
    (h : l.Pairwise fun x y => text x < text y) (h' : l'.Pairwise fun x y => text x < text y)
    (hsame : ∀ x, x ∈ l ↔ x ∈ l') : l = l' := by
  have hnodup : ∀ {l : List α}, (l.Pairwise fun x y => text x < text y) → l.Nodup := by
    intro l hl
    refine hl.imp fun hlt => ?_
    rintro rfl
    exact lt_irrefl _ hlt
  refine List.Perm.eq_of_pairwise (fun x y _ _ hxy hyx => ?_) h h'
    ((List.perm_ext_iff_of_nodup (hnodup h) (hnodup h')).mpr hsame)
  exact absurd hxy (lt_asymm hyx)

namespace Keyed

variable {α : Type} {key : String} {v : α} {entries entries' : List (String × α)}

/-- **Entries in the order of their keys**, none of which occurs twice. -/
def Ordered (entries : List (String × α)) : Prop := entries.Pairwise fun e e' => e.1 < e'.1

theorem Ordered.pairwise_keys (h : Ordered entries) : (keys entries).Pairwise (· < ·) :=
  List.pairwise_map.mpr h

theorem Ordered.nodup_keys (h : Ordered entries) : (entries.map (·.1)).Nodup :=
  h.pairwise_keys.imp fun hlt => ne_of_lt hlt

/-- What stands in a mapping after an insertion is new or was there. -/
theorem mem_of_mem_insert {e : String × α} (h : e ∈ insert key v entries) :
    e = (key, v) ∨ e ∈ entries := by
  induction entries with
  | nil => exact Or.inl (List.mem_singleton.mp h)
  | cons first rest ih =>
    unfold insert at h
    split at h
    · exact (List.mem_cons.mp h).imp_right (List.mem_cons_of_mem _)
    · split at h
      · exact List.mem_cons.mp h
      · rcases List.mem_cons.mp h with rfl | h
        · exact Or.inr List.mem_cons_self
        · exact (ih h).imp_right (List.mem_cons_of_mem _)

/-- **An insertion keeps the order.** -/
theorem ordered_insert (h : Ordered entries) : Ordered (insert key v entries) := by
  induction entries with
  | nil => exact List.pairwise_singleton _ _
  | cons first rest ih =>
    obtain ⟨hfirst, hrest⟩ := List.pairwise_cons.mp h
    unfold insert
    split
    · rename_i heq
      obtain rfl : first.1 = key := by simpa using heq
      exact List.pairwise_cons.mpr ⟨hfirst, hrest⟩
    rename_i hne
    split
    · rename_i hbefore
      have hlt : key < first.1 := Text.before_iff_lt.mp hbefore
      refine List.pairwise_cons.mpr ⟨fun e he => ?_, h⟩
      rcases List.mem_cons.mp he with rfl | he
      · exact hlt
      · exact hlt.trans (hfirst e he)
    · rename_i hbefore
      have hgt : first.1 < key := by
        have hle : first.1 ≤ key := not_lt.mp (mt Text.before_iff_lt.mpr hbefore)
        exact lt_of_le_of_ne hle (by simpa using hne)
      refine List.pairwise_cons.mpr ⟨fun e he => ?_, ih hrest⟩
      rcases mem_of_mem_insert he with rfl | he
      · exact hgt
      · exact hfirst e he

/-- **A mapping is in order**, whatever it was made from. -/
theorem ordered_ofList (entries : List (String × α)) : Ordered (ofList entries) := by
  have hfold : ∀ start : List (String × α), Ordered start →
      Ordered (entries.foldl (fun m e => insert e.1 e.2 m) start) := by
    induction entries with
    | nil => exact fun _ h => h
    | cons e rest ih => exact fun _ h => ih _ (ordered_insert h)
  exact hfold [] List.Pairwise.nil

/-- Where no key occurs twice, what stands under a key is found there. -/
theorem find?_eq_some_iff (h : (entries.map (·.1)).Nodup) :
    find? key entries = some v ↔ (key, v) ∈ entries := by
  refine ⟨mem_of_find?, fun hmem => ?_⟩
  induction entries with
  | nil => exact absurd hmem List.not_mem_nil
  | cons e rest ih =>
    obtain ⟨hnot, hrest⟩ := List.nodup_cons.mp h
    rcases List.mem_cons.mp hmem with rfl | hmem
    · exact find?_cons_self
    · have hkey : key ∈ rest.map (·.1) := List.mem_map_of_mem (f := (·.1)) hmem
      rw [find?_cons_of_ne (ne_of_mem_of_not_mem hkey hnot).symm, ih hrest hmem]

/-- **A mapping holds what it was made from**, if no key occurs twice there. -/
theorem mem_ofList_iff (h : (entries.map (·.1)).Nodup) {e : String × α} :
    e ∈ ofList entries ↔ e ∈ entries := by
  rw [← find?_ofList h, ← find?_eq_some_iff (ordered_ofList entries).nodup_keys]

/-- **Entries with different keys may come in any order.** -/
theorem ofList_congr (h : (entries.map (·.1)).Nodup) (h' : (entries'.map (·.1)).Nodup)
    (hsame : ∀ e, e ∈ entries ↔ e ∈ entries') : ofList entries = ofList entries' := by
  refine eq_of_pairwise_lt Prod.fst (ordered_ofList entries) (ordered_ofList entries') fun e => ?_
  rw [mem_ofList_iff h, mem_ofList_iff h', hsame e]

/-- Entries in order are a mapping already. -/
theorem ofList_of_ordered (h : Ordered entries) : ofList entries = entries :=
  eq_of_pairwise_lt Prod.fst (ordered_ofList entries) h fun _ => mem_ofList_iff h.nodup_keys

/-- A mapping holds nothing but what it was made from. -/
theorem mem_of_mem_ofList {e : String × α} (h : e ∈ ofList entries) : e ∈ entries :=
  mem_of_find?_ofList ((find?_eq_some_iff (ordered_ofList entries).nodup_keys).mpr h)

theorem mem_keys_insert_iff {k : String} :
    k ∈ keys (insert key v entries) ↔ k = key ∨ k ∈ keys entries := by
  rw [mem_keys_iff, mem_keys_iff]
  by_cases hk : k = key
  · subst hk
    simp only [find?_insert_self, true_or, iff_true]
    exact ⟨v, rfl⟩
  · rw [find?_insert_of_ne hk]
    simp [hk]

/-- **The keys of a mapping** are those of the entries that it was made from. -/
theorem mem_keys_ofList_iff : key ∈ keys (ofList entries) ↔ key ∈ entries.map (·.1) := by
  have hfold : ∀ start : List (String × α),
      key ∈ keys (entries.foldl (fun m e => insert e.1 e.2 m) start) ↔
        key ∈ entries.map (·.1) ∨ key ∈ keys start := by
    induction entries with
    | nil => simp
    | cons e rest ih =>
      intro start
      rw [List.foldl_cons, ih, mem_keys_insert_iff, List.map_cons, List.mem_cons]
      tauto
  rw [ofList, hfold []]
  simp [keys]

end Keyed

end Conformance

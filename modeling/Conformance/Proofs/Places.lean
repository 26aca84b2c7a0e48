import Conformance.Location
import Conformance.Proofs.Documents
import Conformance.Proofs.Entries

/-!
# What stands at a place

A place leads to a part of a document, or to nothing. What stands there can be replaced, and then
everything that is not on the way to the place is as it was: the other members of an object keep
their keys and values, the other elements of an array their indices.

* `Conformance.Document.at?` – what stands at a place;
* `Conformance.Document.replace` – the document with something else there, and
  `Conformance.Document.at?_replace`, `Conformance.Document.replace_self` on what becomes of it;
* `Conformance.Document.at?_append`, `Conformance.Document.replace_append` – a place below another.
-/

namespace Conformance

namespace Keyed

variable {α : Type} {key key' : String} {f g : α → α} {v : α} {entries : List (String × α)}

/-- Changes the value under a key, if there is one. -/
def modify (key : String) (f : α → α) : List (String × α) → List (String × α)
  | [] => []
  | (k, v) :: rest => if k == key then (k, f v) :: rest else (k, v) :: modify key f rest

theorem modify_cons_self : modify key f ((key, v) :: entries) = (key, f v) :: entries := by
  simp [modify]

theorem modify_cons_of_ne (h : key' ≠ key) :
    modify key f ((key', v) :: entries) = (key', v) :: modify key f entries := by
  simp [modify, h]

theorem find?_modify_self : find? key (modify key f entries) = (find? key entries).map f := by
  induction entries with
  | nil => rfl
  | cons e rest ih =>
    obtain ⟨k, w⟩ := e
    by_cases hk : k = key
    · subst hk
      rw [modify_cons_self, find?_cons_self, find?_cons_self, Option.map_some]
    · rw [modify_cons_of_ne hk, find?_cons_of_ne hk, find?_cons_of_ne hk, ih]

theorem find?_modify_of_ne (h : key' ≠ key) :
    find? key' (modify key f entries) = find? key' entries := by
  induction entries with
  | nil => rfl
  | cons e rest ih =>
    obtain ⟨k, w⟩ := e
    by_cases hk : k = key
    · subst hk
      rw [modify_cons_self, find?_cons_of_ne h.symm, find?_cons_of_ne h.symm]
    · rw [modify_cons_of_ne hk]
      by_cases hk' : k = key'
      · subst hk'
        rw [find?_cons_self, find?_cons_self]
      · rw [find?_cons_of_ne hk', find?_cons_of_ne hk', ih]

/-- Changing a value neither adds a key nor removes one. -/
theorem contains_modify : contains key' (modify key f entries) = contains key' entries := by
  unfold contains
  by_cases h : key' = key
  · rw [h, find?_modify_self, Option.isSome_map]
  · rw [find?_modify_of_ne h]

/-- Only what is done to the value under the key counts. -/
theorem modify_congr (h : find? key entries = some v) (hv : f v = g v) :
    modify key f entries = modify key g entries := by
  induction entries with
  | nil => rfl
  | cons e rest ih =>
    obtain ⟨k, w⟩ := e
    by_cases hk : k = key
    · subst hk
      obtain rfl : w = v := Option.some.inj (find?_cons_self.symm.trans h)
      rw [modify_cons_self, modify_cons_self, hv]
    · rw [find?_cons_of_ne hk] at h
      rw [modify_cons_of_ne hk, modify_cons_of_ne hk, ih h]

theorem modify_id : modify key id entries = entries := by
  induction entries with
  | nil => rfl
  | cons e rest ih =>
    obtain ⟨k, w⟩ := e
    by_cases hk : k = key
    · subst hk
      rw [modify_cons_self, id_eq]
    · rw [modify_cons_of_ne hk, ih]

end Keyed

namespace Document

/-- **What stands at a place** of a document. -/
def at? : Document → Location → Option Document
  | d, [] => some d
  | .object members, .field name :: rest =>
    (Keyed.find? name members).bind fun v => at? v rest
  | .array items, .index i :: rest => items[i]?.bind fun v => at? v rest
  | _, _ :: _ => none

/-- **The document with something else at a place.** Where the place leads to nothing, nothing is
replaced. -/
def replace : Document → Location → Document → Document
  | _, [], w => w
  | .object members, .field name :: rest, w =>
    .object (Keyed.modify name (fun v => replace v rest w) members)
  | .array items, .index i :: rest, w => .array (items.modify i fun v => replace v rest w)
  | d, _ :: _, _ => d

variable {d v w : Document} {members : List (String × Document)} {items : List Document}
variable {name : String} {i : Nat} {l l' : Location} {s : Segment}

@[simp] theorem at?_nil : d.at? [] = some d := by
  rw [at?]

@[simp] theorem replace_nil : d.replace [] w = w := by
  rw [replace]

theorem at?_field : (object members).at? (.field name :: l) =
    (Keyed.find? name members).bind fun v => v.at? l := by
  rw [at?]

theorem at?_index : (array items).at? (.index i :: l) = items[i]?.bind fun v => v.at? l := by
  rw [at?]

/-- A key that is there is entered. -/
theorem at?_field_of_find? (h : Keyed.find? name members = some v) :
    (object members).at? (.field name :: l) = v.at? l := by
  rw [at?_field, h, Option.bind_some]

/-- An element that is there is entered. -/
theorem at?_index_of_getElem? (h : items[i]? = some v) :
    (array items).at? (.index i :: l) = v.at? l := by
  rw [at?_index, h, Option.bind_some]

theorem replace_field : (object members).replace (.field name :: l) w =
    .object (Keyed.modify name (fun v => v.replace l w) members) := by
  rw [replace]

theorem replace_index : (array items).replace (.index i :: l) w =
    .array (items.modify i fun v => v.replace l w) := by
  rw [replace]

/-- A step that leads to something enters an object or an array. -/
theorem exists_of_at?_cons (h : d.at? (s :: l) = some w) :
    (∃ members name v, d = .object members ∧ s = .field name ∧
      Keyed.find? name members = some v ∧ v.at? l = some w) ∨
    ∃ items i v, d = .array items ∧ s = .index i ∧ items[i]? = some v ∧ v.at? l = some w := by
  cases d with
  | object members =>
    cases s with
    | field name =>
      obtain ⟨v, hv, hw⟩ := Option.bind_eq_some_iff.mp (at?_field.symm.trans h)
      exact Or.inl ⟨members, name, v, rfl, rfl, hv, hw⟩
    | index i => exact absurd h (by simp [at?])
  | array items =>
    cases s with
    | field name => exact absurd h (by simp [at?])
    | index i =>
      obtain ⟨v, hv, hw⟩ := Option.bind_eq_some_iff.mp (at?_index.symm.trans h)
      exact Or.inr ⟨items, i, v, rfl, rfl, hv, hw⟩
  | _ => cases s <;> exact absurd h (by simp [at?])

/-- A place below another is reached from there. -/
theorem at?_append (h : d.at? l = some v) : d.at? (l ++ l') = v.at? l' := by
  induction l generalizing d with
  | nil =>
    obtain rfl := Option.some.inj (at?_nil.symm.trans h)
    rfl
  | cons s rest ih =>
    rcases exists_of_at?_cons h with
      ⟨members, name, c, rfl, rfl, hc, hv⟩ | ⟨items, i, c, rfl, rfl, hc, hv⟩
    · rw [List.cons_append, at?_field_of_find? hc, ih hv]
    · rw [List.cons_append, at?_index_of_getElem? hc, ih hv]

/-- Modifying an element only asks for what is done to it. -/
theorem modify_items_congr {f g : Document → Document} (h : items[i]? = some v) (hv : f v = g v) :
    items.modify i f = items.modify i g := by
  refine List.ext_getElem? fun j => ?_
  rw [List.getElem?_modify, List.getElem?_modify]
  by_cases hij : i = j
  · subst hij
    simp [h, hv]
  · simp [hij]

/-- To replace something below a place is to replace what stands at the place. -/
theorem replace_append (h : d.at? l = some v) :
    d.replace (l ++ l') w = d.replace l (v.replace l' w) := by
  induction l generalizing d with
  | nil =>
    obtain rfl := Option.some.inj (at?_nil.symm.trans h)
    rw [List.nil_append, replace_nil]
  | cons s rest ih =>
    rcases exists_of_at?_cons h with
      ⟨members, name, c, rfl, rfl, hc, hv⟩ | ⟨items, i, c, rfl, rfl, hc, hv⟩
    · rw [List.cons_append, replace_field, replace_field,
        Keyed.modify_congr (g := fun c => c.replace rest (v.replace l' w)) hc (ih hv)]
    · rw [List.cons_append, replace_index, replace_index,
        modify_items_congr (g := fun c => c.replace rest (v.replace l' w)) hc (ih hv)]

/-- **What was put at a place** stands there. -/
theorem at?_replace (h : d.at? l = some v) : (d.replace l w).at? l = some w := by
  induction l generalizing d with
  | nil => rw [replace_nil, at?_nil]
  | cons s rest ih =>
    rcases exists_of_at?_cons h with
      ⟨members, name, c, rfl, rfl, hc, hv⟩ | ⟨items, i, c, rfl, rfl, hc, hv⟩
    · have hput := (Keyed.find?_modify_self (f := fun c => c.replace rest w)).trans
        (congrArg (Option.map _) hc)
      rw [replace_field, at?_field_of_find? hput, ih hv]
    · have hput := (List.getElem?_modify_eq (fun c => c.replace rest w) i items).trans
        (congrArg (Option.map _) hc)
      rw [replace_index, at?_index_of_getElem? hput, ih hv]

/-- To put at a place what stands there changes nothing. -/
theorem replace_self (h : d.at? l = some v) : d.replace l v = d := by
  induction l generalizing d with
  | nil =>
    obtain rfl := Option.some.inj (at?_nil.symm.trans h)
    rw [replace_nil]
  | cons s rest ih =>
    rcases exists_of_at?_cons h with
      ⟨members, name, c, rfl, rfl, hc, hv⟩ | ⟨items, i, c, rfl, rfl, hc, hv⟩
    · rw [replace_field, Keyed.modify_congr (g := id) hc (ih hv), Keyed.modify_id]
    · rw [replace_index, modify_items_congr (g := id) hc (ih hv), List.modify_id]

end Document

end Conformance

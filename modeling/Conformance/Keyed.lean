import Conformance.Text.Order

/-!
# Entries in the order of their keys

A mapping is a list of entries whose keys strictly increase in the order of texts, so that a mapping
has one representation only. Everything here keeps that order.
-/

namespace Conformance.Keyed

variable {α : Type}

/-- The value under a key. -/
def find? (key : String) : List (String × α) → Option α
  | [] => none
  | (k, v) :: rest => if k == key then some v else find? key rest

/-- Whether there is a value under a key. -/
def contains (key : String) (entries : List (String × α)) : Bool := (find? key entries).isSome

/-- Sets the value under a key, in place of one that is there. -/
def insert (key : String) (value : α) : List (String × α) → List (String × α)
  | [] => [(key, value)]
  | (k, v) :: rest =>
    if k == key then (key, value) :: rest
    else if Text.before key k then (key, value) :: (k, v) :: rest
    else (k, v) :: insert key value rest

/-- Removes a key and its value. -/
def erase (key : String) : List (String × α) → List (String × α)
  | [] => []
  | (k, v) :: rest => if k == key then rest else (k, v) :: erase key rest

/-- The mapping of a list of entries in any order; of two entries with one key the **later** one
counts. -/
def ofList (entries : List (String × α)) : List (String × α) :=
  entries.foldl (fun m e => insert e.1 e.2 m) []

/-- The keys, in order. -/
def keys (entries : List (String × α)) : List String := entries.map (·.1)

/-- Removing a key that is there leaves one entry fewer. -/
theorem length_erase_lt {key : String} {v : α} :
    ∀ {entries : List (String × α)}, find? key entries = some v →
      (erase key entries).length < entries.length
  | (k, w) :: rest, h => by
    unfold erase
    by_cases hk : (k == key) = true
    · simp [hk]
    · have h' : find? key rest = some v := by simpa [find?, hk] using h
      simpa [hk] using length_erase_lt h'

/-- A value is smaller than the mapping that holds it. -/
theorem sizeOf_find?_lt [SizeOf α] {key : String} {v : α} :
    ∀ {entries : List (String × α)}, find? key entries = some v → sizeOf v < sizeOf entries
  | (k, w) :: rest, h => by
    by_cases hk : (k == key) = true
    · have h' : w = v := by simpa [find?, hk] using h
      subst h'
      simp +arith
    · have h' : find? key rest = some v := by simpa [find?, hk] using h
      have := sizeOf_find?_lt h'
      simp only [List.cons.sizeOf_spec]
      omega

end Conformance.Keyed

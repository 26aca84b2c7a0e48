import Conformance.Description.Basic

/-!
# The registry of types

The object types that a schema may refer to, by name and in the order of their names.

* `Conformance.Registry.register` – adds or replaces a type;
* `Conformance.Registry.merge` – adds types that must all be new.
-/

namespace Conformance

/-- The object types known, in the order of their names. -/
structure Registry where
  /-- Each type under its name. -/
  types : List (String × ObjectType)

namespace Registry

/-- No types at all. -/
def empty : Registry := ⟨[]⟩

/-- The type of a name. -/
def find? (r : Registry) (name : String) : Option ObjectType := Keyed.find? name r.types

/-- Whether there is a type of a name. -/
def contains (r : Registry) (name : String) : Bool := Keyed.contains name r.types

/-- The registry without the type of a name. -/
def erase (r : Registry) (name : String) : Registry := ⟨Keyed.erase name r.types⟩

/-- The names of all types, in order. -/
def names (r : Registry) : List String := Keyed.keys r.types

/-- The number of types. -/
def size (r : Registry) : Nat := r.types.length

/-- All types, in the order of their names. -/
def toList (r : Registry) : List ObjectType := r.types.map (·.2)

/-- Adds a type, in place of one of the same name. -/
def register (r : Registry) (t : ObjectType) : Registry := ⟨Keyed.insert t.name t r.types⟩

/-- Adds types in turn. A name that is there already is an error. -/
def merge (r : Registry) : List ObjectType → Except String Registry
  | [] => .ok r
  | t :: rest => if r.contains t.name then .error t.name else (r.register t).merge rest

/-- Whether two lists of types are described alike. -/
def sameTypes : List (String × ObjectType) → List (String × ObjectType) → Bool
  | [], [] => true
  | (m, s) :: rest, (n, t) :: rest' => m == n && s.same t && sameTypes rest rest'
  | _, _ => false

/-- Whether two registries hold the same types. -/
def same (r s : Registry) : Bool := sameTypes r.types s.types

/-- Without a type that is there, the registry is smaller. -/
theorem size_erase_lt {r : Registry} {name : String} {t : ObjectType} (h : r.find? name = some t) :
    (r.erase name).size < r.size :=
  Keyed.length_erase_lt h

end Registry

end Conformance

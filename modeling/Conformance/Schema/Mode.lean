import Conformance.Description.Basic

/-!
# What holds where a description is silent

A mode decides whether a field is required and nullable where its description does not say.

* `Conformance.Mode.resolve` – whether a field is required, and whether it is nullable;
* `Conformance.Mode.nullableElements` – whether the elements of arrays are nullable.
-/

namespace Conformance

/-- What holds for fields whose description is silent. -/
inductive Mode where
  /-- Only fields that say so are required, and only fields that say so are not nullable. -/
  | explicitOnly
  /-- Fields are not nullable unless they say so or are optional, and required unless nullable. -/
  | allNonNullable
deriving DecidableEq, Repr, Inhabited

namespace Mode

/-- The name of a mode in configuration files. -/
def name : Mode → String
  | explicitOnly => "explicit_only"
  | allNonNullable => "all_non_nullable"

/-- The names of all modes. -/
def names : List String := [explicitOnly.name, allNonNullable.name]

/-- The mode of a name. -/
def ofName? (s : String) : Option Mode :=
  if s == explicitOnly.name then some explicitOnly
  else if s == allNonNullable.name then some allNonNullable
  else none

/-- Whether a field may be null. -/
def nullable : Mode → FieldDescription → Bool
  | explicitOnly, f => f.nullable.getD true
  | allNonNullable, f => f.nullable.getD (f.required == some false)

/-- Whether a field has to be there. -/
def required : Mode → FieldDescription → Bool
  | explicitOnly, f => f.required.getD false
  | allNonNullable, f => f.required.getD (!nullable allNonNullable f)

/-- Whether a field has to be there, and whether it may be null. -/
def resolve (m : Mode) (f : FieldDescription) : Bool × Bool := (m.required f, m.nullable f)

/-- Whether an element of an array may be null. Elements have no description of their own. -/
def nullableElements : Mode → Bool
  | explicitOnly => true
  | allNonNullable => false

end Mode

end Conformance

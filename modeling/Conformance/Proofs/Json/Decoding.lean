import Conformance.Document.Reading
import Conformance.Proofs.Json.CompactText
import Conformance.Proofs.Readings

/-!
# Values are decoded

The tree of a JSON value, decoded, is the document of that value. This takes as many levels as
arrays and objects are nested in the value (`Conformance.Json.nesting`), and no more: with fewer the
decoding ends at the limit.

* `Conformance.SourceText.readDocument_ofJson` – the tree of a value, inside of a text;
* `Conformance.SourceText.document_ofJson` – the tree of a value that is the whole text.
-/

namespace Conformance

namespace Json

mutual

/-- **The number of arrays and objects around the innermost part of a value**, the value itself
counted. -/
def nesting : Json → Nat
  | .array items => itemsNesting items + 1
  | .object members => membersNesting members + 1
  | _ => 0

/-- The greatest nesting of the items of an array. -/
def itemsNesting : List Json → Nat
  | [] => 0
  | v :: rest => max (nesting v) (itemsNesting rest)

/-- The greatest nesting of the members of an object. -/
def membersNesting : List (String × Json) → Nat
  | [] => 0
  | (_, v) :: rest => max (nesting v) (membersNesting rest)

end

end Json

namespace SourceText

variable {t : SourceText} {depth : Nat}

/-! ### Documents -/

theorem readDocument_leaf {leaf : JsonLeaf} :
    t.readDocument depth (.json leaf) = leafDocument leaf := by
  rw [readDocument]
  simp [follow]

theorem readDocument_seq_zero {items : List Source} :
    t.readDocument 0 (.seq none items) = throw .recursionLimit := by
  rw [readDocument]
  simp [follow, Scalar.hasLocalTag]

theorem readDocument_seq {items : List Source} : t.readDocument (depth + 1) (.seq none items) =
    (do return .array (← items.mapM (t.readDocument depth))) := by
  rw [readDocument]
  simp [follow, Scalar.hasLocalTag]

theorem readDocument_map_zero {entries : List (Source × Source)} :
    t.readDocument 0 (.map none entries) = throw .recursionLimit := by
  rw [readDocument]
  simp [follow, Scalar.hasLocalTag]

theorem readDocument_map {entries : List (Source × Source)} :
    t.readDocument (depth + 1) (.map none entries) =
      (do return .ofMembers (← entries.mapM fun e => do
        return (← t.readKey e.1, ← t.readDocument depth e.2))) := by
  rw [readDocument]
  simp [follow, Scalar.hasLocalTag]

theorem readKey_string (ht : t.format = .json) {k : String} :
    t.readKey (.json (.string k)) = pure k := by
  simp [readKey, ht]

mutual

/-- **The tree of a JSON value is decoded** into the document of the value, if it is not too
deep. -/
theorem readDocument_ofJson (ht : t.format = .json) : ∀ (v : Json) (depth : Nat),
    t.readDocument depth (.ofJson v) = nested v.nesting depth (.ofJson v)
  | .null, depth => readDocument_leaf.trans nested_zero.symm
  | .bool _, depth => readDocument_leaf.trans nested_zero.symm
  | .number _, depth => readDocument_leaf.trans nested_zero.symm
  | .string _, depth => readDocument_leaf.trans nested_zero.symm
  | .array items, 0 => readDocument_seq_zero
  | .array items, depth + 1 => by
    rw [Source.ofJson, readDocument_seq, mapM_readDocument_ofJsonItems ht items depth, nested_map,
      Json.nesting, nested_succ]
    rfl
  | .object members, 0 => readDocument_map_zero
  | .object members, depth + 1 => by
    rw [Source.ofJson, readDocument_map, mapM_readDocument_ofJsonMembers ht members depth,
      nested_map, Json.nesting, nested_succ]
    rfl

theorem mapM_readDocument_ofJsonItems (ht : t.format = .json) :
    ∀ (items : List Json) (depth : Nat), (Source.ofJsonItems items).mapM (t.readDocument depth) =
      nested (Json.itemsNesting items) depth (Document.ofJsonItems items)
  | [], depth => nested_zero.symm
  | v :: rest, depth => by
    rw [Source.ofJsonItems, List.mapM_cons, readDocument_ofJson ht v depth,
      mapM_readDocument_ofJsonItems ht rest depth]
    exact nested_bind nested_map

theorem mapM_readDocument_ofJsonMembers (ht : t.format = .json) :
    ∀ (members : List (String × Json)) (depth : Nat),
      ((Source.ofJsonMembers members).mapM fun e => do
        return (← t.readKey e.1, ← t.readDocument depth e.2)) =
          nested (Json.membersNesting members) depth (Document.ofJsonMembers members)
  | [], depth => nested_zero.symm
  | (k, v) :: rest, depth => by
    rw [Source.ofJsonMembers, List.mapM_cons, mapM_readDocument_ofJsonMembers ht rest depth]
    simp only [readKey_string ht, pure_bind, readDocument_ofJson ht v depth, nested_map]
    exact nested_bind rfl

end

/-- **A text that is read into the tree of a JSON value is the document of the value**, if it is not
too deep. -/
theorem document_ofJson (v : Json) : (ofJson v).document =
    if v.nesting ≤ nestingLimit then .ok (.ofJson v) else .error .recursionLimit := by
  unfold document decode
  rw [show (ofJson v).root = Source.ofJson v from rfl,
    show (ofJson v).format.levels = nestingLimit from rfl, readDocument_ofJson rfl, nested]
  split
  · rfl
  · rfl

end SourceText

end Conformance

import Conformance.Description.Reading
import Conformance.Proofs.Json.Decoding

/-!
# The trees of JSON texts

A JSON text has no tags, no references and no scalars of the other format. Its tree is therefore
made of leaves, arrays and objects only, and of the place where reading stopped
(`Conformance.Source.IsJsonTree`). A part of such a tree that was decoded is the tree of a JSON
value, since neither the place where reading stopped nor an impossible literal can be decoded.

* `Conformance.Json.isJsonTree_readText` – a JSON text is read into such a tree;
* `Conformance.SourceText.exists_of_readDocument` – what was decoded is the tree of a value;
* `Conformance.SourceText.readAnnotationValue_eq` – in a JSON text an annotation is read like a
  document.
-/

namespace Conformance

/-- **The tree of a JSON text**, whole or broken off. -/
inductive Source.IsJsonTree : Source → Prop
  /-- A leaf. -/
  | leaf (leaf : JsonLeaf) : IsJsonTree (.json leaf)
  /-- An array. -/
  | seq {items : List Source} (h : ∀ s ∈ items, IsJsonTree s) : IsJsonTree (.seq none items)
  /-- An object. -/
  | map {entries : List (Source × Source)} (hkeys : ∀ e ∈ entries, IsJsonTree e.1)
    (hvalues : ∀ e ∈ entries, IsJsonTree e.2) : IsJsonTree (.map none entries)
  /-- The place where reading stopped. -/
  | broken : IsJsonTree .broken

open Source (IsJsonTree)

namespace Source

mutual

/-- The tree of a JSON value is the tree of a JSON text. -/
theorem isJsonTree_ofJson : ∀ v : Json, (ofJson v).IsJsonTree
  | .null => .leaf _
  | .bool _ => .leaf _
  | .number _ => .leaf _
  | .string _ => .leaf _
  | .array items => .seq (isJsonTree_ofJsonItems items)
  | .object members => .map (fun e he => (isJsonTree_ofJsonMembers members e he).1)
    fun e he => (isJsonTree_ofJsonMembers members e he).2

theorem isJsonTree_ofJsonItems : ∀ items : List Json, ∀ s ∈ ofJsonItems items, s.IsJsonTree
  | [] => fun _ h => absurd h List.not_mem_nil
  | v :: rest => List.forall_mem_cons.mpr ⟨isJsonTree_ofJson v, isJsonTree_ofJsonItems rest⟩

theorem isJsonTree_ofJsonMembers : ∀ members : List (String × Json),
    ∀ e ∈ ofJsonMembers members, e.1.IsJsonTree ∧ e.2.IsJsonTree
  | [] => fun _ h => absurd h List.not_mem_nil
  | (_, v) :: rest =>
    List.forall_mem_cons.mpr ⟨⟨.leaf _, isJsonTree_ofJson v⟩, isJsonTree_ofJsonMembers rest⟩

end

end Source

/-! ### Reading a text -/

namespace Json

mutual

theorem isJsonTree_readValue : ∀ (fuel : Nat) (cs : List Char), (readValue fuel cs).1.IsJsonTree
  | 0, cs => .broken
  | fuel + 1, cs => by
    rw [readValue]
    split
    · split
      · exact .seq fun _ h => absurd h List.not_mem_nil
      · exact .seq (isJsonTree_readItems fuel _)
    · split
      · exact .map (fun _ h => absurd h List.not_mem_nil) fun _ h => absurd h List.not_mem_nil
      · exact .map (fun e he => (isJsonTree_readMembers fuel _ e he).1)
          fun e he => (isJsonTree_readMembers fuel _ e he).2
    · split
      · exact .leaf _
      · exact .broken

theorem isJsonTree_readItems : ∀ (fuel : Nat) (cs : List Char),
    ∀ s ∈ (readItems fuel cs).1, s.IsJsonTree
  | 0, cs => List.forall_mem_singleton.mpr .broken
  | fuel + 1, cs => by
    have hvalue := isJsonTree_readValue fuel cs
    rw [readItems]
    split
    · next heq =>
      rw [heq] at hvalue
      exact List.forall_mem_singleton.mpr hvalue
    · next heq =>
      rw [heq] at hvalue
      split
      · exact List.forall_mem_singleton.mpr hvalue
      · exact List.forall_mem_cons.mpr ⟨hvalue, isJsonTree_readItems fuel _⟩
      · exact List.forall_mem_cons.mpr ⟨hvalue, List.forall_mem_singleton.mpr .broken⟩

theorem isJsonTree_readMembers : ∀ (fuel : Nat) (cs : List Char),
    ∀ e ∈ (readMembers fuel cs).1, e.1.IsJsonTree ∧ e.2.IsJsonTree
  | 0, cs => List.forall_mem_singleton.mpr ⟨.broken, .broken⟩
  | fuel + 1, cs => by
    have hkey := isJsonTree_readValue fuel cs
    rw [readMembers]
    split
    · next heq =>
      rw [heq] at hkey
      exact List.forall_mem_singleton.mpr ⟨hkey, .broken⟩
    · next heq =>
      rw [heq] at hkey
      split
      · exact isJsonTree_readMember fuel _ _ hkey
      · exact isJsonTree_readMember fuel _ _ hkey
      · exact List.forall_mem_singleton.mpr ⟨hkey, .broken⟩

theorem isJsonTree_readMember : ∀ (fuel : Nat) (k : Source) (cs : List Char), k.IsJsonTree →
    ∀ e ∈ (readMember fuel k cs).1, e.1.IsJsonTree ∧ e.2.IsJsonTree
  | 0, k, cs => fun hkey => List.forall_mem_singleton.mpr ⟨hkey, .broken⟩
  | fuel + 1, k, cs => by
    intro hkey
    have hvalue := isJsonTree_readValue fuel cs
    rw [readMember]
    split
    · next heq =>
      rw [heq] at hvalue
      exact List.forall_mem_singleton.mpr ⟨hkey, hvalue⟩
    · next heq =>
      rw [heq] at hvalue
      split
      · exact List.forall_mem_singleton.mpr ⟨hkey, hvalue⟩
      · exact List.forall_mem_cons.mpr ⟨⟨hkey, hvalue⟩, isJsonTree_readMembers fuel _⟩
      · exact List.forall_mem_cons.mpr
          ⟨⟨hkey, hvalue⟩, List.forall_mem_singleton.mpr ⟨.broken, .broken⟩⟩

end

/-- **A JSON text is read into the tree of a JSON text.** -/
theorem isJsonTree_readText (text : String) : (readText text).root.IsJsonTree :=
  isJsonTree_readValue (3 * text.toList.length + 3) text.toList

end Json

/-! ### Decoding -/

namespace SourceText

variable {t : SourceText} {s k : Source} {depth : Nat} {d : Document}

/-- A tree of a JSON text has no references to follow. -/
theorem follow_of_isJsonTree (hs : s.IsJsonTree) : t.follow s = pure s := by
  cases hs <;> rfl

/-- A key that was read is a text in quotes. -/
theorem eq_of_readKey (ht : t.format = .json) {key : String} (h : Yields (t.readKey k) key) :
    k = .json (.string key) := by
  unfold readKey at h
  rw [ht] at h
  split at h
  · rw [h.of_pure]
  · exact absurd h not_yields_throw
  · contradiction

/-- A leaf that denotes something is the tree of a JSON value. -/
theorem exists_of_leafDocument {leaf : JsonLeaf}
    (h : Yields (liftM (leafDocument leaf) : Reading Document) d) :
    ∃ v : Json, Source.json leaf = .ofJson v ∧ d = .ofJson v := by
  cases leaf with
  | null => exact ⟨.null, rfl, h.of_pure⟩
  | bool b => exact ⟨.bool b, rfl, h.of_pure⟩
  | number n => exact ⟨.number n, rfl, h.of_pure⟩
  | string text => exact ⟨.string text, rfl, h.of_pure⟩
  | void => exact absurd h not_yields_throw

/-- Items that were decoded one by one are the trees of JSON values. -/
theorem exists_items {items : List Source} {ds : List Document}
    (h : List.Forall₂ (fun s d => ∃ v : Json, s = .ofJson v ∧ d = .ofJson v) items ds) :
    ∃ vs : List Json, items = Source.ofJsonItems vs ∧ ds = Document.ofJsonItems vs := by
  induction h with
  | nil => exact ⟨[], rfl, rfl⟩
  | cons hfirst _ ih =>
    obtain ⟨v, rfl, rfl⟩ := hfirst
    obtain ⟨vs, rfl, rfl⟩ := ih
    exact ⟨v :: vs, rfl, rfl⟩

/-- Members that were decoded one by one are the trees of the members of a JSON value. -/
theorem exists_members {entries : List (Source × Source)} {members : List (String × Document)}
    (h : List.Forall₂ (fun e m => e.1 = .json (.string m.1) ∧
      ∃ v : Json, e.2 = .ofJson v ∧ m.2 = .ofJson v) entries members) :
    ∃ ms : List (String × Json), entries = Source.ofJsonMembers ms ∧
      members = Document.ofJsonMembers ms := by
  induction h with
  | nil => exact ⟨[], rfl, rfl⟩
  | @cons e m _ _ hfirst _ ih =>
    obtain ⟨ks, s⟩ := e
    obtain ⟨key, d⟩ := m
    obtain ⟨rfl, v, rfl, rfl⟩ := hfirst
    obtain ⟨ms, rfl, rfl⟩ := ih
    exact ⟨(key, v) :: ms, rfl, rfl⟩

/-- **What was decoded is the tree of a JSON value**, and the document is the one of this value. -/
theorem exists_of_readDocument (ht : t.format = .json) (hs : s.IsJsonTree)
    (h : Yields (t.readDocument depth s) d) :
    ∃ v : Json, s = .ofJson v ∧ d = .ofJson v := by
  induction hs generalizing depth d with
  | leaf leaf =>
    rw [readDocument_leaf] at h
    exact exists_of_leafDocument h
  | seq _ ih =>
    cases depth with
    | zero =>
      rw [readDocument_seq_zero] at h
      exact absurd h not_yields_throw
    | succ depth =>
      rw [readDocument_seq] at h
      obtain ⟨ds, hds, rfl⟩ := h.map
      obtain ⟨vs, rfl, rfl⟩ := exists_items (hds.mapM fun s hs _ => ih s hs)
      exact ⟨.array vs, rfl, rfl⟩
  | map _ _ _ ih =>
    cases depth with
    | zero =>
      rw [readDocument_map_zero] at h
      exact absurd h not_yields_throw
    | succ depth =>
      rw [readDocument_map] at h
      obtain ⟨members, hmembers, rfl⟩ := h.map
      obtain ⟨ms, rfl, rfl⟩ := exists_members (hmembers.mapM fun e he m hm => by
        obtain ⟨key, hkey, hm⟩ := hm.bind
        obtain ⟨d, hd, rfl⟩ := hm.map
        exact ⟨eq_of_readKey ht hkey, ih e he hd⟩)
      exact ⟨.object ms, rfl, rfl⟩
  | broken =>
    rw [readDocument] at h
    exact absurd h not_yields_throw

/-! ### Annotations -/

theorem readAnnotationValue_seq {items : List Source} :
    t.readAnnotationValue (depth + 1) (.seq none items) = (do
      let vs ← items.mapM (t.readAnnotationValue depth)
      return (.array (vs.map (·.1)), vs.all (·.2))) := by
  rw [readAnnotationValue]
  simp [follow, Scalar.hasLocalTag]

theorem readAnnotationValue_map (ht : t.format = .json) {entries : List (Source × Source)}
    (hkeys : ∀ e ∈ entries, e.1.IsJsonTree) :
    t.readAnnotationValue (depth + 1) (.map none entries) = (do
      let vs ← entries.mapM fun e => do
        return (← t.readKey e.1, ← t.readAnnotationValue depth e.2)
      return (.ofMembers (vs.map fun e => (e.1, e.2.1)), vs.all fun e => e.2.2)) := by
  have hfollow : t.follow (.map none entries) = pure (.map none entries) := rfl
  rw [readAnnotationValue, hfollow, pure_bind]
  simp only [Scalar.hasLocalTag, Bool.false_eq_true, if_false]
  rw [mapM_eq_map (g := fun e => do return (← t.readKey e.1, ← t.readAnnotationValue depth e.2))
    (h := fun m => (m.1, m.2, true)) fun e he => ?_]
  · simp [Function.comp_def]
  · simp only [follow_of_isJsonTree (hkeys e he), ht, pure_bind, bind_assoc]

/-- **In a JSON text an annotation is read like a document**, and all keys inside it are texts. -/
theorem readAnnotationValue_eq (ht : t.format = .json) (hs : s.IsJsonTree) :
    t.readAnnotationValue depth s = t.readDocument depth s >>= fun d => pure (d, true) := by
  induction hs generalizing depth with
  | leaf leaf =>
    rw [readDocument_leaf, readAnnotationValue]
    rfl
  | seq _ ih =>
    cases depth with
    | zero =>
      rw [readDocument_seq_zero, readAnnotationValue]
      rfl
    | succ depth =>
      have hall : ∀ ds : List Document, (ds.all fun _ => true) = true := by simp
      rw [readDocument_seq, readAnnotationValue_seq, mapM_eq_map fun s hs => ih s hs]
      simp [Function.comp_def, hall]
  | @map entries hkeys _ _ ih =>
    cases depth with
    | zero =>
      rw [readDocument_map_zero, readAnnotationValue]
      rfl
    | succ depth =>
      have hall : ∀ ms : List (String × Document), (ms.all fun _ => true) = true := by simp
      have hentry : ∀ e ∈ entries,
          (do return (← t.readKey e.1, ← t.readAnnotationValue depth e.2)) =
            (do return (← t.readKey e.1, ← t.readDocument depth e.2)) >>= fun m =>
              pure (m.1, m.2, true) := by
        intro e he
        simp only [ih e he, bind_assoc, pure_bind]
      rw [readDocument_map, readAnnotationValue_map ht hkeys, mapM_eq_map hentry]
      simp [Function.comp_def, hall]
  | broken =>
    rw [readDocument, readAnnotationValue]
    rfl

end SourceText

end Conformance

import Conformance.Document.Loading
import Conformance.Proofs.Json.Decoding
import Conformance.Proofs.SortedEntries

/-!
# What is shown is read back

A document is shown in messages as compact JSON text. Its members are in the order of their keys
(`Conformance.Document.InOrder`), as they are in every document, and so it is the document of its
own JSON value. What its text is read as is the document of that value, too. So a text that is shown
can be read back, and no two documents are shown alike.

What stands in the way are doubles, which may be rounded on the way back, and the limit of nesting:
a document that is nested more deeply is shown all the same, but not read.

* `Conformance.Document.ofJson_toJson` – a document and its JSON value;
* `Conformance.Document.shown_reads_back` – a document and its text.
-/

namespace Conformance

namespace Document

open SourceText (Yields not_yields_throw)

mutual

/-- **The members of every object in a document are in the order of their keys.** -/
def InOrder : Document → Prop
  | .array items => itemsInOrder items
  | .object members => Keyed.Ordered members ∧ membersInOrder members
  | _ => True

/-- The items of an array are in order. -/
def itemsInOrder : List Document → Prop
  | [] => True
  | d :: rest => InOrder d ∧ itemsInOrder rest

/-- The values of the members of an object are in order. -/
def membersInOrder : List (String × Document) → Prop
  | [] => True
  | (_, d) :: rest => InOrder d ∧ membersInOrder rest

end

/-- **No number in a document is a double.** -/
def IntegersOnly (d : Document) : Prop := d.toJson.IntegersOnly

/-- **The number of arrays and objects around the innermost part of a document.** -/
def nesting (d : Document) : Nat := d.toJson.nesting

variable {d d' : Document} {v : Json}

theorem itemsInOrder_iff {items : List Document} :
    itemsInOrder items ↔ ∀ d ∈ items, d.InOrder := by
  induction items with
  | nil => simp [itemsInOrder]
  | cons d rest ih => rw [itemsInOrder, ih, List.forall_mem_cons]

theorem membersInOrder_iff {members : List (String × Document)} :
    membersInOrder members ↔ ∀ e ∈ members, e.2.InOrder := by
  induction members with
  | nil => simp [membersInOrder]
  | cons e rest ih => rw [membersInOrder, ih, List.forall_mem_cons]

theorem nesting_array_le_iff {items : List Document} {n : Nat} :
    (Document.array items).nesting ≤ n + 1 ↔ ∀ d ∈ items, d.nesting ≤ n := by
  have hitems : Json.itemsNesting (toJsonItems items) ≤ n ↔ ∀ d ∈ items, d.nesting ≤ n := by
    induction items with
    | nil => simp [toJsonItems, Json.itemsNesting]
    | cons d rest ih =>
      rw [toJsonItems, Json.itemsNesting, Nat.max_le, ih, List.forall_mem_cons, nesting]
  rw [nesting, toJson, Json.nesting, Nat.add_le_add_iff_right, hitems]

theorem nesting_object_le_iff {members : List (String × Document)} {n : Nat} :
    (Document.object members).nesting ≤ n + 1 ↔ ∀ e ∈ members, e.2.nesting ≤ n := by
  have hmembers : Json.membersNesting (toJsonMembers members) ≤ n ↔
      ∀ e ∈ members, e.2.nesting ≤ n := by
    induction members with
    | nil => simp [toJsonMembers, Json.membersNesting]
    | cons e rest ih =>
      rw [toJsonMembers, Json.membersNesting, Nat.max_le, ih, List.forall_mem_cons, nesting]
  rw [nesting, toJson, Json.nesting, Nat.add_le_add_iff_right, hmembers]

theorem integersOnly_array_iff {items : List Document} :
    (Document.array items).IntegersOnly ↔ ∀ d ∈ items, d.IntegersOnly := by
  rw [IntegersOnly, toJson, Json.IntegersOnly]
  induction items with
  | nil => simp [toJsonItems, Json.itemsIntegersOnly]
  | cons d rest ih =>
    rw [toJsonItems, Json.itemsIntegersOnly, ih, List.forall_mem_cons, IntegersOnly]

theorem integersOnly_object_iff {members : List (String × Document)} :
    (Document.object members).IntegersOnly ↔ ∀ e ∈ members, e.2.IntegersOnly := by
  rw [IntegersOnly, toJson, Json.IntegersOnly]
  induction members with
  | nil => simp [toJsonMembers, Json.membersIntegersOnly]
  | cons e rest ih =>
    rw [toJsonMembers, Json.membersIntegersOnly, ih, List.forall_mem_cons, IntegersOnly]

/-! ### Documents and JSON values -/

mutual

/-- **A document in order is the document of its JSON value.** -/
theorem ofJson_toJson : ∀ d : Document, d.InOrder → ofJson d.toJson = d
  | .null => fun _ => rfl
  | .bool _ => fun _ => rfl
  | .number _ => fun _ => rfl
  | .string _ => fun _ => rfl
  | .array items => fun h => by
    rw [toJson, ofJson, ofJsonItems_toJsonItems items h]
  | .object members => fun h => by
    rw [toJson, ofJson, ofJsonMembers_toJsonMembers members h.2, ofMembers,
      Keyed.ofList_of_ordered h.1]

theorem ofJsonItems_toJsonItems :
    ∀ items : List Document, itemsInOrder items → ofJsonItems (toJsonItems items) = items
  | [] => fun _ => rfl
  | d :: rest => fun h => by
    rw [toJsonItems, ofJsonItems, ofJson_toJson d h.1, ofJsonItems_toJsonItems rest h.2]

theorem ofJsonMembers_toJsonMembers : ∀ members : List (String × Document),
    membersInOrder members → ofJsonMembers (toJsonMembers members) = members
  | [] => fun _ => rfl
  | (k, d) :: rest => fun h => by
    rw [toJsonMembers, ofJsonMembers, ofJson_toJson d h.1, ofJsonMembers_toJsonMembers rest h.2]

end

mutual

/-- The document of a JSON value is in order, whatever the order in the value is. -/
theorem inOrder_ofJson : ∀ v : Json, (ofJson v).InOrder
  | .null => trivial
  | .bool _ => trivial
  | .number _ => trivial
  | .string _ => trivial
  | .array items => itemsInOrder_ofJsonItems items
  | .object members =>
    ⟨Keyed.ordered_ofList _, membersInOrder_iff.mpr fun _ he =>
      membersInOrder_iff.mp (membersInOrder_ofJsonMembers members) _ (Keyed.mem_of_mem_ofList he)⟩

theorem itemsInOrder_ofJsonItems : ∀ items : List Json, itemsInOrder (ofJsonItems items)
  | [] => trivial
  | v :: rest => ⟨inOrder_ofJson v, itemsInOrder_ofJsonItems rest⟩

theorem membersInOrder_ofJsonMembers :
    ∀ members : List (String × Json), membersInOrder (ofJsonMembers members)
  | [] => trivial
  | (_, v) :: rest => ⟨inOrder_ofJson v, membersInOrder_ofJsonMembers rest⟩

end

/-! ### Documents that were read -/

theorem inOrder_of_leafDocument {leaf : JsonLeaf}
    (h : Yields (liftM (SourceText.leafDocument leaf) : Reading Document) d) : d.InOrder := by
  cases leaf with
  | void => exact absurd h not_yields_throw
  | _ =>
    rw [Yields.of_pure h]
    trivial

theorem inOrder_of_scalarDocument {s : Scalar}
    (h : Yields (liftM (SourceText.scalarDocument s) : Reading Document) d) : d.InOrder := by
  unfold SourceText.scalarDocument at h
  split at h
  · exact absurd h not_yields_throw
  · split at h
    all_goals
      first
      | exact absurd h not_yields_throw
      | rw [Yields.of_pure h]; trivial

/-- **A document that was read is in order**, in either format. -/
theorem inOrder_of_readDocument {t : SourceText} {depth : Nat} {s : Source}
    (h : Yields (t.readDocument depth s) d) : d.InOrder := by
  induction depth using Nat.strongRecOn generalizing s d with
  | ind depth ih =>
  rw [SourceText.readDocument] at h
  obtain ⟨node, -, hnode⟩ := h.bind
  cases node with
  | json leaf => exact inOrder_of_leafDocument hnode
  | scalar s => exact inOrder_of_scalarDocument hnode
  | nothing =>
    rw [hnode.of_pure]
    trivial
  | seq tag items =>
    simp only at hnode
    split at hnode
    · exact absurd hnode not_yields_throw
    cases depth with
    | zero => exact absurd hnode not_yields_throw
    | succ depth =>
      obtain ⟨ds, hds, rfl⟩ := Yields.map hnode
      exact itemsInOrder_iff.mpr (hds.forall_mem_mapM fun _ _ _ hd => ih depth (by omega) hd)
  | map tag entries =>
    simp only at hnode
    split at hnode
    · exact absurd hnode not_yields_throw
    cases depth with
    | zero => exact absurd hnode not_yields_throw
    | succ depth =>
      obtain ⟨members, hmembers, rfl⟩ := Yields.map hnode
      have hvalues : ∀ e ∈ members, e.2.InOrder := by
        refine hmembers.forall_mem_mapM fun e _ m hm => ?_
        obtain ⟨key, -, hpair⟩ := hm.bind
        obtain ⟨value, hvalue, rfl⟩ := hpair.map
        exact ih depth (by omega) hvalue
      exact ⟨Keyed.ordered_ofList _,
        membersInOrder_iff.mpr fun e he => hvalues e (Keyed.mem_of_mem_ofList he)⟩
  | _ => exact absurd hnode not_yields_throw

/-- **A document that was loaded is in order.** -/
theorem inOrder_of_parse {format : Format} {text : String} (h : parse format text = .ok d) :
    d.InOrder :=
  inOrder_of_readDocument (.of_decode h)

/-! ### Documents and their texts -/

/-- **The text of a document is read as its JSON value.** -/
theorem readText_text (h : d.IntegersOnly) : Json.readText d.text = .ofJson d.toJson := by
  rw [← compact_toJson, Json.readText_compact h]

/-- Where there are levels enough, the tree of a document in order is decoded into the document. -/
theorem readDocument_toJson {depth : Nat} (h : d.InOrder) (hle : d.nesting ≤ depth) :
    (SourceText.ofJson d.toJson).readDocument depth (SourceText.ofJson d.toJson).root = pure d := by
  have hread : (SourceText.ofJson d.toJson).readDocument depth (.ofJson d.toJson) = _ :=
    SourceText.readDocument_ofJson rfl d.toJson depth
  have hle' : d.toJson.nesting ≤ depth := hle
  rw [ofJson_toJson d h, SourceText.nested, if_pos hle'] at hread
  exact hread

/-- **The text of a document in order is read as the document**, if it is not too deep. -/
theorem parse_text (h : d.InOrder) (hints : d.IntegersOnly) : parse .json d.text =
    if d.nesting ≤ nestingLimit then .ok d else .error .recursionLimit := by
  unfold parse SourceText.ofText
  rw [readText_text hints, SourceText.document_ofJson, ofJson_toJson d h, nesting]

/-- A file that holds the text of a document is loaded as the document. -/
theorem load_text {m : Type → Type} [Monad m] [LawfulMonad m] {files : FileStore m} {path : String}
    (h : d.InOrder) (hints : d.IntegersOnly) (hle : d.nesting ≤ nestingLimit)
    (hformat : FilePath.format path = .json) (hread : files.read path = pure (.ok d.text)) :
    load files path = pure (.ok d) := by
  unfold load
  rw [hread, pure_bind, hformat]
  dsimp only
  rw [parse_text h hints, if_pos hle]

/-- **No two documents are shown alike.** -/
theorem eq_of_text_eq (h : d.InOrder) (h' : d'.InOrder) (hints : d.IntegersOnly)
    (hints' : d'.IntegersOnly) (htext : d.text = d'.text) : d = d' := by
  have hsource : SourceText.ofJson d.toJson = SourceText.ofJson d'.toJson := by
    rw [← readText_text hints, ← readText_text hints', htext]
  -- both are decoded from one tree, with levels enough for both
  have hread := readDocument_toJson h (Nat.le_max_left d.nesting d'.nesting)
  rw [hsource, readDocument_toJson h' (Nat.le_max_right _ _)] at hread
  exact (Prod.mk.inj (Except.ok.inj (congrFun hread 0))).1.symm

/-- **What is shown is read back.** A document in order is the document of its JSON value, which is
written like it. If no number in it is a double, it is also what its text is read as, as long as the
limit of nesting allows, and no other document has that text. -/
theorem shown_reads_back (h : d.InOrder) :
    ofJson d.toJson = d ∧ d.toJson.compact = d.text ∧
      (d.IntegersOnly → (parse .json d.text = .ok d ↔ d.nesting ≤ nestingLimit) ∧
        ∀ d' : Document, d'.InOrder → d'.IntegersOnly → d'.text = d.text → d' = d) := by
  refine ⟨ofJson_toJson d h, compact_toJson d, fun hints => ⟨?_, fun d' h' hints' htext => ?_⟩⟩
  · rw [parse_text h hints]
    split
    · next hle => exact iff_of_true rfl hle
    · next hgt => exact iff_of_false (by simp) hgt
  · exact eq_of_text_eq h' h hints' hints htext

/-- A document with the least and the greatest integer, and with texts that need escapes. -/
def ledger : Document := .object [
  ("a\tb", .array [.number (.integer ⟨-9223372036854775808, by decide, by decide⟩),
    .number (.integer ⟨18446744073709551615, by decide, by decide⟩), .array [], .object []]),
  ("c", .object [("\"", .string "\x01\\ü\n"), ("d", .null), ("e", .bool true)])]

theorem shown_reads_back_ledger : ledger.InOrder ∧ ledger.IntegersOnly ∧ ledger.nesting = 3 ∧
    parse .json ledger.text = .ok ledger := by
  have horder : ledger.InOrder := by
    have hjson : ledger = ofJson ledger.toJson := by rfl
    rw [hjson]
    exact inOrder_ofJson _
  have hints : ledger.IntegersOnly := by
    simp [ledger, IntegersOnly, toJson, toJsonItems, toJsonMembers, Json.IntegersOnly,
      Json.itemsIntegersOnly, Json.membersIntegersOnly]
  have hnesting : ledger.nesting = 3 := by decide
  obtain ⟨-, -, hread⟩ := shown_reads_back horder
  exact ⟨horder, hints, hnesting, (hread hints).1.mpr (by rw [hnesting]; decide)⟩

end Document

end Conformance

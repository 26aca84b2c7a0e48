import Conformance.Proofs.Checking.Nulls
import Conformance.Proofs.Generation.Failures
import Conformance.Proofs.Places

/-!
# What is found stays where it is

A value that is replaced changes what is found at its place and below, and nothing else: neither
what is found elsewhere, nor the order in which it comes. This is not a matter of single findings,
since an object reports what it lacks after everything in it and an array its length before. What
makes it work is that neither of them looks into its values for this: an object asks for keys, and
an array counts.

A null is treated where it stands and not by its own node. So a place that is visited is told apart
only as long as it does not become null (`Conformance.SchemaSet.Visits.isolates`), while a field or
an element may become anything, seen from the object or the array that it is in
(`Conformance.SchemaSet.Covers.isolates`).

* `Conformance.SchemaSet.Isolates` – what is found in a document, split at a place;
* `Conformance.SchemaSet.Isolates.trans` – a place below another;
* `Conformance.Generator.findings_are_local` – what this means for the tables of a generator.
-/

namespace Conformance

/-- **Findings apart from a place**: none of them is there or below. -/
def Finding.Apart (l : Location) (found : List Finding) : Prop := ∀ x ∈ found, ¬l <+: x.location

namespace Finding

variable {l l' : Location} {found found' : List Finding}

theorem apart_append : Apart l (found ++ found') ↔ Apart l found ∧ Apart l found' :=
  List.forall_mem_append

/-- What is apart from a place is apart from every place below. -/
theorem Apart.below (h : Apart l found) : Apart (l ++ l') found :=
  fun x hx hprefix => h x hx ((List.prefix_append l l').trans hprefix)

/-- What is apart from a place is apart from it where the whole document stands below another. -/
theorem Apart.under (h : Apart l' found) : Apart (l ++ l') (found.map (·.under l)) := by
  intro x hx hprefix
  obtain ⟨y, hy, rfl⟩ := List.mem_map.mp hx
  exact h y hy ((List.prefix_append_right_inj l).mp hprefix)

/-- What is moved twice is moved once. -/
theorem map_under_under :
    (found.map (·.under l')).map (·.under l) = found.map (·.under (l ++ l')) := by
  rw [List.map_map]
  refine List.map_congr_left fun x _ => ?_
  rw [Function.comp_apply, Finding.under, Finding.under, Finding.under, List.append_assoc]

end Finding

namespace SchemaSet

variable {set : SchemaSet} {id id' : NodeId} {l l' : Location} {d d' v w : Document}
variable {members : List (String × Document)} {items : List Document} {r : Registry} {m : Mode}

/-- **A place is isolated**: whatever is put there, among the documents allowed, what is found in
the whole is what is found inside, between findings that are apart from the place and are always the
same. -/
def Isolates (set : SchemaSet) (id : NodeId) (d : Document) (l : Location)
    (allowed : Document → Prop) (inside : Document → List Finding) : Prop :=
  ∃ before after : List Finding, Finding.Apart l before ∧ Finding.Apart l after ∧
    ∀ w, allowed w → set.findings id [] (d.replace l w) = before ++ inside w ++ after

theorem Isolates.congr {allowed allowed' : Document → Prop}
    {inside inside' : Document → List Finding} (h : set.Isolates id d l allowed inside)
    (hallowed : ∀ w, allowed' w → allowed w ∧ inside w = inside' w) :
    set.Isolates id d l allowed' inside' := by
  obtain ⟨before, after, hbefore, hafter, heq⟩ := h
  refine ⟨before, after, hbefore, hafter, fun w hw => ?_⟩
  obtain ⟨hw', hinside⟩ := hallowed w hw
  rw [heq w hw', hinside]

/-- **A place below another** is isolated in the whole if it is in what stands at the upper one. -/
theorem Isolates.trans {allowed : Document → Prop} {inside : Document → List Finding}
    (h : set.Isolates id d l (· ≠ .null) fun w => (set.findings id' [] w).map (·.under l))
    (hat : d.at? l = some d') (h' : set.Isolates id' d' l' allowed inside)
    (hne : ∀ w, allowed w → d'.replace l' w ≠ .null) :
    set.Isolates id d (l ++ l') allowed fun w => (inside w).map (·.under l) := by
  obtain ⟨before, after, hbefore, hafter, houter⟩ := h
  obtain ⟨before', after', hbefore', hafter', hinner⟩ := h'
  refine ⟨before ++ before'.map (·.under l), after'.map (·.under l) ++ after,
    Finding.apart_append.mpr ⟨hbefore.below, hbefore'.under⟩,
    Finding.apart_append.mpr ⟨hafter'.under, hafter.below⟩, fun w hw => ?_⟩
  calc set.findings id [] (d.replace (l ++ l') w)
      = before ++ (set.findings id' [] (d'.replace l' w)).map (·.under l) ++ after := by
        rw [Document.replace_append hat, houter _ (hne w hw)]
    _ = before ++ (before' ++ inside w ++ after').map (·.under l) ++ after := by
        rw [hinner w hw]
    _ = before ++ before'.map (·.under l) ++ (inside w).map (·.under l) ++
          (after'.map (·.under l) ++ after) := by
        simp only [List.map_append, List.append_assoc]

/-! ### One step -/

/-- What is found in a field is at its place or below. -/
theorem isPrefix_of_mem_valueFindings {f : FieldSchema} {v : Option Document} {x : Finding}
    (hx : x ∈ set.valueFindings f [] v) : [.field f.name] <+: x.location := by
  rcases mem_valueFindings.mp hx with ⟨-, -, rfl⟩ | ⟨-, -, -, y, -, rfl⟩
  · exact List.prefix_rfl
  · exact List.prefix_append [.field f.name] y.location

/-- What is found in an element is at its place or below. -/
theorem isPrefix_of_mem_itemFindings {a : ArraySchema} {i : Nat} {x : Finding}
    (hx : x ∈ set.itemFindings a [] i v) : [.index i] <+: x.location := by
  obtain ⟨-, y, -, rfl⟩ := mem_itemFindings.mp hx
  exact List.prefix_append [.index i] y.location

/-- A place has one first step. -/
theorem eq_of_isPrefix {s t : Segment} (hs : [s] <+: l) (ht : [t] <+: l) : s = t := by
  obtain ⟨rest, rfl⟩ := hs
  exact (List.cons_prefix_cons.mp ht).1.symm

section Fields

variable {fields : List FieldSchema} {name : String} {change : Document → Document}

/-- What is found in fields of other names is apart from a field, whatever they hold. -/
theorem apart_flatMap_valueFindings {value : FieldSchema → Option Document}
    (h : name ∉ fields.map (·.name)) :
    Finding.Apart [.field name] (fields.flatMap fun g => set.valueFindings g [] (value g)) := by
  intro x hx hprefix
  obtain ⟨g, hg, hx⟩ := List.mem_flatMap.mp hx
  have hname : name = g.name := by
    simpa using eq_of_isPrefix hprefix (isPrefix_of_mem_valueFindings hx)
  exact h (hname ▸ List.mem_map_of_mem hg)

/-- What is found in fields of other names does not change with a value. -/
theorem flatMap_valueFindings_modify (h : name ∉ fields.map (·.name)) :
    (fields.flatMap fun g =>
        set.valueFindings g l (Keyed.find? g.name (Keyed.modify name change members))) =
      fields.flatMap fun g => set.valueFindings g l (Keyed.find? g.name members) := by
  refine List.flatMap_congr fun g hg => ?_
  have hne : g.name ≠ name := fun heq => h (heq ▸ List.mem_map_of_mem hg)
  rw [Keyed.find?_modify_of_ne hne]

/-- What is found at an object itself does not change with a value. -/
theorem objectFindings_modify {o : ObjectSchema} :
    o.ownFindings l (Keyed.modify name change members) = o.ownFindings l members := by
  unfold ObjectSchema.ownFindings ObjectSchema.missingFields
  simp only [Keyed.contains_modify]

end Fields

/-- **A field of an object is isolated**, since no other field has its name and the object itself
only asks for the key. -/
theorem isolates_field (hs : set.Sound r m) {o : ObjectSchema} {f : FieldSchema}
    (node : set.node? id = some (.object o)) (declared : f ∈ o.fields)
    (present : Keyed.find? f.name members = some v) :
    set.Isolates id (.object members) [.field f.name] (fun _ => True) fun w =>
      set.valueFindings f [] (some w) := by
  obtain ⟨above, below, hfields⟩ := List.append_of_mem declared
  obtain ⟨habove, hbelow⟩ : f.name ∉ above.map (·.name) ∧ f.name ∉ below.map (·.name) := by
    have hnodup := hs.nodup node
    rw [hfields, List.map_append, List.map_cons] at hnodup
    have hothers := (List.nodup_middle.mp hnodup).notMem
    rwa [List.mem_append, not_or] at hothers
  -- what the other keys hold, on either side
  let others (fields : List FieldSchema) : List Finding :=
    fields.flatMap fun g => set.valueFindings g [] (Keyed.find? g.name members)
  have hown : Finding.Apart [.field f.name] (o.ownFindings [] members) := by
    intro x hx hprefix
    obtain ⟨-, rfl⟩ := mem_objectFindings.mp hx
    exact absurd (List.prefix_nil.mp hprefix) (by simp)
  refine ⟨others above, others below ++ o.ownFindings [] members,
    apart_flatMap_valueFindings habove,
    Finding.apart_append.mpr ⟨apart_flatMap_valueFindings hbelow, hown⟩, fun w _ => ?_⟩
  simp only [Document.replace_field, Document.replace_nil]
  rw [findings_object node, objectFindings_modify, hfields, List.flatMap_append, List.flatMap_cons,
    flatMap_valueFindings_modify habove, flatMap_valueFindings_modify hbelow,
    Keyed.find?_modify_self, present, Option.map_some]
  simp only [others, List.append_assoc]

theorem elementFindings_append {a : ArraySchema} {k : Nat} {items' : List Document} :
    set.elementFindings a l k (items ++ items') =
      set.elementFindings a l k items ++ set.elementFindings a l (k + items.length) items' := by
  simp only [elementFindings_eq_flatMap, List.zipIdx_append, List.flatMap_append]

/-- What is found in elements of other indices is apart from an element. -/
theorem apart_elementFindings {a : ArraySchema} {i k : Nat} (h : i < k ∨ k + items.length ≤ i) :
    Finding.Apart [.index i] (set.elementFindings a [] k items) := by
  rw [elementFindings_eq_flatMap]
  intro x hx hprefix
  obtain ⟨⟨c, j⟩, hj, hx⟩ := List.mem_flatMap.mp hx
  obtain rfl : i = j := by
    simpa using eq_of_isPrefix hprefix (isPrefix_of_mem_itemFindings hx)
  obtain ⟨hle, hlt⟩ := List.mem_zipIdx hj
  omega

/-- **An element of an array is isolated**, since the array itself only counts. -/
theorem isolates_element {a : ArraySchema} {i : Nat} (node : set.node? id = some (.array a))
    (present : items[i]? = some v) :
    set.Isolates id (.array items) [.index i] (fun _ => True) fun w =>
      set.itemFindings a [] i w := by
  obtain ⟨hi, -⟩ := List.getElem?_eq_some_iff.mp present
  have hlength : (items.take i).length = i := List.length_take_of_le (Nat.le_of_lt hi)
  have hown : Finding.Apart [.index i] (a.ownFindings [] items) := by
    intro x hx hprefix
    obtain ⟨-, -, -, rfl⟩ := mem_arrayFindings.mp hx
    exact absurd (List.prefix_nil.mp hprefix) (by simp)
  refine ⟨a.ownFindings [] items ++ set.elementFindings a [] 0 (items.take i),
    set.elementFindings a [] (i + 1) (items.drop (i + 1)),
    Finding.apart_append.mpr ⟨hown, apart_elementFindings (Or.inr (by omega))⟩,
    apart_elementFindings (Or.inl (Nat.lt_succ_self i)), fun w _ => ?_⟩
  have hcount : a.ownFindings [] (items.modify i fun _ => w) = a.ownFindings [] items := by
    unfold ArraySchema.ownFindings
    rw [List.length_modify]
  simp only [Document.replace_index, Document.replace_nil]
  rw [findings_array node, hcount, List.modify_eq_take_cons_drop hi, elementFindings_append,
    hlength, Nat.zero_add, elementFindings_cons]
  simp only [List.append_assoc]

/-! ### Places that are visited or covered -/

/-- What stands at a place that is visited. -/
theorem Visits.at?_eq (h : set.Visits id d id' l d') : d.at? l = some d' := by
  induction h with
  | here => exact Document.at?_nil
  | field node declared present ne below ih => rw [Document.at?_field_of_find? present, ih]
  | element node present ne below ih => rw [Document.at?_index_of_getElem? present, ih]

/-- What stands at a place that is covered. -/
theorem Covers.at?_eq (h : set.Covers id d l v) : d.at? l = some v := by
  cases h with
  | field visits node declared present =>
    rw [Document.at?_append visits.at?_eq, Document.at?_field_of_find? present, Document.at?_nil]
  | element visits node present =>
    rw [Document.at?_append visits.at?_eq, Document.at?_index_of_getElem? present, Document.at?_nil]

/-- A document does not become null by what is put into it. -/
theorem Visits.replace_ne_null (h : set.Visits id d id' l d') (hw : w ≠ .null) :
    d.replace l w ≠ .null := by
  cases h with
  | here => rwa [Document.replace_nil]
  | field => simp [Document.replace_field]
  | element => simp [Document.replace_index]

/-- **A place that is visited is isolated**, as long as it does not become null. -/
theorem Visits.isolates (hs : set.Sound r m) (h : set.Visits id d id' l d') :
    set.Isolates id d l (· ≠ .null) fun w => (set.findings id' [] w).map (·.under l) := by
  induction h with
  | here =>
    refine ⟨[], [], List.forall_mem_nil _, List.forall_mem_nil _, fun w _ => ?_⟩
    rw [Document.replace_nil, List.nil_append, List.append_nil]
    exact findings_eq_map
  | @field id id' l d' v members o f node declared present ne below ih =>
    -- unless it is null, a value is judged by its own node
    have hfield : set.Isolates id (.object members) [.field f.name] (· ≠ .null) fun w =>
        (set.findings f.schema [] w).map (·.under [.field f.name]) :=
      (isolates_field hs node declared present).congr fun w hw =>
        ⟨trivial, (valueFindings_of_ne hw).trans findings_eq_map⟩
    have hat := (Document.at?_field_of_find? (l := []) present).trans Document.at?_nil
    exact (hfield.trans hat ih fun w => below.replace_ne_null).congr fun w hw =>
      ⟨hw, Finding.map_under_under⟩
  | @element id id' l d' v items i a node present ne below ih =>
    have helement : set.Isolates id (.array items) [.index i] (· ≠ .null) fun w =>
        (set.findings a.element [] w).map (·.under [.index i]) := by
      refine (isolates_element node present).congr fun w hw => ⟨trivial, ?_⟩
      rw [itemFindings, Document.isNull_eq_false w hw, Bool.false_and, if_neg (by simp)]
      exact findings_eq_map
    have hat := (Document.at?_index_of_getElem? (l := []) present).trans Document.at?_nil
    exact (helement.trans hat ih fun w => below.replace_ne_null).congr fun w hw =>
      ⟨hw, Finding.map_under_under⟩

/-- **A place that is covered is isolated**, whatever it becomes, and what is found inside is at the
place or below. -/
theorem Covers.isolates (hs : set.Sound r m) (h : set.Covers id d l v) :
    ∃ inside : Document → List Finding, set.Isolates id d l (fun _ => True) inside ∧
      ∀ w, ∀ x ∈ inside w, l <+: x.location := by
  cases h with
  | @field id' l _ members o f visits node declared present =>
    refine ⟨_, (visits.isolates hs).trans visits.at?_eq (isolates_field hs node declared present)
      fun w _ => by simp [Document.replace_field], fun w x hx => ?_⟩
    obtain ⟨y, hy, rfl⟩ := List.mem_map.mp hx
    exact (List.prefix_append_right_inj l).mpr (isPrefix_of_mem_valueFindings hy)
  | @element id' l _ items i a visits node present =>
    refine ⟨_, (visits.isolates hs).trans visits.at?_eq (isolates_element node present)
      fun w _ => by simp [Document.replace_index], fun w x hx => ?_⟩
    obtain ⟨y, hy, rfl⟩ := List.mem_map.mp hx
    exact (List.prefix_append_right_inj l).mpr (isPrefix_of_mem_itemFindings hy)

end SchemaSet

/-! ### The tables of a generator -/

namespace Generator

/-- **What is found stays where it is.** If the value at a place that is covered is replaced, by
anything, then what a check reports is the same up to what is found at the place or below, and so is
its order. What is returned shows these findings one by one. -/
theorem findings_are_local (r : Registry) (m : Mode) (calls : List Call) (id : NodeId)
    (d : Document) :
    let s : Schema := ⟨((new r m).run calls).2.finish, id⟩
    ∀ l v, s.set.Covers s.root d l v → ∀ w,
      d.at? l = some v ∧ (d.replace l w).at? l = some w ∧
      ∃ before inside inside' after : List Finding,
        s.findings d = before ++ inside ++ after ∧
        s.findings (d.replace l w) = before ++ inside' ++ after ∧
        s.validate d = (before ++ inside ++ after).map (·.toViolation) ∧
        s.validate (d.replace l w) = (before ++ inside' ++ after).map (·.toViolation) ∧
        List.Forall₂ Finding.ShownBy (before ++ inside ++ after) (s.validate d) ∧
        List.Forall₂ Finding.ShownBy (before ++ inside' ++ after) (s.validate (d.replace l w)) ∧
        (∀ x ∈ inside ++ inside', l <+: x.location) ∧
        ∀ x ∈ before ++ after, ¬l <+: x.location := by
  intro s l v hcovers w
  have hs : s.set.Sound r m := sound_finish_run r m calls
  have hat : d.at? l = some v := hcovers.at?_eq
  obtain ⟨inside, ⟨before, after, hbefore, hafter, heq⟩, hbelow⟩ := hcovers.isolates hs
  have hold : s.findings d = before ++ inside v ++ after := by
    rw [← heq v trivial, Document.replace_self hat]
    rfl
  have hnew : s.findings (d.replace l w) = before ++ inside w ++ after := heq w trivial
  refine ⟨hat, Document.at?_replace hat, before, inside v, inside w, after, hold, hnew,
    congrArg (List.map _) hold, congrArg (List.map _) hnew, hold ▸ Schema.forall₂_shownBy,
    hnew ▸ Schema.forall₂_shownBy, fun x hx => ?_, Finding.apart_append.mpr ⟨hbefore, hafter⟩⟩
  rcases List.mem_append.mp hx with hx | hx
  · exact hbelow v x hx
  · exact hbelow w x hx

/-- The table of an order. -/
def orderTable : SchemaSet :=
  ⟨[.object ⟨"Order", [⟨"lines", 4, false, true⟩]⟩,
      .object ⟨"Line", [⟨"count", 2, false, true⟩, ⟨"part", 3, false, true⟩]⟩,
      .scalar ⟨.integer, none⟩, .array ⟨1, none, true⟩, .array ⟨1, some 1, true⟩],
    [("Line", 1), ("Order", 0)]⟩

theorem finish_orders :
    ((new orders .explicitOnly).run [.generate "Order"]).2.finish = orderTable := by
  simp only [run, call, generate, generateExpr, Generating.exprNode_eq_exprNodeWithin_size]
  rfl

/-- An order with three lines, something wrong in each. -/
def threeLines : Document :=
  .object [("lines", .array [.object [("count", .bool true)], .object [("count", .string "two")],
    .object [("part", .object []), ("count", .null)]])]

/-- Its lines are visited as an array. -/
theorem visits_lines : orderTable.Visits 0 threeLines 4 [.field "lines"]
    (.array [.object [("count", .bool true)], .object [("count", .string "two")],
      .object [("part", .object []), ("count", .null)]]) :=
  .field (o := ⟨"Order", _⟩) (f := ⟨"lines", 4, false, true⟩) rfl List.mem_cons_self rfl (by simp)
    .here

/-- What is wrong in the second line goes if the line becomes null, and the rest stays. -/
theorem findings_are_local_orders :
    let s : Schema := ⟨((new orders .explicitOnly).run [.generate "Order"]).2.finish, 0⟩
    let l : Location := [.field "lines", .index 1]
    s.set.Covers s.root threeLines l (.object [("count", .string "two")]) ∧
      ∃ before inside inside' after : List Finding,
        s.findings threeLines = before ++ inside ++ after ∧
        s.findings (threeLines.replace l .null) = before ++ inside' ++ after ∧
        (∀ x ∈ inside ++ inside', l <+: x.location) ∧ ∀ x ∈ before ++ after, ¬l <+: x.location := by
  intro s l
  have hcovers : s.set.Covers s.root threeLines l (.object [("count", .string "two")]) := by
    rw [show s.set = orderTable from finish_orders]
    exact .element (a := ⟨1, some 1, true⟩) (i := 1) visits_lines rfl rfl
  obtain ⟨-, -, before, inside, inside', after, hold, hnew, -, -, -, -, hinside, hapart⟩ :=
    findings_are_local orders .explicitOnly [.generate "Order"] 0 threeLines l _ hcovers .null
  exact ⟨hcovers, before, inside, inside', after, hold, hnew, hinside, hapart⟩

end Generator

end Conformance

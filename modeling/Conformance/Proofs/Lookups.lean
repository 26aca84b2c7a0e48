import Conformance.Proofs.Checking.Walk
import Conformance.Proofs.JsonSchema.Definitions
import Conformance.Proofs.JsonSchema.Rendering

/-!
# Places that are looked up

A place outside the table asks for nothing, and so a walk and a rendering always end in something.
Here both are told once more in a stricter way: as soon as a place outside the table is looked up
there is no answer at all. For a table that is sound it makes no difference
(`Conformance.Schema.StaysInside`): what a node refers to is in the table, and so by induction is
every place that is looked up.

| as it is | strict | the induction is on |
|---|---|---|
| `Conformance.SchemaSet.findings` | `Conformance.SchemaSet.findings?` | the document |
| `Conformance.SchemaSet.nodeMembers` | `Conformance.SchemaSet.rendered?`, first part | the place |
| `Conformance.SchemaSet.referred?` | `Conformance.SchemaSet.rendered?`, second part | the place |
| `Conformance.SchemaSet.definitions` | `Conformance.SchemaSet.definitions?` | the walk |

* `Conformance.SchemaSet.Sound.staysInside` – a schema of a sound table looks up nothing else.
-/

namespace Conformance

/-- If every element of a list has an answer, so has the list. -/
theorem mapM_eq_some_of_forall {α β : Type} {f : α → Option β} {g : α → β} {l : List α}
    (h : ∀ x ∈ l, f x = some (g x)) : l.mapM f = some (l.map g) := by
  induction l with
  | nil => rfl
  | cons x rest ih =>
    obtain ⟨hx, hrest⟩ := List.forall_mem_cons.mp h
    rw [List.mapM_cons, hx, ih hrest]
    rfl

namespace SchemaSet

open JsonSchema

/-! ### The strict walk and the strict rendering -/

mutual

/-- What is found in a document at a place, if every place that is looked up is in the table. -/
def findings? (set : SchemaSet) (id : NodeId) (l : Location) (d : Document) :
    Option (List Finding) :=
  match set.node? id with
  | none => none
  | some (.scalar s) => some (s.findings l d)
  | some (.object o) =>
    match d with
    | .object members => do
      let inner ← o.fields.mapM fun f =>
        match _h : Keyed.find? f.name members with
        | none => some []
        | some .null => some (if f.nullable then [] else [⟨l ++ [.field f.name], .wrongKind .null⟩])
        | some value => findings? set f.schema (l ++ [.field f.name]) value
      return inner.flatten ++ o.ownFindings l members
    | d => some [⟨l, .wrongKind d⟩]
  | some (.array a) =>
    match d with
    | .array items => do
      let inner ← elementFindings? set a l 0 items
      return a.ownFindings l items ++ inner
    | d => some [⟨l, .wrongKind d⟩]
termination_by sizeOf d
decreasing_by
  · have := Keyed.sizeOf_find?_lt _h
    simp only [Document.object.sizeOf_spec]
    omega
  · simp only [Document.array.sizeOf_spec]
    omega

/-- What is found in the elements of an array, counted from `i`, if every place that is looked up is
in the table. -/
def elementFindings? (set : SchemaSet) (a : ArraySchema) (l : Location) (i : Nat)
    (items : List Document) : Option (List Finding) :=
  match items with
  | [] => some []
  | item :: rest => do
    let first ← if item.isNull && a.nullableElements then some []
      else findings? set a.element (l ++ [.index i]) item
    let others ← elementFindings? set a l (i + 1) rest
    return first ++ others
termination_by sizeOf items

end

/-- The members of the schema of a node and the object node that it refers to, if every place that
is looked up is in the table, and before the one that refers to it if this is an array. -/
def rendered? (set : SchemaSet) (id : NodeId) :
    Option (List (String × Document) × Option ObjectSchema) :=
  match set.node? id with
  | none => none
  | some (.scalar s) => some (ofScalar s, none)
  | some (.object o) => some (reference o.name, some o)
  | some (.array a) =>
    if _h : a.element < id then do
      let (items, object) ← rendered? set a.element
      return (ofType "array" ++ [("items", orNull (.ofMembers items) a.nullableElements)]
        ++ (a.minLength.map fun n => ("minItems", Document.ofCount n)).toList, object)
    else none
termination_by id

/-- The schema of an object type and the object nodes that its fields refer to, if every place that
is looked up is in the table. -/
def objectBody? (set : SchemaSet) (o : ObjectSchema) : Option (Document × List ObjectSchema) := do
  let fields ← o.fields.mapM fun f => (set.rendered? f.schema).map fun field =>
    ((f.name, orNull (.ofMembers field.1) f.nullable), field.2)
  return (.ofMembers [("type", .string "object"), ("properties", .ofMembers (fields.map (·.1))),
    ("required", .array (o.requiredFields.map .string))], fields.filterMap (·.2))

/-- The schemas of the object types that are reached, if every place that is looked up is in the
table. -/
def definitions? (set : SchemaSet) (left : List String) (pending : List ObjectSchema) :
    Option (List (String × Document)) :=
  match pending with
  | [] => some []
  | o :: rest =>
    if _h : o.name ∈ left then do
      let (body, reached) ← set.objectBody? o
      let others ← definitions? set (left.erase o.name) (reached ++ rest)
      return (o.name, body) :: others
    else definitions? set left rest
termination_by (left.length, pending.length)
decreasing_by
  · refine Prod.Lex.left _ _ ?_
    have := List.length_pos_of_mem _h
    rw [List.length_erase_of_mem _h]
    omega
  · exact Prod.Lex.right _ (by simp)

end SchemaSet

namespace Schema

/-- What is found in a document, if every place that is looked up is in the table. -/
def findings? (s : Schema) (d : Document) : Option (List Finding) := s.set.findings? s.root [] d

/-- The JSON Schema of a schema, if every place that is looked up is in the table. -/
def toJsonSchema? (s : Schema) : Option Document := do
  let (members, object) ← s.set.rendered? s.root
  let definitions ← s.set.definitions? s.set.objectNames object.toList
  let members := members ++ [("$schema", .string JsonSchema.dialect)]
  return .ofMembers (if definitions.isEmpty then members
    else members ++ [("$defs", .ofMembers definitions)])

/-- **A schema stays inside its table**: neither a walk along any document nor the rendering looks
up a place outside. -/
structure StaysInside (s : Schema) : Prop where
  /-- A walk does not. -/
  findings : ∀ d, s.findings? d = some (s.findings d)
  /-- The rendering does not. -/
  toJsonSchema : s.toJsonSchema? = some s.toJsonSchema

end Schema

namespace SchemaSet

open JsonSchema

variable {set : SchemaSet} {r : Registry} {m : Mode} {id : NodeId} {l : Location}

/-! ### The walk -/

/-- The elements of an array are in the table. -/
theorem Sound.exists_element (hs : set.Sound r m) {a : ArraySchema}
    (ha : set.node? id = some (.array a)) : ∃ n, set.node? a.element = some n := by
  have hlt : a.element < id := (hs.fits id _ ha).element
  have hid : id < set.nodes.length := (List.getElem?_eq_some_iff.mp ha).1
  exact ⟨_, List.getElem?_eq_getElem (Nat.lt_trans hlt hid)⟩

/-- The elements of an array have findings if each has. -/
theorem elementFindings?_eq {a : ArraySchema} {i : Nat} {items : List Document}
    (h : ∀ d ∈ items, ∀ l, set.findings? a.element l d = some (set.findings a.element l d)) :
    set.elementFindings? a l i items = some (set.elementFindings a l i items) := by
  induction items generalizing i with
  | nil =>
    rw [elementFindings?.eq_def, elementFindings.eq_def]
  | cons d rest ih =>
    obtain ⟨hd, hrest⟩ := List.forall_mem_cons.mp h
    rw [elementFindings?.eq_def, elementFindings_cons]
    simp only [ih hrest, hd]
    unfold itemFindings
    split
    · rfl
    · rfl

/-- **A walk looks up only places of the table** if it starts at one. -/
theorem Sound.findings?_eq (hs : set.Sound r m) {n : Node} (hn : set.node? id = some n)
    (d : Document) : set.findings? id l d = some (set.findings id l d) := by
  induction d using Document.induction_children generalizing id l n with
  | step d ih =>
  rw [findings?.eq_def, hn]
  cases n with
  | scalar s => rw [findings_scalar hn]
  | object o =>
    rcases d.eq_object_or with ⟨members, rfl⟩ | hne
    · have hfield : ∀ f ∈ o.fields, (match _h : Keyed.find? f.name members with
          | none => some []
          | some .null =>
            some (if f.nullable then [] else [⟨l ++ [.field f.name], .wrongKind .null⟩])
          | some value => set.findings? f.schema (l ++ [.field f.name]) value) =
            some (set.valueFindings f l (Keyed.find? f.name members)) := by
        intro f hf
        obtain ⟨n, hn'⟩ := hs.exists_node hn hf
        split
        · rename_i hv
          rw [hv, valueFindings_none]
        · rename_i hv
          rw [hv, valueFindings_null]
        · rename_i value hnull hv
          rw [hv, valueFindings_of_ne hnull, ih value (.value hv) hn']
      rw [findings_object hn]
      simp only [mapM_eq_some_of_forall hfield, List.flatMap]
      rfl
    · rw [findings_object_of_ne hn hne]
      cases d with
      | object members => exact absurd rfl (hne members)
      | _ => rfl
  | array a =>
    rcases d.eq_array_or with ⟨items, rfl⟩ | hne
    · obtain ⟨n, hn'⟩ := hs.exists_element hn
      rw [findings_array hn]
      simp only [elementFindings?_eq fun d hd l => ih d (.item hd) hn']
      rfl
    · rw [findings_array_of_ne hn hne]
      cases d with
      | array items => exact absurd rfl (hne items)
      | _ => rfl

/-! ### The rendering -/

/-- **The schema of a node looks up only places of the table** if the node is in it. -/
theorem Sound.rendered?_eq (hs : set.Sound r m) {n : Node} (hn : set.node? id = some n) :
    set.rendered? id = some (set.nodeMembers id, set.referred? id) := by
  -- the elements of an array come before it
  induction id using Nat.strongRecOn generalizing n with
  | ind id ih =>
  rw [rendered?.eq_def, hn]
  cases n with
  | scalar s => rw [nodeMembers_scalar hn, referred?_scalar hn]
  | object o => rw [nodeMembers_object hn, referred?_object hn]
  | array a =>
    have hlt : a.element < id := (hs.fits id _ hn).element
    obtain ⟨n, hn'⟩ := hs.exists_element hn
    rw [nodeMembers_array hn hlt, referred?_array hn hlt]
    simp only [dif_pos hlt, ih a.element hlt hn']
    rfl

theorem Sound.objectBody?_eq (hs : set.Sound r m) {o : ObjectSchema} (ho : set.Has o) :
    set.objectBody? o = some (set.objectBody o, set.reached o) := by
  obtain ⟨id, hid⟩ := ho
  have hfield : ∀ f ∈ o.fields, ((set.rendered? f.schema).map fun field =>
      ((f.name, orNull (.ofMembers field.1) f.nullable), field.2)) =
        some ((f.name, orNull (set.nodeSchema f.schema) f.nullable), set.referred? f.schema) := by
    intro f hf
    obtain ⟨n, hn⟩ := hs.exists_node hid hf
    rw [hs.rendered?_eq hn]
    rfl
  unfold objectBody? objectBody reached
  rw [mapM_eq_some_of_forall hfield]
  simp only [Option.bind_eq_bind, Option.bind_some, List.map_map, List.filterMap_map]
  rfl

/-- **The definitions look up only places of the table** if what is pending is in it. -/
theorem Sound.definitions?_eq (hs : set.Sound r m) {left : List String}
    {pending : List ObjectSchema} (hhas : ∀ o ∈ pending, set.Has o) :
    set.definitions? left pending = some (set.definitions left pending) := by
  induction left, pending using walk_induction set with
  | done left =>
    rw [definitions_nil, definitions?]
  | take left first rest hfirst ih =>
    have hhas' : ∀ o ∈ set.reached first ++ rest, set.Has o := by
      intro o ho
      rcases List.mem_append.mp ho with ho | ho
      · exact has_of_mem_reached ho
      · exact hhas o (List.mem_cons_of_mem _ ho)
    rw [definitions_cons_of_mem hfirst, definitions?, dif_pos hfirst,
      hs.objectBody?_eq (hhas first List.mem_cons_self)]
    simp only [Option.bind_eq_bind, Option.bind_some, ih hhas']
    rfl
  | pass left first rest hfirst ih =>
    rw [definitions_cons_of_not_mem hfirst, definitions?, dif_neg hfirst]
    exact ih fun o ho => hhas o (List.mem_cons_of_mem _ ho)

/-- **A schema of a sound table stays inside it** if its root is in the table. -/
theorem Sound.staysInside (hs : set.Sound r m) {n : Node} (hn : set.node? id = some n) :
    Schema.StaysInside ⟨set, id⟩ := by
  refine ⟨hs.findings?_eq hn, ?_⟩
  unfold Schema.toJsonSchema?
  rw [hs.rendered?_eq hn]
  simp only [Option.bind_eq_bind, Option.bind_some, hs.definitions?_eq fun _ => has_of_mem_toList]
  rfl

end SchemaSet

end Conformance

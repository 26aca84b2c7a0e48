import Mathlib.Data.List.Forall2
import Conformance.Proofs.Generation.Derivations

/-!
# The nodes stand for the descriptions

What the nodes of an arena have to do with the descriptions they were made from. The node at a place
stands for a type expression (`Conformance.StandsFor`) if it has its shape: a scalar of its kind, an
array whose elements have a node that stands for theirs, or the object of its name. The fields of an
object are read off its description one by one (`Conformance.FieldsStandFor`). An arena is *sound*
(`Conformance.Arena.Sound`) if every type expression that was met has a node that stands for it, and
every object is the only one of its name and has the fields of its type.

While a type is being generated this is broken on purpose: its object has a place, and is referred
to, before it has its fields. So soundness is relative to the places that are **reserved** so far;
`Conformance.StandsFor` asks an object for its name only, and so it does not notice when the fields
are filled in.

* `Conformance.Generating.Makes.sound` – generation keeps an arena sound, with the same places
  reserved at its end as at its start.
-/

namespace Conformance

/-! ### What a node stands for -/

/-- **The node at a place stands for a type expression**, with a least number of elements if it is
an array and a pattern if it is a scalar. Of an object only the name is asked. -/
def StandsFor (m : Mode) (nodes : List Node) :
    TypeExpr → Option Nat → Option String → NodeId → Prop
  | .scalar kind, _, pattern, id =>
    ∃ p : Option Pattern, p.map (·.source) = pattern ∧ nodes[id]? = some (.scalar ⟨kind, p⟩)
  | .array element, least, _, id =>
    ∃ elementId < id, nodes[id]? = some (.array ⟨elementId, least, m.nullableElements⟩) ∧
      StandsFor m nodes element none none elementId
  | .named name, _, _, id => ∃ fields, nodes[id]? = some (.object ⟨name, fields⟩)

/-- A field of an object stands for the field of a description. -/
structure FieldStandsFor (m : Mode) (nodes : List Node) (f : FieldDescription) (s : FieldSchema) :
    Prop where
  /-- It has its name. -/
  name : s.name = f.name
  /-- It is required where the mode says so. -/
  required : s.required = m.required f
  /-- It is nullable where the mode says so. -/
  nullable : s.nullable = m.nullable f
  /-- Its node stands for its type and its constraint. -/
  schema : StandsFor m nodes f.type f.effectiveMinLength f.pattern s.schema
  /-- The constraint applies to the type. -/
  constraint : ∃ c : Generating.Constraint, c.IsOf f

/-- The fields of an object stand for those of a type: one for one, in order, and no name occurs
twice. -/
structure FieldsStandFor (m : Mode) (nodes : List Node) (t : ObjectType)
    (fields : List FieldSchema) : Prop where
  /-- Each stands for the one at its place. -/
  each : List.Forall₂ (FieldStandsFor m nodes) t.fields fields
  /-- The names differ. -/
  distinct : (t.fields.map (·.name)).Nodup

/-- The names of the fields of an object differ. -/
theorem FieldsStandFor.nodup {m : Mode} {nodes : List Node} {t : ObjectType}
    {fields : List FieldSchema} (h : FieldsStandFor m nodes t fields) :
    (fields.map (·.name)).Nodup := by
  obtain ⟨heach, hdistinct⟩ := h
  have hnames : fields.map (·.name) = t.fields.map (·.name) := by
    generalize t.fields = descriptions at heach
    induction heach with
    | nil => rfl
    | cons hf _ ih => rw [List.map_cons, List.map_cons, hf.name, ih]
  rw [hnames]
  exact hdistinct

/-- A field of an object stands for one of the type. -/
theorem FieldsStandFor.exists_of_mem {m : Mode} {nodes : List Node} {t : ObjectType}
    {fields : List FieldSchema} (h : FieldsStandFor m nodes t fields) {s : FieldSchema}
    (hs : s ∈ fields) : ∃ f ∈ t.fields, FieldStandsFor m nodes f s := by
  obtain ⟨heach, -⟩ := h
  generalize t.fields = descriptions at heach
  induction heach with
  | nil => exact absurd hs List.not_mem_nil
  | cons hf _ ih =>
    rcases List.mem_cons.mp hs with rfl | hs
    · exact ⟨_, List.mem_cons_self, hf⟩
    · obtain ⟨f, hmem, hf⟩ := ih hs
      exact ⟨f, List.mem_cons_of_mem _ hmem, hf⟩

/-- **The nodes of one table are kept in another**, up to the fields of objects. -/
def Keeps (nodes nodes' : List Node) : Prop :=
  ∀ (id : NodeId) (n : Node), nodes[id]? = some n → nodes'[id]? = some n ∨
    ∃ name fields fields', n = .object ⟨name, fields⟩ ∧
      nodes'[id]? = some (.object ⟨name, fields'⟩)

section Keeping

variable {m : Mode} {nodes nodes' : List Node}

theorem keeps_of_isPrefix (h : nodes <+: nodes') : Keeps nodes nodes' := by
  intro id n hn
  obtain ⟨rest, rfl⟩ := h
  refine Or.inl ?_
  rw [List.getElem?_append_left (List.getElem?_eq_some_iff.mp hn).1]
  exact hn

/-- Filling in the fields of an object keeps the nodes. -/
theorem keeps_set {id : NodeId} {name : String} {fields fields' : List FieldSchema}
    (h : nodes[id]? = some (.object ⟨name, fields⟩)) :
    Keeps nodes (nodes.set id (.object ⟨name, fields'⟩)) := by
  intro j n hn
  by_cases hj : id = j
  · subst hj
    obtain rfl : n = .object ⟨name, fields⟩ := Option.some.inj (hn.symm.trans h)
    refine Or.inr ⟨name, fields, fields', rfl, ?_⟩
    rw [List.getElem?_set_self (List.getElem?_eq_some_iff.mp hn).1]
  · refine Or.inl ?_
    rw [List.getElem?_set_ne hj]
    exact hn

theorem StandsFor.mono (h : Keeps nodes nodes') {e : TypeExpr} {least : Option Nat}
    {pattern : Option String} {id : NodeId} (hs : StandsFor m nodes e least pattern id) :
    StandsFor m nodes' e least pattern id := by
  -- only an object may change, and of an object only the name is asked
  induction e generalizing least pattern id with
  | scalar kind =>
    obtain ⟨p, hp, hn⟩ := hs
    rcases h id _ hn with hn' | ⟨name, fields, fields', heq, -⟩
    · exact ⟨p, hp, hn'⟩
    · exact absurd heq (by simp)
  | array element ih =>
    obtain ⟨elementId, hlt, hn, helement⟩ := hs
    rcases h id _ hn with hn' | ⟨name, fields, fields', heq, -⟩
    · exact ⟨elementId, hlt, hn', ih helement⟩
    · exact absurd heq (by simp)
  | named name =>
    obtain ⟨fields, hn⟩ := hs
    rcases h id _ hn with hn' | ⟨name', fields', fields'', heq, hn'⟩
    · exact ⟨fields, hn'⟩
    · obtain ⟨rfl, -⟩ : name = name' ∧ fields = fields' := by simpa using heq
      exact ⟨fields'', hn'⟩

theorem FieldStandsFor.mono (h : Keeps nodes nodes') {f : FieldDescription} {s : FieldSchema}
    (hs : FieldStandsFor m nodes f s) : FieldStandsFor m nodes' f s :=
  ⟨hs.name, hs.required, hs.nullable, hs.schema.mono h, hs.constraint⟩

theorem FieldsStandFor.mono (h : Keeps nodes nodes') {t : ObjectType} {fields : List FieldSchema}
    (hs : FieldsStandFor m nodes t fields) : FieldsStandFor m nodes' t fields :=
  ⟨hs.each.imp fun _ _ hf => hf.mono h, hs.distinct⟩

/-- A node stands for something only where there is a node. -/
theorem StandsFor.lt {e : TypeExpr} {least : Option Nat} {pattern : Option String} {id : NodeId}
    (hs : StandsFor m nodes e least pattern id) : id < nodes.length := by
  cases e with
  | scalar kind =>
    obtain ⟨p, -, hn⟩ := hs
    exact (List.getElem?_eq_some_iff.mp hn).1
  | array element =>
    obtain ⟨elementId, -, hn, -⟩ := hs
    exact (List.getElem?_eq_some_iff.mp hn).1
  | named name =>
    obtain ⟨fields, hn⟩ := hs
    exact (List.getElem?_eq_some_iff.mp hn).1

/-- The elements of an array stand for a type expression, without constraints. -/
theorem StandsFor.element {e : TypeExpr} {least : Option Nat} {pattern : Option String}
    {id : NodeId} {a : ArraySchema} (hs : StandsFor m nodes e least pattern id)
    (node : nodes[id]? = some (.array a)) :
    ∃ element, StandsFor m nodes element none none a.element := by
  cases e with
  | scalar kind =>
    obtain ⟨p, -, hn⟩ := hs
    exact absurd (node.symm.trans hn) (by simp)
  | array element =>
    obtain ⟨elementId, -, hn, helement⟩ := hs
    obtain rfl := Node.array.inj (Option.some.inj (node.symm.trans hn))
    exact ⟨element, helement⟩
  | named name =>
    obtain ⟨fields, hn⟩ := hs
    exact absurd (node.symm.trans hn) (by simp)

end Keeping

/-! ### Sound arenas -/

/-- A field of one of the types of a registry. -/
def Registry.Describes (r : Registry) (f : FieldDescription) : Prop :=
  ∃ name t, r.find? name = some t ∧ f ∈ t.fields

/-- What an array node has to be at its place. -/
structure ArraySchema.Fits (r : Registry) (m : Mode) (id : NodeId) (a : ArraySchema) : Prop where
  /-- Its elements come before it. -/
  element : a.element < id
  /-- They are nullable where the mode says so. -/
  nullable : a.nullableElements = m.nullableElements
  /-- A least number of elements is that of a field. -/
  least : ∀ n, a.minLength = some n → ∃ f, r.Describes f ∧ f.effectiveMinLength = some n

/-- **What a node has to be at its place**, whatever the other nodes are: an array fits, and a
scalar with a pattern is a text or anything. -/
def Node.Fits (r : Registry) (m : Mode) (id : NodeId) : Node → Prop
  | .object _ => True
  | .array a => a.Fits r m id
  | .scalar s => ∀ p, s.pattern = some p → s.kind = .string ∨ s.kind = .any

namespace Arena

/-- **A sound arena**, made from the types of a registry, in which the objects at some places still
lack their fields. -/
structure Sound (r : Registry) (m : Mode) (reserved : List NodeId) (a : Arena) : Prop where
  /-- A type expression that was met has a node that stands for it. -/
  cached : ∀ e id, a.cached? e = some id → StandsFor m a.nodes e none none id
  /-- An object is the one known under its name, which is the name of a type, and stands for it
  unless it is reserved. -/
  object : ∀ (id : NodeId) (o : ObjectSchema), a.nodes[id]? = some (.object o) →
    a.cached? (.named o.name) = some id ∧ ∃ t, r.find? o.name = some t ∧
      (id ∈ reserved ∨ FieldsStandFor m a.nodes t o.fields)
  /-- Every node fits at its place. -/
  fits : ∀ (id : NodeId) (n : Node), a.nodes[id]? = some n → n.Fits r m id

variable {a b : Arena} {r : Registry} {m : Mode} {reserved : List NodeId} {e : TypeExpr}
variable {id : NodeId} {name : String} {t : ObjectType}

theorem sound_empty (r : Registry) (m : Mode) : Arena.empty.Sound r m [] where
  cached _ _ h := absurd h (by simp [cached?, Arena.empty])
  object _ _ h := absurd h (by simp [Arena.empty])
  fits _ _ h := absurd h (by simp [Arena.empty])

theorem keeps_push {n : Node} : Keeps a.nodes (a.push n).2.nodes :=
  keeps_of_isPrefix (List.prefix_append _ _)

/-- A node behind the others is the new one. -/
theorem getElem?_push {n n' : Node} (h : (a.push n).2.nodes[id]? = some n') :
    a.nodes[id]? = some n' ∨ id = a.nodes.length ∧ n' = n := by
  rw [nodes_push] at h
  rcases Nat.lt_or_ge id a.nodes.length with hlt | hge
  · exact Or.inl (by rwa [List.getElem?_append_left hlt] at h)
  · rw [List.getElem?_append_right hge, List.getElem?_singleton] at h
    by_cases h0 : id - a.nodes.length = 0
    · rw [if_pos h0] at h
      exact Or.inr ⟨Nat.le_antisymm (Nat.le_of_sub_eq_zero h0) hge, (Option.some.inj h).symm⟩
    · rw [if_neg h0] at h
      exact absurd h (by simp)

namespace Sound

/-- A scalar or an array may be added if it fits. -/
theorem push (h : a.Sound r m reserved) {n : Node} (hobject : ∀ o, n ≠ .object o)
    (hfits : n.Fits r m a.nodes.length) : (a.push n).2.Sound r m reserved := by
  refine ⟨fun e id he => (h.cached e id he).mono keeps_push, fun id o ho => ?_, fun id n' hn => ?_⟩
  · rcases getElem?_push ho with ho | ⟨-, rfl⟩
    · obtain ⟨hc, t, ht, hfields⟩ := h.object id o ho
      exact ⟨hc, t, ht, hfields.imp_right fun hf => hf.mono keeps_push⟩
    · exact absurd rfl (hobject o)
  · rcases getElem?_push hn with hn | ⟨rfl, rfl⟩
    · exact h.fits id n' hn
    · exact hfits

/-- A type expression other than a name may be remembered at a node that stands for it. -/
theorem remember (h : a.Sound r m reserved) (hname : ∀ name, e ≠ .named name)
    (hid : StandsFor m a.nodes e none none id) : (a.remember e id).Sound r m reserved := by
  refine ⟨fun e' id' he' => ?_, fun id' o ho => ?_, h.fits⟩
  · by_cases heq : e' = e
    · subst heq
      obtain rfl : id = id' := Option.some.inj (cached?_remember_self.symm.trans he')
      exact hid
    · rw [cached?_remember_of_ne heq] at he'
      exact h.cached e' id' he'
  · rw [cached?_remember_of_ne fun heq => hname _ heq.symm]
    exact h.object id' o ho

/-- The object of a type that was not met yet may be reserved. -/
theorem reserve (h : a.Sound r m reserved) (hname : a.cached? (.named name) = none)
    (ht : r.find? name = some t) :
    ((a.push (.object ⟨name, []⟩)).2.remember (.named name) a.nodes.length).Sound r m
      (a.nodes.length :: reserved) := by
  refine ⟨fun e id he => ?_, fun id o ho => ?_, fun id n hn => ?_⟩
  · by_cases heq : e = .named name
    · subst heq
      obtain rfl : a.nodes.length = id := Option.some.inj (cached?_remember_self.symm.trans he)
      exact ⟨[], by simp⟩
    · rw [cached?_remember_of_ne heq] at he
      exact (h.cached e id he).mono keeps_push
  · rcases getElem?_push ho with ho | ⟨rfl, heq⟩
    · -- an old object is known under its name, and so it is not the new one
      obtain ⟨hc, t', ht', hfields⟩ := h.object id o ho
      have hne : TypeExpr.named o.name ≠ .named name := fun heq => by
        rw [heq, hname] at hc
        exact absurd hc (by simp)
      rw [cached?_remember_of_ne hne]
      exact ⟨hc, t', ht', hfields.imp (List.mem_cons_of_mem _) fun hf => hf.mono keeps_push⟩
    · obtain rfl : o = ⟨name, []⟩ := by simpa using heq
      exact ⟨cached?_remember_self, t, ht, Or.inl (List.mem_cons_self ..)⟩
  · rcases getElem?_push hn with hn | ⟨-, rfl⟩
    · exact h.fits id n hn
    · trivial

/-- An object that is reserved may be filled with fields that stand for those of its type. -/
theorem fill (h : b.Sound r m (id :: reserved)) {old fields : List FieldSchema}
    (hold : b.nodes[id]? = some (.object ⟨name, old⟩)) (ht : r.find? name = some t)
    (hfields : FieldsStandFor m b.nodes t fields) :
    (b.fill id (.object ⟨name, fields⟩)).Sound r m reserved := by
  have hkeeps : Keeps b.nodes (b.fill id (.object ⟨name, fields⟩)).nodes := keeps_set hold
  refine ⟨fun e id' he => (h.cached e id' he).mono hkeeps, fun id' o ho => ?_, fun id' n hn => ?_⟩
  · rw [nodes_fill] at ho
    by_cases hid : id = id'
    · subst hid
      rw [List.getElem?_set_self (List.getElem?_eq_some_iff.mp hold).1] at ho
      obtain rfl : (⟨name, fields⟩ : ObjectSchema) = o := by simpa using ho
      exact ⟨(h.object id _ hold).1, t, ht, Or.inr (hfields.mono hkeeps)⟩
    · rw [List.getElem?_set_ne hid] at ho
      obtain ⟨hc, t', ht', hreserved | hf⟩ := h.object id' o ho
      · refine ⟨hc, t', ht', Or.inl ?_⟩
        exact (List.mem_cons.mp hreserved).resolve_left fun heq => hid heq.symm
      · exact ⟨hc, t', ht', Or.inr (hf.mono hkeeps)⟩
  · rw [nodes_fill] at hn
    by_cases hid : id = id'
    · subst hid
      rw [List.getElem?_set_self (List.getElem?_eq_some_iff.mp hold).1] at hn
      obtain rfl : (.object ⟨name, fields⟩ : Node) = n := by simpa using hn
      trivial
    · rw [List.getElem?_set_ne hid] at hn
      exact h.fits id' n hn

/-- Where nothing is reserved, an object has the fields of its type. -/
theorem fieldsStandFor (h : a.Sound r m []) {o : ObjectSchema}
    (ho : a.nodes[id]? = some (.object o)) (ht : r.find? o.name = some t) :
    FieldsStandFor m a.nodes t o.fields := by
  obtain ⟨-, t', ht', hreserved | hfields⟩ := h.object id o ho
  · exact absurd hreserved (by simp)
  · obtain rfl := Option.some.inj (ht.symm.trans ht')
    exact hfields

end Sound

end Arena

/-! ### The steps of generation -/

namespace Generating

open Arena

variable {r : Registry} {m : Mode} {reserved : List NodeId}

/-- Behind a node that stands for a type expression, an array of its own may be added. -/
theorem sound_push_array {b : Arena} {element : TypeExpr} {id : NodeId} (least : Option Nat)
    (hb : b.Sound r m reserved) (hid : StandsFor m b.nodes element none none id)
    (hleast : ∀ n, least = some n → ∃ f, r.Describes f ∧ f.effectiveMinLength = some n) :
    (b.push (.array ⟨id, least, m.nullableElements⟩)).2.Sound r m reserved ∧
      StandsFor m (b.push (.array ⟨id, least, m.nullableElements⟩)).2.nodes (.array element) least
        none b.nodes.length := by
  constructor
  · exact hb.push (fun o => by simp) ⟨hid.lt, rfl, hleast⟩
  · exact ⟨id, hid.lt, by simp, hid.mono keeps_push⟩

mutual

/-- **Generation keeps an arena sound**, with the same places reserved. -/
theorem Makes.sound {e : TypeExpr} {a b : Arena} {id : NodeId} {reserved : List NodeId} :
    Makes r m e a id b → a.Sound r m reserved → b.Sound r m reserved
  | .known _, hs => hs
  | @Makes.scalar _ _ kind a _, hs => by
    have hfits : (Node.scalar ⟨kind, none⟩).Fits r m a.nodes.length :=
      fun p hp => absurd hp (by simp)
    exact (hs.push (fun o => by simp) hfits).remember (fun name => by simp) ⟨none, rfl, by simp⟩
  | .array _ elements, hs => by
    have hsound := elements.sound hs
    obtain ⟨hpush, hstands⟩ := sound_push_array none hsound
      (hsound.cached _ _ elements.cached?_eq) fun n hn => absurd hn (by simp)
    exact hpush.remember (fun name => by simp) hstands
  | .named hcached ht each, hs => by
    obtain ⟨hsound, heach, hdistinct, -⟩ :=
      each.sound (hs.reserve hcached ht) fun f hf => ⟨_, _, ht, hf⟩
    exact hsound.fill each.getElem?_reserved ht ⟨heach, hdistinct⟩

/-- The node of a field stands for its description. -/
theorem MakesField.sound {owner : String} {f : FieldDescription} {a b : Arena} {id : NodeId}
    {reserved : List NodeId} :
    MakesField r m owner f a id b → a.Sound r m reserved → r.Describes f →
      b.Sound r m reserved ∧ FieldStandsFor m b.nodes f ⟨f.name, id, m.required f, m.nullable f⟩
  | .plain hc node, hs, hf => by
    obtain ⟨-, hleast, hpattern⟩ := (constraintOf_eq_ok hc)
    have hsound := node.sound hs
    refine ⟨hsound, rfl, rfl, rfl, ?_, _, (constraintOf_eq_ok hc).2⟩
    rw [hleast, hpattern]
    exact hsound.cached _ _ node.cached?_eq
  | @MakesField.least _ _ _ _ _ n _ _ _ hc node, hs, hf => by
    obtain ⟨-, htype, hleast, hpattern⟩ := constraintOf_eq_ok hc
    have hsound := node.sound hs
    obtain ⟨hpush, hstands⟩ := sound_push_array (some n) hsound
      (hsound.cached _ _ node.cached?_eq) fun n' hn' => ⟨f, hf, hleast.trans hn'⟩
    refine ⟨hpush, rfl, rfl, rfl, ?_, _, (constraintOf_eq_ok hc).2⟩
    rw [htype, hleast, hpattern]
    exact hstands
  | @MakesField.pattern _ _ _ _ _ p _ hc, hs, hf => by
    obtain ⟨-, htype, hleast, hpattern, hkind⟩ := constraintOf_eq_ok hc
    refine ⟨hs.push (fun o => by simp) fun _ _ => hkind, rfl, rfl, rfl, ?_, _,
      (constraintOf_eq_ok hc).2⟩
    rw [htype, hleast, hpattern]
    exact ⟨some p, rfl, by simp⟩

/-- The fields made stand for their descriptions, and none of their names was seen before. -/
theorem MakesFields.sound {owner : String} {seen : List String} {fields : List FieldDescription}
    {a b : Arena} {made : List FieldSchema} {reserved : List NodeId} :
    MakesFields r m owner seen fields a made b → a.Sound r m reserved →
      (∀ f ∈ fields, r.Describes f) → b.Sound r m reserved ∧
        List.Forall₂ (FieldStandsFor m b.nodes) fields made ∧
        (fields.map (·.name)).Nodup ∧ ∀ f ∈ fields, f.name ∉ seen
  | .nil, hs, _ => ⟨hs, .nil, List.nodup_nil, by simp⟩
  | .cons hnew node behind, hs, hfields => by
    obtain ⟨hsound, hstands⟩ := node.sound hs (hfields _ List.mem_cons_self)
    obtain ⟨hsound', heach, hdistinct, hunseen⟩ :=
      behind.sound hsound fun f' hf' => hfields f' (List.mem_cons_of_mem _ hf')
    refine ⟨hsound', .cons (hstands.mono (keeps_of_isPrefix behind.grows.nodes)) heach, ?_, ?_⟩
    · refine List.nodup_cons.mpr ⟨fun hmem => ?_, hdistinct⟩
      obtain ⟨f', hf', heq⟩ := List.mem_map.mp hmem
      exact hunseen f' hf' (heq ▸ List.mem_cons_self ..)
    · intro f' hf'
      rcases List.mem_cons.mp hf' with rfl | hf'
      · exact hnew
      · exact fun hmem => hunseen f' hf' (List.mem_cons_of_mem _ hmem)

end

end Generating

end Conformance

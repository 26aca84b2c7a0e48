import Mathlib.Logic.Relation
import Conformance.Proofs.Generation.Evaluation
import Conformance.Proofs.Generation.Runs

/-!
# How far nodes are shared

A type expression is looked up before the descent for its node and remembered after it. A descent
that meets the same expression on its way gives it a node as well, and the one made last takes its
place in the cache. So a type expression has one node only, unless it **leads back** to itself
(`Conformance.Registry.LeadsBack`): the array whose elements refer to an array of their own kind.
Types that lead back to themselves are no exception, since their nodes are reserved before the
descent.

| type expression | its nodes |
|---|---|
| does not lead back | one, which every place that refers to it holds |
| an array that leads back, met outside first | two at least, one of them known |

* `Conformance.Generating.Makes.reaches` – a descent meets only what its type expression leads to;
* `Conformance.Generating.Makes.shares` – nodes without constraints are those that are known, except
  where a type expression leads back;
* `Conformance.Generator.places_agree_unless_leadsBack` – what this means for runs of a generator.
-/

namespace Conformance

open Relation (ReflTransGen TransGen)

/-! ### What refers to what -/

/-- **The type expressions whose nodes a field refers to**: its own, or that of its elements if it
asks for a least number of them. -/
inductive FieldDescription.RefersTo (f : FieldDescription) : TypeExpr → Prop where
  /-- Its own, if it has no constraint. -/
  | type (h : Generating.Constraint.none.IsOf f) : f.RefersTo f.type
  /-- That of its elements, if it asks for a least number of them. -/
  | element {element : TypeExpr} {n : Nat}
    (h : (Generating.Constraint.minLength element n).IsOf f) : f.RefersTo element

/-- **One type expression refers to another**: an array to its elements, and a type to what its
fields refer to. -/
inductive Registry.Refers (r : Registry) : TypeExpr → TypeExpr → Prop where
  /-- An array refers to its elements. -/
  | element {e : TypeExpr} : r.Refers (.array e) e
  /-- A type refers to what its fields refer to. -/
  | field {name : String} {t : ObjectType} {f : FieldDescription} {e : TypeExpr}
    (type : r.find? name = some t) (declared : f ∈ t.fields) (h : f.RefersTo e) :
    r.Refers (.named name) e

/-- An array that leads back to itself. -/
def Registry.LeadsBack (r : Registry) (e : TypeExpr) : Prop :=
  e.isArray = true ∧ TransGen r.Refers e e

/-! ### What a place stands for -/

section Places

variable {m : Mode} {nodes rest : List Node} {e e' : TypeExpr} {least least' : Option Nat}
variable {pattern pattern' : Option String} {id : NodeId}

/-- A node stands for one type expression only. -/
theorem StandsFor.unique (h : StandsFor m nodes e least pattern id)
    (h' : StandsFor m nodes e' least' pattern' id) : e = e' := by
  -- the node tells the form of the type expression, and for an array the place of its elements
  induction e generalizing e' least pattern least' pattern' id with
  | scalar kind =>
    obtain ⟨p, -, hn⟩ := h
    cases e' <;> simp_all [StandsFor]
  | array element ih =>
    obtain ⟨elementId, -, hn, helement⟩ := h
    cases e' with
    | array element' =>
      obtain ⟨elementId', -, hn', helement'⟩ := h'
      obtain ⟨rfl, -⟩ : elementId = elementId' ∧ least = least' := by
        simpa using hn.symm.trans hn'
      rw [ih helement helement']
    | _ => simp_all [StandsFor]
  | named name =>
    obtain ⟨fields, hn⟩ := h
    cases e' <;> simp_all [StandsFor]

/-- An array stands for something with its own least number of elements. -/
theorem StandsFor.minLength_eq {x : ArraySchema} (hx : nodes[id]? = some (.array x))
    (h : StandsFor m nodes e least pattern id) : x.minLength = least := by
  cases e with
  | array element =>
    obtain ⟨_, -, hn, -⟩ := h
    obtain rfl : x = _ := by simpa using hx.symm.trans hn
    rfl
  | _ => simp_all [StandsFor]

/-- A scalar stands for something with its own pattern. -/
theorem StandsFor.pattern_eq {s : ScalarSchema} (hx : nodes[id]? = some (.scalar s))
    (h : StandsFor m nodes e least pattern id) : s.pattern.map (·.source) = pattern := by
  cases e with
  | scalar kind =>
    obtain ⟨p, hp, hn⟩ := h
    obtain rfl : s = _ := by simpa using hx.symm.trans hn
    exact hp
  | _ => simp_all [StandsFor]

/-- What an old place stands for it stood for before. -/
theorem StandsFor.of_append (h : StandsFor m (nodes ++ rest) e least pattern id)
    (hid : id < nodes.length) : StandsFor m nodes e least pattern id := by
  induction e generalizing least pattern id with
  | scalar kind =>
    obtain ⟨p, hp, hn⟩ := h
    exact ⟨p, hp, by rwa [List.getElem?_append_left hid] at hn⟩
  | array element ih =>
    obtain ⟨elementId, hlt, hn, helement⟩ := h
    rw [List.getElem?_append_left hid] at hn
    exact ⟨elementId, hlt, hn, ih helement (Nat.lt_trans hlt hid)⟩
  | named name =>
    obtain ⟨fields, hn⟩ := h
    exact ⟨fields, by rwa [List.getElem?_append_left hid] at hn⟩

/-- What a place stands for after the fields of an object were filled in it stood for before. -/
theorem StandsFor.of_set {place : NodeId} {name : String} {fields fields' : List FieldSchema}
    (hold : nodes[place]? = some (.object ⟨name, fields⟩))
    (h : StandsFor m (nodes.set place (.object ⟨name, fields'⟩)) e least pattern id) :
    StandsFor m nodes e least pattern id := by
  obtain ⟨hlt, hget⟩ := List.getElem?_eq_some_iff.mp hold
  have hback : Keeps (nodes.set place (.object ⟨name, fields'⟩))
      ((nodes.set place (.object ⟨name, fields'⟩)).set place (.object ⟨name, fields⟩)) :=
    keeps_set (List.getElem?_set_self hlt)
  rw [List.set_set, ← hget, List.set_getElem_self] at hback
  exact h.mono hback

end Places

namespace Arena

/-- **A place that refers to a type expression** holds a node for it: the place of a field without a
constraint of its own, and that of the elements of an array. -/
inductive RefersTo (r : Registry) (m : Mode) (a : Arena) : TypeExpr → NodeId → Prop where
  /-- A field without a constraint refers to its type. -/
  | field {id : NodeId} {o : ObjectSchema} {t : ObjectType} {f : FieldDescription} {s : FieldSchema}
    (object : a.nodes[id]? = some (.object o)) (type : r.find? o.name = some t)
    (place : (f, s) ∈ t.fields.zip o.fields) (h : Generating.Constraint.none.IsOf f) :
    RefersTo r m a f.type s.schema
  /-- An array refers to its elements. -/
  | element {id elementId : NodeId} {e : TypeExpr} {least : Option Nat}
    (array : a.nodes[id]? = some (.array ⟨elementId, least, m.nullableElements⟩))
    (h : StandsFor m a.nodes e none none elementId) : RefersTo r m a e elementId

variable {r : Registry} {m : Mode} {a b : Arena} {e e' : TypeExpr} {id : NodeId} {n : Node}
variable {name : String}

/-! ### Arenas without repetition -/

theorem getElem?_push_length : (a.push n).2.nodes[a.nodes.length]? = some n := by simp

/-- **An arena without repetition**: a node without constraints is the one that is known for its
type expression, unless this leads back to itself. -/
structure Shares (r : Registry) (m : Mode) (a : Arena) : Prop where
  /-- A type expression that has a node is known, with this node or leading back. -/
  known : ∀ e id, StandsFor m a.nodes e none none id →
    ∃ id', a.cached? e = some id' ∧ (id' = id ∨ r.LeadsBack e)
  /-- The elements of an array have a type expression. -/
  element : ∀ (id : NodeId) (x : ArraySchema), a.nodes[id]? = some (.array x) →
    x.nullableElements = m.nullableElements ∧ ∃ e, StandsFor m a.nodes e none none x.element

namespace Shares

theorem empty (r : Registry) (m : Mode) : Arena.empty.Shares r m where
  known _ _ h := absurd h.lt (by simp [Arena.empty])
  element _ _ h := absurd h (by simp [Arena.empty])

/-- The elements of an array have a type expression after a node was added, if those of the new node
have one. -/
theorem element_push (h : b.Shares r m)
    (hn : ∀ x, n = .array x → x.nullableElements = m.nullableElements ∧
      ∃ e, StandsFor m b.nodes e none none x.element) (id : NodeId) (x : ArraySchema)
    (hx : (b.push n).2.nodes[id]? = some (.array x)) :
    x.nullableElements = m.nullableElements ∧
      ∃ e, StandsFor m (b.push n).2.nodes e none none x.element := by
  have hold : x.nullableElements = m.nullableElements ∧
      ∃ e, StandsFor m b.nodes e none none x.element := by
    rcases getElem?_push hx with hx | ⟨-, rfl⟩
    · exact h.element id x hx
    · exact hn x rfl
  exact hold.imp_right fun ⟨e, he⟩ => ⟨e, he.mono keeps_push⟩

/-- A node with a constraint of its own may be added. -/
theorem push (h : b.Shares r m)
    (hown : ∀ e, ¬StandsFor m (b.push n).2.nodes e none none b.nodes.length)
    (hn : ∀ x, n = .array x → x.nullableElements = m.nullableElements ∧
      ∃ e, StandsFor m b.nodes e none none x.element) : (b.push n).2.Shares r m := by
  refine ⟨fun e id hs => ?_, h.element_push hn⟩
  have hlt : id < b.nodes.length := by
    refine Nat.lt_of_le_of_ne (Nat.le_of_lt_succ (by simpa using hs.lt)) ?_
    rintro rfl
    exact hown e hs
  exact h.known e id (hs.of_append hlt)

/-- A node without constraints may be added and remembered, if there was none for its type
expression or this leads back. -/
theorem push_remember (h : b.Shares r m)
    (hnew : StandsFor m (b.push n).2.nodes e none none b.nodes.length)
    (hback : ∀ id, b.cached? e = some id → r.LeadsBack e)
    (hn : ∀ x, n = .array x → x.nullableElements = m.nullableElements ∧
      ∃ e, StandsFor m b.nodes e none none x.element) :
    ((b.push n).2.remember e b.nodes.length).Shares r m := by
  refine ⟨fun e' id hs => ?_, h.element_push hn⟩
  rcases Nat.lt_or_ge id b.nodes.length with hlt | hge
  · obtain ⟨id', hc, hid'⟩ := h.known e' id (StandsFor.of_append hs hlt)
    by_cases heq : e' = e
    · subst heq
      exact ⟨_, cached?_remember_self, Or.inr (hback id' hc)⟩
    · exact ⟨id', by rwa [cached?_remember_of_ne heq], hid'⟩
  · obtain rfl : id = b.nodes.length :=
      Nat.le_antisymm (Nat.le_of_lt_succ (by simpa using hs.lt)) hge
    obtain rfl : e' = e := hs.unique hnew
    exact ⟨_, cached?_remember_self, Or.inl rfl⟩

/-- The fields of an object may be filled in. -/
theorem fill (h : b.Shares r m) {old fields : List FieldSchema}
    (hold : b.nodes[id]? = some (.object ⟨name, old⟩)) :
    (b.fill id (.object ⟨name, fields⟩)).Shares r m := by
  refine ⟨fun e id' hs => h.known e id' (hs.of_set hold), fun id' x hx => ?_⟩
  have hne : id ≠ id' := by
    rintro rfl
    rw [nodes_fill, List.getElem?_set_self (List.getElem?_eq_some_iff.mp hold).1] at hx
    exact absurd hx (by simp)
  rw [nodes_fill, List.getElem?_set_ne hne] at hx
  obtain ⟨hnullable, e, he⟩ := h.element id' x hx
  exact ⟨hnullable, e, he.mono (keeps_set hold)⟩

end Shares

end Arena

/-! ### The steps of generation -/

namespace Generating

open Arena

variable {r : Registry} {m : Mode}

mutual

/-- **A descent meets only what its type expression leads to.** -/
theorem Makes.reaches {e e' : TypeExpr} {a b : Arena} {id id' : NodeId} :
    Makes r m e a id b → a.cached? e' = none → b.cached? e' = some id' →
      ReflTransGen r.Refers e e'
  | .known _, hnone, hc => absurd (hnone.symm.trans hc) (by simp)
  | @Makes.scalar _ _ kind _ _, hnone, hc => by
    by_cases heq : e' = .scalar kind
    · rw [heq]
    · rw [cached?_remember_of_ne heq, cached?_push, hnone] at hc
      exact absurd hc (by simp)
  | @Makes.array _ _ element _ _ _ _ elements, hnone, hc => by
    by_cases heq : e' = .array element
    · rw [heq]
    · rw [cached?_remember_of_ne heq, cached?_push] at hc
      exact .head .element (elements.reaches hnone hc)
  | @Makes.named _ _ name _ _ _ _ _ ht each, hnone, hc => by
    by_cases heq : e' = .named name
    · rw [heq]
    · have hreserved : ∀ a : Arena, ∀ n id, a.cached? e' = none →
          ((a.push n).2.remember (.named name) id).cached? e' = none := fun a n id ha => by
        rw [cached?_remember_of_ne heq, cached?_push, ha]
      obtain ⟨f, hf, e, he, hreaches⟩ := each.reaches (hreserved _ _ _ hnone) hc
      exact .head (.field ht hf he) hreaches

theorem MakesField.reaches {owner : String} {f : FieldDescription} {e' : TypeExpr} {a b : Arena}
    {id id' : NodeId} :
    MakesField r m owner f a id b → a.cached? e' = none → b.cached? e' = some id' →
      ∃ e, f.RefersTo e ∧ ReflTransGen r.Refers e e'
  | .plain hc node, hnone, he => ⟨_, .type (constraintOf_eq_ok hc).2, node.reaches hnone he⟩
  | .least hc node, hnone, he => ⟨_, .element (constraintOf_eq_ok hc).2, node.reaches hnone he⟩
  | .pattern _, hnone, he => absurd (hnone.symm.trans he) (by simp)

theorem MakesFields.reaches {owner : String} {seen : List String} {fields : List FieldDescription}
    {e' : TypeExpr} {a b : Arena} {made : List FieldSchema} {id' : NodeId} :
    MakesFields r m owner seen fields a made b → a.cached? e' = none → b.cached? e' = some id' →
      ∃ f ∈ fields, ∃ e, f.RefersTo e ∧ ReflTransGen r.Refers e e'
  | .nil, hnone, he => absurd (hnone.symm.trans he) (by simp)
  | @MakesFields.cons _ _ _ _ _ _ _ b _ _ _ _ node behind, hnone, he => by
    cases hb : b.cached? e' with
    | some id => exact ⟨_, List.mem_cons_self, node.reaches hnone hb⟩
    | none =>
      obtain ⟨f, hf, hreaches⟩ := behind.reaches hb he
      exact ⟨f, List.mem_cons_of_mem _ hf, hreaches⟩

end

/-- What the descent for the elements of an array meets of the array itself leads back. -/
theorem leadsBack_of_makes {element : TypeExpr} {a b : Arena} {id id' : NodeId}
    (elements : Makes r m element a id b) (hnone : a.cached? (.array element) = none)
    (hc : b.cached? (.array element) = some id') : r.LeadsBack (.array element) :=
  ⟨rfl, .head' .element (elements.reaches hnone hc)⟩

mutual

/-- **Generation keeps an arena without repetition.** -/
theorem Makes.shares {e : TypeExpr} {a b : Arena} {id : NodeId} {reserved : List NodeId} :
    Makes r m e a id b → a.Sound r m reserved → a.Shares r m → b.Shares r m
  | .known _, _, h => h
  | .scalar hnone, _, h =>
    h.push_remember ⟨none, rfl, by simp⟩ (fun _ hc => absurd (hnone.symm.trans hc) (by simp))
      fun _ hx => absurd hx (by simp)
  | .array hnone elements, hs, h => by
    have hsound := elements.sound hs
    have hid := hsound.cached _ _ elements.cached?_eq
    have hnew := (sound_push_array none hsound hid fun n hn => absurd hn (by simp)).2
    refine (elements.shares hs h).push_remember hnew
      (fun _ hc => leadsBack_of_makes elements hnone hc) fun x hx => ?_
    cases hx
    exact ⟨rfl, _, hid⟩
  | @Makes.named _ _ name _ _ _ _ hnone ht each, hs, h => by
    have hplace : StandsFor m (a.push (.object ⟨name, []⟩)).2.nodes (.named name) none none
        a.nodes.length := ⟨[], by simp⟩
    have hreserved := h.push_remember hplace
      (fun _ hc => absurd (hnone.symm.trans hc) (by simp)) fun _ hx => absurd hx (by simp)
    have hfields := each.shares (hs.reserve hnone ht) hreserved fun f hf => ⟨_, _, ht, hf⟩
    exact hfields.fill each.getElem?_reserved

theorem MakesField.shares {owner : String} {f : FieldDescription} {a b : Arena} {id : NodeId}
    {reserved : List NodeId} :
    MakesField r m owner f a id b → a.Sound r m reserved → a.Shares r m → b.Shares r m
  | .plain _ node, hs, h => node.shares hs h
  | .least _ node, hs, h => by
    have hid := (node.sound hs).cached _ _ node.cached?_eq
    refine (node.shares hs h).push (fun e he => ?_) fun x hx => ?_
    · exact absurd (he.minLength_eq getElem?_push_length) (by simp)
    · cases hx
      exact ⟨rfl, _, hid⟩
  | .pattern _, _, h =>
    h.push (fun _ he => absurd (he.pattern_eq getElem?_push_length) (by simp))
      fun _ hx => absurd hx (by simp)

theorem MakesFields.shares {owner : String} {seen : List String} {fields : List FieldDescription}
    {a b : Arena} {made : List FieldSchema} {reserved : List NodeId} :
    MakesFields r m owner seen fields a made b → a.Sound r m reserved → a.Shares r m →
      (∀ f ∈ fields, r.Describes f) → b.Shares r m
  | .nil, _, h, _ => h
  | .cons _ node behind, hs, h, hfields =>
    behind.shares (node.sound hs (hfields _ List.mem_cons_self)).1 (node.shares hs h)
      fun f hf => hfields f (List.mem_cons_of_mem _ hf)

end

end Generating

namespace Arena

variable {r : Registry} {m : Mode} {a b : Arena} {e e' : TypeExpr} {id : NodeId}

/-! ### Places that refer to a type expression -/

/-- A place that refers to a type expression still does so when the arena has grown. -/
theorem RefersTo.mono (h : a.RefersTo r m e id) (hab : a.nodes <+: b.nodes) :
    b.RefersTo r m e id := by
  have hkept : ∀ {id : NodeId} {n : Node}, a.nodes[id]? = some n → b.nodes[id]? = some n := by
    intro id n hn
    obtain ⟨rest, hrest⟩ := hab
    rw [← hrest, List.getElem?_append_left (List.getElem?_eq_some_iff.mp hn).1]
    exact hn
  cases h with
  | field object type place h => exact .field (hkept object) type place h
  | element array h => exact .element (hkept array) (h.mono (keeps_of_isPrefix hab))

/-- The node at a place that refers to a type expression stands for it. -/
theorem RefersTo.standsFor (h : a.RefersTo r m e id) (hs : a.Sound r m []) :
    StandsFor m a.nodes e none none id := by
  cases h with
  | field object type place h =>
    have hfields := hs.fieldsStandFor object type
    have hfield := (List.forall₂_iff_zip.mp hfields.each).2 place
    rw [← h.1, ← h.2]
    exact hfield.schema
  | element array h => exact h

/-- What a known type expression refers to is referred to by a place. -/
theorem exists_refersTo (hs : a.Sound r m []) (hc : a.cached? e = some id)
    (href : r.Refers e e') : ∃ id', a.RefersTo r m e' id' := by
  cases href with
  | element =>
    obtain ⟨elementId, -, hn, helement⟩ := hs.cached _ _ hc
    exact ⟨elementId, .element hn helement⟩
  | field type declared hf =>
    obtain ⟨fields, hn⟩ := hs.cached _ _ hc
    obtain ⟨hlength, hzip⟩ := List.forall₂_iff_zip.mp (hs.fieldsStandFor hn type).each
    rw [← List.map_fst_zip (Nat.le_of_eq hlength)] at declared
    obtain ⟨⟨f, s⟩, hplace, rfl⟩ := List.mem_map.mp declared
    cases hf with
    | type h => exact ⟨s.schema, .field hn type hplace h⟩
    | element h =>
      -- the field holds an array of its own, whose elements are meant
      have hschema := (hzip hplace).schema
      rw [h.1] at hschema
      obtain ⟨elementId, -, harray, helement⟩ := hschema
      exact ⟨elementId, .element harray helement⟩

/-- What a known type expression leads to is known. -/
theorem Shares.cached?_of_reaches (h : a.Shares r m) (hs : a.Sound r m [])
    (hc : a.cached? e = some id) (hreaches : ReflTransGen r.Refers e e') :
    ∃ id', a.cached? e' = some id' := by
  induction hreaches with
  | refl => exact ⟨id, hc⟩
  | tail _ href ih =>
    obtain ⟨id', hc'⟩ := ih
    obtain ⟨place, hplace⟩ := exists_refersTo hs hc' href
    obtain ⟨id'', hknown, -⟩ := h.known _ _ (hplace.standsFor hs)
    exact ⟨id'', hknown⟩

/-- The node of a type expression that does not lead back is the one that is known. -/
theorem Shares.cached?_of_standsFor (h : a.Shares r m) (hback : ¬r.LeadsBack e)
    (hs : StandsFor m a.nodes e none none id) : a.cached? e = some id := by
  obtain ⟨id', hc, rfl | hid⟩ := h.known e id hs
  · exact hc
  · exact absurd hid hback

end Arena

namespace Generator

variable {r : Registry} {m : Mode} {g : Generator} {e : TypeExpr} {id : NodeId}

/-! ### Runs -/

/-- A call keeps an arena without repetition. -/
theorem generateExpr_shares (hg : (new r m).Leads g) (h : g.arena.Shares r m) (e : TypeExpr) :
    (g.generateExpr e).2.arena.Shares r m := by
  rcases generateExpr_cases hg.sound e with ⟨id, b, heq, hmakes⟩ | ⟨error, heq⟩
  · rw [heq]
    rw [hg.registry, hg.mode] at hmakes
    exact hmakes.shares hg.sound_arena h
  · rw [heq]
    exact h

/-- A run keeps an arena without repetition. -/
theorem shares_run_new (r : Registry) (m : Mode) (calls : List Call) :
    ((new r m).run calls).2.arena.Shares r m := by
  have hrun := run_preserves (P := fun g => (new r m).Leads g ∧ g.arena.Shares r m) (g := new r m)
    (fun g e h => ⟨h.1.generateExpr e, generateExpr_shares h.1 h.2 e⟩)
    ⟨.refl (sound_new r m), .empty r m⟩ calls
  exact hrun.2

/-- **An array that leads back and was not met before** gets a node behind the one that the descent
for its elements has made for it. -/
theorem exists_refersTo_ne (hg : (new r m).Leads g) (hshares : g.arena.Shares r m)
    (hback : r.LeadsBack e) (hnone : g.arena.cached? e = none)
    (h : (g.generateExpr e).1 = .ok id) :
    ∃ id' ≠ id, (g.generateExpr e).2.arena.RefersTo r m e id' := by
  have hmakes := generateExpr_makes hg.sound h
  rw [hg.registry, hg.mode] at hmakes
  generalize (g.generateExpr e).2.arena = c at hmakes
  obtain ⟨harray, hcycle⟩ := hback
  cases hmakes with
  | known hc => exact absurd (hnone.symm.trans hc) (by simp)
  | scalar => exact absurd harray (by simp [TypeExpr.isArray])
  | named => exact absurd harray (by simp [TypeExpr.isArray])
  | @array element _ b _ _ elements =>
    have hsound : b.Sound r m [] := elements.sound hg.sound_arena
    obtain ⟨_, ⟨⟩, hreaches⟩ := TransGen.head'_iff.mp hcycle
    -- the array is not its own element, so something on the way refers to it
    rcases hreaches.cases_tail with heq | ⟨e', hreaches', href⟩
    · exact absurd (congrArg sizeOf heq) (by simp)
    obtain ⟨id', hc⟩ := (elements.shares hg.sound_arena hshares).cached?_of_reaches hsound
      elements.cached?_eq hreaches'
    obtain ⟨place, hplace⟩ := Arena.exists_refersTo hsound hc href
    exact ⟨place, Nat.ne_of_lt (hplace.standsFor hsound).lt, hplace.mono (List.prefix_append _ _)⟩

/-- **How far nodes are shared.** At the end of any run a type expression that does not lead back to
itself has a node if it is known, and no other; the places that refer to it hold this node. What was
answered for a type expression is known, whether it leads back or not. But if an array that leads
back was not met yet, then after a call that answers it some place refers to another node. -/
theorem places_agree_unless_leadsBack (r : Registry) (m : Mode) (calls : List Call) :
    let g := ((new r m).run calls).2
    (∀ e id, ¬r.LeadsBack e →
        (StandsFor m g.arena.nodes e none none id ↔ g.arena.cached? e = some id)) ∧
      (∀ e id, ¬r.LeadsBack e → g.arena.RefersTo r m e id → g.arena.cached? e = some id) ∧
      (∀ (id : NodeId) (x : ArraySchema), g.arena.nodes[id]? = some (.array x) →
        ∃ e, g.arena.RefersTo r m e x.element) ∧
      (∀ e id, (Call.generateExpr e, Answer.node (.ok id)) ∈ ((new r m).run calls).1 →
        g.arena.cached? e = some id) ∧
      (∀ e id, r.LeadsBack e → g.arena.cached? e = none → (g.generateExpr e).1 = .ok id →
        ∃ id' ≠ id, (g.generateExpr e).2.arena.RefersTo r m e id') := by
  intro g
  have hsound : g.arena.Sound r m [] := sound_run_new r m calls
  have hshares : g.arena.Shares r m := shares_run_new r m calls
  refine ⟨fun e id hback => ⟨hshares.cached?_of_standsFor hback, hsound.cached e id⟩,
    fun e id hback hplace => hshares.cached?_of_standsFor hback (hplace.standsFor hsound),
    fun id x hx => ?_, fun e id => cached?_of_mem_run (sound_new r m),
    fun e id => exists_refersTo_ne (run_leads (sound_new r m) calls) hshares⟩
  obtain ⟨hnullable, e, he⟩ := hshares.element id x hx
  have harray : g.arena.nodes[id]? =
      some (.array ⟨x.element, x.minLength, m.nullableElements⟩) := by
    rw [hx, ← hnullable]
  exact ⟨e, .element harray he⟩

/-- Forests of trees: both a forest and a tree hold trees. -/
def forests : Registry :=
  ⟨[("Forest", ⟨"Forest", [.plain "trees" (.array (.named "Tree"))]⟩),
    ("Tree", ⟨"Tree", [.plain "children" (.array (.named "Tree"))]⟩)]⟩

/-- The trees of a forest are not the children of a tree. -/
theorem refersTo_forests :
    let a := ((new forests .explicitOnly).run [.generate "Forest"]).2.arena
    a.RefersTo forests .explicitOnly (.array (.named "Tree")) 3 ∧
      a.RefersTo forests .explicitOnly (.array (.named "Tree")) 2 ∧
      a.cached? (.array (.named "Tree")) = some 3 := by
  have hnodes : ((new forests .explicitOnly).run [.generate "Forest"]).2.arena.nodes =
      [.object ⟨"Forest", [⟨"trees", 3, false, true⟩]⟩,
        .object ⟨"Tree", [⟨"children", 2, false, true⟩]⟩, .array ⟨1, none, true⟩,
        .array ⟨1, none, true⟩] := by
    simp only [run, call, generate, generateExpr, Generating.exprNode_eq_exprNodeWithin_size]
    rfl
  have hcached : ((new forests .explicitOnly).run [.generate "Forest"]).2.arena.cached?
      (.array (.named "Tree")) = some 3 := by
    simp only [run, call, generate, generateExpr, Generating.exprNode_eq_exprNodeWithin_size]
    rfl
  have hplain : ∀ name, Generating.Constraint.none.IsOf
      (.plain name (.array (.named "Tree"))) := fun _ => ⟨rfl, rfl⟩
  refine ⟨?_, ?_, hcached⟩
  · have hforest : ((new forests .explicitOnly).run [.generate "Forest"]).2.arena.nodes[0]? =
        some (.object ⟨"Forest", [⟨"trees", 3, false, true⟩]⟩) := by rw [hnodes]; rfl
    exact .field (t := ⟨"Forest", [.plain "trees" (.array (.named "Tree"))]⟩) hforest rfl
      List.mem_cons_self (hplain "trees")
  · have htree : ((new forests .explicitOnly).run [.generate "Forest"]).2.arena.nodes[1]? =
        some (.object ⟨"Tree", [⟨"children", 2, false, true⟩]⟩) := by rw [hnodes]; rfl
    exact .field (t := ⟨"Tree", [.plain "children" (.array (.named "Tree"))]⟩) htree rfl
      List.mem_cons_self (hplain "children")

end Generator

end Conformance

import Conformance.Proofs.Generation.Steps

/-!
# Generation only adds

Nodes are filled in after they were reserved, type expressions are remembered after a descent that
may have remembered them already, and a failure can come at any point of the descent. Still, as
seen from the arena a step of generation starts in, nothing that was there is touched: the step only
adds to it (`Conformance.Arena.Grows`), whether it succeeds or fails.

* `Conformance.Generating.exprNode_grows` – the node of a type expression only adds to the arena;
* `Conformance.Arena.Grows.rollback` – rolling back to where a step started undoes it exactly.

What makes it work is that only places at or behind the end of the starting arena are ever filled,
and only type expressions that it did not know are ever remembered.
-/

namespace Conformance

namespace Arena

variable {a b c : Arena} {e e' : TypeExpr} {id : NodeId} {n : Node}

/-! ### The operations on an arena -/

@[simp] theorem nodes_push : (a.push n).2.nodes = a.nodes ++ [n] := rfl

@[simp] theorem cached?_push : (a.push n).2.cached? e = a.cached? e := rfl

@[simp] theorem nodes_remember : (a.remember e id).nodes = a.nodes := rfl

@[simp] theorem nodes_fill : (a.fill id n).nodes = a.nodes.set id n := rfl

@[simp] theorem cached?_fill : (a.fill id n).cached? e = a.cached? e := rfl

@[simp] theorem cached?_remember_self : (a.remember e id).cached? e = some id := by
  simp [cached?, remember]

/-- Remembering one type expression does not change what is known of another. -/
theorem cached?_remember_of_ne (h : e' ≠ e) : (a.remember e id).cached? e' = a.cached? e' := by
  have hfilter : ∀ cache : List (TypeExpr × NodeId),
      (cache.filter (·.1 != e)).lookup e' = cache.lookup e' := by
    intro cache
    induction cache with
    | nil => rfl
    | cons p rest ih =>
      by_cases hp : p.1 = e
      · have hne : (e' == p.1) = false := by simpa [hp] using h
        rw [List.filter_cons_of_neg (by simp [hp]), ih, List.lookup_cons, hne]
      · rw [List.filter_cons_of_pos (by simpa using hp), List.lookup_cons, List.lookup_cons, ih]
  have hne : (e' == e) = false := by simpa using h
  change List.lookup e' ((e, id) :: a.cache.filter (·.1 != e)) = _
  rw [List.lookup_cons, hne]
  exact hfilter a.cache

/-- What is known of a type expression stands in the cache. -/
theorem mem_of_cached? (h : a.cached? e = some id) : (e, id) ∈ a.cache := by
  obtain ⟨l₁, l₂, hl, -⟩ := List.lookup_eq_some_iff.mp h
  rw [hl]
  simp

theorem ne_of_cached?_eq_none (h : a.cached? e = none) {p : TypeExpr × NodeId}
    (hp : p ∈ a.cache) : p.1 ≠ e := by
  rintro rfl
  simpa using List.lookup_eq_none_iff.mp h p hp

/-! ### Growth -/

/-- **One arena has grown into another**: no node has changed its place or its content, and what was
known of a type expression is still known. The type expressions met since then were not known, and
have their nodes behind the old ones. -/
structure Grows (a b : Arena) : Prop where
  /-- The old nodes come first. -/
  nodes : a.nodes <+: b.nodes
  /-- The old cache comes last. -/
  cache : ∃ new, b.cache = new ++ a.cache ∧
    ∀ p ∈ new, a.cached? p.1 = none ∧ a.nodes.length ≤ p.2 ∧ p.2 < b.nodes.length

/-- Every type expression that was met has a node. -/
def Bounded (a : Arena) : Prop := ∀ p ∈ a.cache, p.2 < a.nodes.length

theorem Bounded.lt (h : a.Bounded) (hc : a.cached? e = some id) : id < a.nodes.length :=
  h _ (mem_of_cached? hc)

namespace Grows

theorem refl (a : Arena) : a.Grows a := ⟨List.prefix_rfl, [], rfl, by simp⟩

theorem length_le (h : a.Grows b) : a.nodes.length ≤ b.nodes.length := h.nodes.length_le

/-- The old nodes are at their places. -/
theorem getElem? (h : a.Grows b) (hid : id < a.nodes.length) : b.nodes[id]? = a.nodes[id]? := by
  obtain ⟨rest, hrest⟩ := h.nodes
  rw [← hrest, List.getElem?_append_left hid]

/-- What was known of a type expression is still known. -/
theorem cached? (h : a.Grows b) (hc : a.cached? e = some id) : b.cached? e = some id := by
  obtain ⟨new, hnew, hfresh⟩ := h.cache
  have hnone : new.lookup e = none := by
    -- the new entries are for type expressions that were not known
    rw [List.lookup_eq_none_iff]
    intro p hp
    refine bne_iff_ne.mpr ?_
    rintro rfl
    rw [(hfresh p hp).1] at hc
    exact absurd hc (by simp)
  change b.cache.lookup e = some id
  rw [hnew, List.lookup_append, hnone]
  exact hc

theorem cached?_eq_none (h : a.Grows b) (hb : b.cached? e = none) : a.cached? e = none := by
  cases hc : a.cached? e with
  | none => rfl
  | some id =>
    rw [h.cached? hc] at hb
    exact absurd hb (by simp)

theorem trans (h : a.Grows b) (h' : b.Grows c) : a.Grows c := by
  obtain ⟨new, hnew, hfresh⟩ := h.cache
  obtain ⟨new', hnew', hfresh'⟩ := h'.cache
  refine ⟨h.nodes.trans h'.nodes, new' ++ new, by rw [hnew', hnew, List.append_assoc], ?_⟩
  intro p hp
  rcases List.mem_append.mp hp with hp | hp
  · obtain ⟨hnone, hle, hlt⟩ := hfresh' p hp
    exact ⟨h.cached?_eq_none hnone, Nat.le_trans h.length_le hle, hlt⟩
  · obtain ⟨hnone, hle, hlt⟩ := hfresh p hp
    exact ⟨hnone, hle, Nat.lt_of_lt_of_le hlt h'.length_le⟩

theorem bounded (h : a.Grows b) (ha : a.Bounded) : b.Bounded := by
  obtain ⟨new, hnew, hfresh⟩ := h.cache
  intro p hp
  rw [hnew] at hp
  rcases List.mem_append.mp hp with hp | hp
  · exact (hfresh p hp).2.2
  · exact Nat.lt_of_lt_of_le (ha p hp) h.length_le

/-- Adding a node is growth. -/
theorem push (h : a.Grows b) (n : Node) : a.Grows (b.push n).2 := by
  obtain ⟨new, hnew, hfresh⟩ := h.cache
  refine ⟨h.nodes.trans (List.prefix_append _ _), new, hnew, fun p hp => ?_⟩
  obtain ⟨hnone, hle, hlt⟩ := hfresh p hp
  refine ⟨hnone, hle, ?_⟩
  rw [nodes_push, List.length_append]
  exact Nat.lt_of_lt_of_le hlt (Nat.le_add_right _ _)

/-- Remembering a type expression is growth if it was not known at the start, whatever happened to
it since then. -/
theorem remember (h : a.Grows b) (he : a.cached? e = none) (hle : a.nodes.length ≤ id)
    (hlt : id < b.nodes.length) : a.Grows (b.remember e id) := by
  obtain ⟨new, hnew, hfresh⟩ := h.cache
  refine ⟨h.nodes, (e, id) :: new.filter (·.1 != e), ?_, ?_⟩
  · -- the expression may have been met since, but no old entry is for it
    have hold : a.cache.filter (·.1 != e) = a.cache :=
      List.filter_eq_self.mpr fun p hp => by simpa using ne_of_cached?_eq_none he hp
    change (e, id) :: b.cache.filter (·.1 != e) = _
    rw [hnew, List.filter_append, hold, List.cons_append]
  · intro p hp
    rcases List.mem_cons.mp hp with rfl | hp
    · exact ⟨he, hle, hlt⟩
    · exact hfresh p (List.mem_filter.mp hp).1

/-- Filling a place behind the old nodes is growth. -/
theorem fill (h : a.Grows b) (hle : a.nodes.length ≤ id) (n : Node) : a.Grows (b.fill id n) := by
  obtain ⟨rest, hrest⟩ := h.nodes
  obtain ⟨new, hnew, hfresh⟩ := h.cache
  refine ⟨⟨rest.set (id - a.nodes.length) n, ?_⟩, new, hnew, fun p hp => ?_⟩
  · rw [nodes_fill, ← hrest, List.set_append_right _ _ hle]
  · rw [nodes_fill, List.length_set]
    exact hfresh p hp

/-- **Rolling back undoes growth exactly.** -/
theorem rollback (h : a.Grows b) (ha : a.Bounded) : b.rollback a.nodes.length = a := by
  obtain ⟨rest, hrest⟩ := h.nodes
  obtain ⟨new, hnew, hfresh⟩ := h.cache
  have hnodes : b.nodes.take a.nodes.length = a.nodes := by rw [← hrest, List.take_left]
  have hdropped : new.filter (·.2 < a.nodes.length) = [] :=
    List.filter_eq_nil_iff.mpr fun p hp => by simpa using (hfresh p hp).2.1
  have hkept : a.cache.filter (·.2 < a.nodes.length) = a.cache :=
    List.filter_eq_self.mpr fun p hp => by simpa using ha p hp
  rw [Arena.rollback, hnodes, hnew, List.filter_append, hdropped, hkept, List.nil_append]

end Grows

end Arena

/-! ### The steps of generation -/

namespace Generating

variable {a : Arena} {m : Mode}

/-- The node of a field only adds to the arena if the nodes of type expressions do. -/
theorem fieldNode_grows {nodeOf : TypeExpr → String → Generating NodeId} (owner : String)
    (seen : List String) (f : FieldDescription)
    (hnode : ∀ e referencedFrom, (nodeOf e referencedFrom).Ensures a (fun _ b => a.Grows b)
      fun _ b => a.Grows b) :
    (fieldNode m nodeOf owner seen f).Ensures a (fun _ b => a.Grows b) fun _ b => a.Grows b := by
  refine ensures_fieldNode_of (fun _ => .refl a) (fun _ _ => hnode _ _) (fun element n _ _ => ?_)
    fun kind p _ _ => (Arena.Grows.refl a).push _
  exact (hnode element _).mono (fun id b hb => hb.push _) fun _ _ hb => hb

mutual

/-- **The node of a type expression only adds to the arena**, and the type expression is known
afterwards. -/
theorem exprNode_grows (r : Registry) (e : TypeExpr) (referencedFrom : String) (a : Arena) :
    (exprNode m r e referencedFrom).Ensures a (fun id b => a.Grows b ∧ b.cached? e = some id)
      fun _ b => a.Grows b := by
  cases hcached : a.cached? e with
  | some id =>
    rw [ensures_exprNode_cached hcached]
    exact ⟨.refl a, hcached⟩
  | none =>
    -- the node that is made last, for an expression that was not known at the start
    have hlast : ∀ (b : Arena) (n : Node), a.Grows b →
        a.Grows ((b.push n).2.remember e b.nodes.length) := fun b n hb =>
      (hb.push n).remember hcached hb.length_le (by simp)
    cases e with
    | scalar kind =>
      rw [ensures_exprNode_scalar hcached]
      exact ⟨hlast a _ (.refl a), Arena.cached?_remember_self⟩
    | array element =>
      rw [ensures_exprNode_array hcached]
      exact (exprNode_grows r element referencedFrom a).mono
        (fun id b hb => ⟨hlast b _ hb.1, Arena.cached?_remember_self⟩) fun _ _ hb => hb
    | named name =>
      cases hr : r.find? name with
      | none =>
        rw [ensures_exprNode_unknown hcached hr]
        exact .refl a
      | some t =>
        rw [ensures_exprNode_named hcached hr]
        have hreserved := hlast a (.object ⟨name, []⟩) (.refl a)
        refine (fieldNodes_grows (r.erase name) name [] t.fields _).mono
          (fun fields b hb => ⟨(hreserved.trans hb).fill (Nat.le_refl _) _, ?_⟩)
          fun _ _ hb => hreserved.trans hb
        rw [Arena.cached?_fill]
        exact hb.cached? Arena.cached?_remember_self
termination_by (r.size, 0, sizeOf e)
decreasing_by
  · exact Prod.Lex.right _ (Prod.Lex.right _ (by simp +arith))
  · exact Prod.Lex.left _ _ (Registry.size_erase_lt hr)

/-- The nodes of the fields of an object only add to the arena. -/
theorem fieldNodes_grows (r : Registry) (owner : String) (seen : List String)
    (fields : List FieldDescription) (a : Arena) :
    (fieldNodes m r owner seen fields).Ensures a (fun _ b => a.Grows b) fun _ b => a.Grows b := by
  cases fields with
  | nil =>
    rw [ensures_fieldNodes_nil]
    exact .refl a
  | cons f rest =>
    rw [ensures_fieldNodes_cons]
    have hfield : (fieldNode m (exprNode m r) owner seen f).Ensures a (fun _ b => a.Grows b)
        fun _ b => a.Grows b :=
      fieldNode_grows owner seen f fun e referencedFrom =>
        (exprNode_grows r e referencedFrom a).mono (fun _ _ hb => hb.1) fun _ _ hb => hb
    refine hfield.mono (fun id b hb => ?_) fun _ _ hb => hb
    exact (fieldNodes_grows r owner (f.name :: seen) rest b).mono (fun _ _ hc => hb.trans hc)
      fun _ _ hc => hb.trans hc
termination_by (r.size, 1, sizeOf fields)
decreasing_by
  · exact Prod.Lex.right _ (Prod.Lex.left _ _ Nat.zero_lt_one)
  · exact Prod.Lex.right _ (Prod.Lex.right _ (by simp +arith))

end

end Generating

end Conformance

import Mathlib.Data.List.Forall2
import Conformance.Source.Reading

/-!
# What a reading ends in

A decoder is a reading, which ends in a value or in the first fault. Two things are said about
readings here. One is told in full: it ends in its value if the levels left suffice, and otherwise
at the limit of nesting (`Conformance.SourceText.nested`). Of the other only the good end is told,
whatever was followed before (`Conformance.SourceText.Yields`), and it is taken apart step by step.

* `Conformance.SourceText.nested_bind` – a reading after a reading needs as many levels as the
  deeper of the two;
* `Conformance.SourceText.Yields.bind`, `Conformance.SourceText.Yields.mapM`,
  `Conformance.SourceText.Yields.foldlM` – a reading that ended well did so in every step.
-/

namespace Conformance.SourceText

variable {α β γ : Type} {n m depth : Nat} {a : α} {b : β}

/-- A list is read like another if each of its elements is. -/
theorem mapM_eq_map {f : α → Reading γ} {g : α → Reading β} {h : β → γ} {l : List α}
    (heq : ∀ a ∈ l, f a = g a >>= fun b => pure (h b)) :
    l.mapM f = l.mapM g >>= fun bs => pure (bs.map h) := by
  induction l with
  | nil => rfl
  | cons a l ih =>
    obtain ⟨hfirst, hrest⟩ := List.forall_mem_cons.mp heq
    rw [List.mapM_cons, List.mapM_cons, hfirst, ih hrest]
    simp only [bind_assoc, pure_bind, List.map_cons]

/-! ### Readings that end at the limit of nesting -/

/-- **The reading of something nested so deep** where so many levels are left. -/
def nested (n depth : Nat) (a : α) : Reading α :=
  if n ≤ depth then return a else throw .recursionLimit

theorem nested_zero : nested 0 depth a = pure a := if_pos (Nat.zero_le _)

theorem nested_of_gt (h : depth < n) : nested n depth a = throw .recursionLimit :=
  if_neg (Nat.not_le.mpr h)

theorem nested_succ : nested (n + 1) (depth + 1) a = nested n depth a := by
  simp [nested]

theorem nested_bind {f : α → Reading β} (h : f a = nested m depth b) :
    (nested n depth a >>= f) = nested (max n m) depth b := by
  unfold nested at h ⊢
  by_cases hn : n ≤ depth
  · rw [if_pos hn, pure_bind, h]
    by_cases hm : m ≤ depth
    · rw [if_pos hm, if_pos (Nat.max_le.mpr ⟨hn, hm⟩)]
    · rw [if_neg hm, if_neg fun hmax => hm (Nat.max_le.mp hmax).2]
  · rw [if_neg hn, if_neg fun hmax => hn (Nat.max_le.mp hmax).1]
    rfl

/-- What needs no levels after a reading needs none of its own. -/
theorem nested_bind_pure {f : α → Reading β} (h : f a = pure b) :
    (nested n depth a >>= f) = nested n depth b := by
  have hbind : (nested n depth a >>= f) = nested (max n 0) depth b :=
    nested_bind (h.trans nested_zero.symm)
  rwa [Nat.max_zero] at hbind

theorem nested_map {f : α → β} :
    (nested n depth a >>= fun x => pure (f x)) = nested n depth (f a) := nested_bind_pure rfl

/-! ### Readings that end well -/

/-- **A reading ends in a value**, for some number of references that may be followed. -/
def Yields (x : Reading α) (a : α) : Prop := ∃ k k', x k = .ok (a, k')

theorem Yields.of_pure {a' : α} (h : Yields (pure a) a') : a' = a := by
  obtain ⟨k, k', h⟩ := h
  exact (Prod.mk.inj (Except.ok.inj h)).1.symm

theorem not_yields_throw {fault : ReadFault} : ¬Yields (throw fault) a := by
  rintro ⟨k, k', h⟩
  exact nomatch h

/-- **A reading in two steps ended well** in both. -/
theorem Yields.bind {x : Reading α} {f : α → Reading β} (h : Yields (x >>= f) b) :
    ∃ a, Yields x a ∧ Yields (f a) b := by
  obtain ⟨k, k', h⟩ := h
  have hbind : (x k >>= fun r => f r.1 r.2) = .ok (b, k') := h
  cases hx : x k with
  | error fault => exact nomatch hx ▸ hbind
  | ok r =>
    rw [hx] at hbind
    exact ⟨r.1, ⟨k, r.2, hx⟩, ⟨r.2, k', hbind⟩⟩

theorem Yields.map {x : Reading α} {f : α → β} (h : Yields (x >>= fun a => pure (f a)) b) :
    ∃ a, Yields x a ∧ b = f a := by
  obtain ⟨a, ha, hb⟩ := h.bind
  exact ⟨a, ha, hb.of_pure⟩

/-- **The elements of a list were read one by one.** -/
theorem Yields.mapM {f : α → Reading β} {l : List α} {bs : List β} {R : α → β → Prop}
    (h : Yields (l.mapM f) bs) (hstep : ∀ a ∈ l, ∀ b, Yields (f a) b → R a b) :
    List.Forall₂ R l bs := by
  induction l generalizing bs with
  | nil =>
    obtain rfl := Yields.of_pure (a := []) h
    exact .nil
  | cons a l ih =>
    obtain ⟨hfirst, hrest⟩ := List.forall_mem_cons.mp hstep
    rw [List.mapM_cons] at h
    obtain ⟨b, hb, h⟩ := h.bind
    obtain ⟨bs', hbs, rfl⟩ := h.map
    exact .cons (hfirst b hb) (ih hbs hrest)

/-- What holds of all that is read from an element holds of all that was read. -/
theorem Yields.forall_mem_mapM {f : α → Reading β} {l : List α} {bs : List β} {P : β → Prop}
    (h : Yields (l.mapM f) bs) (hstep : ∀ a ∈ l, ∀ b, Yields (f a) b → P b) : ∀ b ∈ bs, P b := by
  have hpairs : List.Forall₂ (fun _ b => P b) l bs := h.mapM hstep
  clear h hstep
  induction hpairs with
  | nil => exact fun _ hb => absurd hb List.not_mem_nil
  | cons hb _ ih => exact List.forall_mem_cons.mpr ⟨hb, ih⟩

/-- **What holds at the start of a run and after every step holds at its end.** -/
theorem Yields.foldlM {f : α → β → Reading α} {l : List β} {a' : α}
    (motive : List β → α → Prop) (h : Yields (l.foldlM f a) a') (hnil : motive [] a)
    (hstep : ∀ done b a a', b ∈ l → motive done a → Yields (f a b) a' → motive (done ++ [b]) a') :
    motive l a' := by
  -- the invariant after some steps, with the rest still to come
  have hrun : ∀ (rest done : List β) (a : α), done ++ rest = l → motive done a →
      Yields (rest.foldlM f a) a' → motive l a' := by
    intro rest
    induction rest with
    | nil =>
      intro done a hl hdone hrest
      obtain rfl := Yields.of_pure (a := a) hrest
      rwa [← hl, List.append_nil]
    | cons b rest ih =>
      intro done a hl hdone hrest
      rw [List.foldlM_cons] at hrest
      obtain ⟨a₁, ha₁, hrest⟩ := hrest.bind
      have hb : b ∈ l := by
        rw [← hl]
        simp
      exact ih (done ++ [b]) a₁ (by rw [← hl]; simp) (hstep done b a a₁ hb hdone ha₁) hrest
  exact hrun l [] a rfl hnil h

/-- A whole text was decoded, and so was its content. -/
theorem Yields.of_decode {t : SourceText} {read : Nat → Source → Reading α}
    (h : t.decode read = .ok a) :
    Yields (read t.format.levels t.root) a := by
  unfold decode at h
  cases hread : (read t.format.levels t.root).run t.jumps with
  | error fault =>
    rw [hread] at h
    exact nomatch h
  | ok r =>
    cases hafter : t.after with
    | none =>
      rw [hread, hafter] at h
      obtain rfl := Except.ok.inj h
      exact ⟨t.jumps, r.2, hread⟩
    | some fault =>
      rw [hread, hafter] at h
      exact nomatch h

end Conformance.SourceText

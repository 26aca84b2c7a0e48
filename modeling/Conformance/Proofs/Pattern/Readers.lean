import Mathlib.Data.List.Infix
import Conformance.Pattern.Flags

/-!
# Reading in front of a closing parenthesis

A text between parentheses is read like a text by itself, as long as reading does not take the
closing parenthesis for one of its own characters. To say so of every reader that a pattern goes
through, there is one notion: what a reader reads in front of a closing parenthesis, and not
beyond it, it reads at the end of a text as well (`Conformance.LocalIf`). It is kept by all the
ways in which readers are put together.

Two things make it less simple than it sounds. A reader may look at the next character without
taking it, and so tell the parenthesis from the end of the text: where this matters, the notion is
restricted to results that meet a condition. And the readers of whole lists are bounded by a
number that is taken from the length of the text: so the two readers that are compared need not be
the same, and the comparison may be restricted to short texts.

* `Conformance.LocalIf` – reading in front of a closing parenthesis as at the end;
* `Conformance.LocalIf.bind`, `LocalIf.head`, `LocalIf.branch` – one reader after another, and a
  choice by the next character;
* `Conformance.PatternFlags.drops_skipBlanks` – what may stand anywhere is passed over alike.
-/

namespace Conformance

/-- What reads something at the beginning of a text, and leaves the rest. -/
abbrev Reader (α : Type) : Type := List Char → Option (α × List Char)

variable {α β : Type} {P : α → List Char → Prop} {Q : β → List Char → Prop} {m n : Nat}
variable {cs rest behind : List Char}

/-- **Reading in front of a closing parenthesis as at the end.** The first reader leaves an end of
every text. What it reads in front of a closing parenthesis, with a result that meets the condition,
the second one reads where the text ends instead, if the text is short enough. -/
structure LocalIf (P : α → List Char → Prop) (m n : Nat) (f g : Reader α) : Prop where
  /-- What is left is an end of the text. -/
  suffix : ∀ {cs x rest}, f cs = some (x, rest) → rest <:+ cs
  /-- The closing parenthesis can be replaced by the end of the text. -/
  cut : ∀ {cs behind x rest}, cs.length + behind.length < m → cs.length < n →
    f (cs ++ ')' :: behind) = some (x, rest ++ ')' :: behind) → P x rest → g cs = some (x, rest)

/-- A reader like that which takes a character at least. -/
structure StrictIf (P : α → List Char → Prop) (m n : Nat) (f g : Reader α) : Prop
    extends LocalIf P m n f g where
  /-- What is left is shorter than the text. -/
  takes : ∀ {cs x rest}, f cs = some (x, rest) → rest.length < cs.length

/-- **Reading in front of a closing parenthesis as at the end**, whatever the result is. -/
abbrev Local (m n : Nat) (f g : Reader α) : Prop := LocalIf (fun _ _ => True) m n f g

/-- A reader like that which takes a character at least, whatever the result is. -/
abbrev Strict (m n : Nat) (f g : Reader α) : Prop := StrictIf (fun _ _ => True) m n f g

theorem length_append_paren : (cs ++ ')' :: behind).length = cs.length + behind.length + 1 := by
  rw [List.length_append, List.length_cons, Nat.add_assoc]

/-- A text that ends with a parenthesis and more does not end a text of less. -/
theorem not_suffix_behind : ¬ rest ++ ')' :: behind <:+ behind := by
  intro h
  have hlength := h.length_le
  rw [length_append_paren] at hlength
  omega

/-- What stands at the end of a text, and ends as that text does, is what an end of its front part
ends with. -/
theorem exists_eq_append {mid : List Char} (h : mid <:+ cs ++ behind)
    (h' : rest ++ behind <:+ mid) :
    ∃ front, mid = front ++ behind ∧ front <:+ cs ∧ rest <:+ front := by
  obtain ⟨front, rfl⟩ := (List.suffix_append rest behind).trans h'
  exact ⟨front, rfl, List.suffix_append_self_iff.mp h, List.suffix_append_self_iff.mp h'⟩

/-- What passes over a beginning of a text, and does so in front of a closing parenthesis as at the
end. -/
structure Drops (d : List Char → List Char) : Prop where
  /-- What is left is an end of the text. -/
  suffix : ∀ {cs}, d cs <:+ cs
  /-- The closing parenthesis can be replaced by the end of the text. -/
  cut : ∀ {cs behind rest}, d (cs ++ ')' :: behind) = rest ++ ')' :: behind → d cs = rest

theorem drops_id : Drops id := by
  refine ⟨List.suffix_rfl, ?_⟩
  intro cs behind rest h
  exact List.append_cancel_right h

namespace LocalIf

variable {f g : Reader α} {h h' : α → Reader β} {d : List Char → List Char}

theorem pred (hf : LocalIf P (m + 1) (n + 1) f g) : LocalIf P m n f g :=
  ⟨hf.suffix, fun hm hn => hf.cut (Nat.lt_succ_of_lt hm) (Nat.lt_succ_of_lt hn)⟩

theorem weaken {P' : α → List Char → Prop} (hf : LocalIf P m n f g)
    (hP : ∀ {x rest}, P' x rest → P x rest) : LocalIf P' m n f g :=
  ⟨hf.suffix, fun hm hn hx hP' => hf.cut hm hn hx (hP hP')⟩

theorem congr {f' g' : Reader α} (hf : LocalIf P m n f g) (hf' : ∀ cs, f' cs = f cs)
    (hg' : ∀ cs, g' cs = g cs) : LocalIf P m n f' g' := by
  obtain rfl : f' = f := funext hf'
  obtain rfl : g' = g := funext hg'
  exact hf

/-- Bounds of readers by the length of the text start from one. -/
theorem of_succ (g : Nat → Reader α) (hf : ∀ n, LocalIf P m (n + 1) f (g (n + 1))) :
    LocalIf P m n f (g n) := by
  cases n with
  | zero => exact ⟨(hf 0).suffix, fun _ hn => absurd hn (Nat.not_lt_zero _)⟩
  | succ n => exact hf n

/-- Where all texts are too long, a reader has but to leave an end. -/
theorem of_suffix (hf : ∀ {cs x rest}, f cs = some (x, rest) → rest <:+ cs) : LocalIf P 0 n f g :=
  ⟨hf, fun hm => absurd hm (Nat.not_lt_zero _)⟩

theorem of_stop (x : α) : LocalIf P 0 n (fun cs => some (x, cs)) g := by
  refine of_suffix ?_
  intro cs y rest h
  cases h
  exact List.suffix_rfl

/-! ### Putting readers together -/

theorem none_left : LocalIf P m n (fun _ => none) g :=
  ⟨fun h => (Option.some_ne_none _ h.symm).elim, fun _ _ h => (Option.some_ne_none _ h.symm).elim⟩

theorem fail : LocalIf P m n (fun _ => none) (fun _ => none) := none_left

theorem stop (x : α) : LocalIf P m n (fun cs => some (x, cs)) (fun cs => some (x, cs)) where
  suffix h := by
    cases h
    exact List.suffix_rfl
  cut _ _ h _ := by
    rw [Option.some.injEq, Prod.mk.injEq] at h
    obtain ⟨rfl, h⟩ := h
    rw [List.append_cancel_right h]

/-- A reader that depends on a value, if there is one. -/
theorem withOption {γ : Type} {k k' : γ → Reader α} (o : Option γ)
    (hk : ∀ y, LocalIf P m n (k y) (k' y)) :
    LocalIf P m n (fun cs => o.bind fun y => k y cs) (fun cs => o.bind fun y => k' y cs) := by
  cases o with
  | none => exact fail
  | some y => exact hk y

/-- What takes nothing, and gives a value if there is one. -/
theorem give {γ : Type} (o : Option γ) (v : γ → α) :
    LocalIf P m n (fun cs => o.bind fun y => some (v y, cs))
      (fun cs => o.bind fun y => some (v y, cs)) :=
  withOption o fun y => stop (v y)

/-- What takes nothing, and gives a value if there is one and the text does not end here. -/
theorem giveBefore {γ : Type} (o : Option γ) (v : γ → α) :
    LocalIf (fun _ rest => rest ≠ []) m n
      (fun cs => if cs = [] then none else o.bind fun y => some (v y, cs))
      (fun cs => if cs = [] then none else o.bind fun y => some (v y, cs)) where
  suffix := by
    intro cs x rest h
    split at h
    · cases h
    · exact (give (P := fun _ _ => True) (m := m) (n := n) o v).suffix h
  cut := by
    intro cs behind x rest hm hn h hrest
    rw [if_neg (by simp)] at h
    have hgive := (give (P := fun _ _ => True) (m := m) (n := n) o v).cut hm hn h trivial
    obtain ⟨y, hy, heq⟩ := Option.bind_eq_some_iff.mp hgive
    cases heq
    rw [if_neg hrest]
    exact hgive

/-- One reader, and then another. The first result has to meet its condition if the second reader
can go on behind it. -/
theorem bind (hf : LocalIf P m n f g) (hh : ∀ x, LocalIf Q m n (h x) (h' x))
    (hP : ∀ {x y mid rest behind}, h x (mid ++ ')' :: behind) = some (y, rest ++ ')' :: behind) →
      Q y rest → P x mid) :
    LocalIf Q m n (fun cs => (f cs).bind fun p => h p.1 p.2)
      (fun cs => (g cs).bind fun p => h' p.1 p.2) where
  suffix hy := by
    obtain ⟨⟨x, mid⟩, hfx, hhx⟩ := Option.bind_eq_some_iff.mp hy
    exact ((hh x).suffix hhx).trans (hf.suffix hfx)
  cut hm hn hy hQ := by
    obtain ⟨⟨x, mid⟩, hfx, hhx⟩ := Option.bind_eq_some_iff.mp hy
    obtain ⟨front, rfl, hfront, -⟩ := exists_eq_append (hf.suffix hfx) ((hh x).suffix hhx)
    have hlength := hfront.length_le
    rw [hf.cut hm hn hfx (hP hhx hQ)]
    exact (hh x).cut (Nat.lt_of_le_of_lt (Nat.add_le_add_right hlength _) hm)
      (Nat.lt_of_le_of_lt hlength hn) hhx hQ

/-- A reader with its result replaced, if there is anything to replace it by. -/
theorem choose {γ : Type} (k : α → Option γ) (v : γ → β) (hf : LocalIf P m n f g)
    (hP : ∀ {x y rest}, k x = some y → Q (v y) rest → P x rest) :
    LocalIf Q m n (fun cs => (f cs).bind fun p => (k p.1).bind fun y => some (v y, p.2))
      (fun cs => (g cs).bind fun p => (k p.1).bind fun y => some (v y, p.2)) := by
  refine bind hf (fun x => give (k x) v) ?_
  intro x y mid rest behind hy hQ
  obtain ⟨z, hz, heq⟩ := Option.bind_eq_some_iff.mp hy
  rw [Option.some.injEq, Prod.mk.injEq] at heq
  obtain ⟨rfl, hmid⟩ := heq
  rw [List.append_cancel_right hmid]
  exact hP hz hQ

/-- A reader with its result replaced. -/
theorem map (v : α → β) (hf : LocalIf P m n f g) (hP : ∀ {x rest}, Q (v x) rest → P x rest) :
    LocalIf Q m n (fun cs => (f cs).map fun p => (v p.1, p.2))
      (fun cs => (g cs).map fun p => (v p.1, p.2)) := by
  have hchoose := choose some v hf fun {x y rest} hy hQ => by
    cases hy
    exact hP hQ
  simpa only [Option.map_eq_bind, Option.bind_some, Function.comp_def] using hchoose

/-- A reader, and another one if the first finds nothing. What the first finds, it finds whatever
stands behind the text. -/
theorem orElse {a : Reader α} {k k' : Reader β} (ha : Local m n a a)
    (hmore : ∀ {cs x rest behind}, a cs = some (x, rest) →
      a (cs ++ behind) = some (x, rest ++ behind))
    (hsome : ∀ x, LocalIf Q m n (h x) (h' x)) (hnone : LocalIf Q m n k k') :
    LocalIf Q m n (fun cs => (a cs).elim (k cs) fun p => h p.1 p.2)
      (fun cs => (a cs).elim (k' cs) fun p => h' p.1 p.2) where
  suffix := by
    intro cs y rest hy
    cases hx : a cs with
    | none =>
      rw [hx] at hy
      exact hnone.suffix hy
    | some p =>
      rw [hx] at hy
      exact ((hsome p.1).suffix hy).trans (ha.suffix hx)
  cut := by
    intro cs behind y rest hm hn hy hQ
    cases hx : a (cs ++ ')' :: behind) with
    | none =>
      rw [hx] at hy
      cases hcs : a cs with
      | none => exact hnone.cut hm hn hy hQ
      | some p =>
        -- what is found at the end would have been found here as well
        rw [hmore hcs] at hx
        cases hx
    | some p =>
      rw [hx] at hy
      obtain ⟨x, mid⟩ := p
      obtain ⟨front, rfl, hfront, -⟩ := exists_eq_append (ha.suffix hx) ((hsome x).suffix hy)
      have hlength := hfront.length_le
      rw [ha.cut hm hn hx trivial]
      exact (hsome x).cut (Nat.lt_of_le_of_lt (Nat.add_le_add_right hlength _) hm)
        (Nat.lt_of_le_of_lt hlength hn) hy hQ

theorem after (hd : Drops d) (hf : LocalIf P m n f g) :
    LocalIf P m n (fun cs => f (d cs)) (fun cs => g (d cs)) where
  suffix hx := (hf.suffix hx).trans hd.suffix
  cut hm hn hx hP := by
    obtain ⟨front, hfront, hsuffix, -⟩ := exists_eq_append hd.suffix (hf.suffix hx)
    have hlength := hsuffix.length_le
    rw [hfront] at hx
    rw [hd.cut hfront]
    exact hf.cut (by omega) (by omega) hx hP

/-- The same with bounds that are one less. -/
theorem of_nil (g : Nat → Reader α) (hnil : g 0 [] = g 1 [])
    (hf : ∀ n, LocalIf P m (n + 2) f (g (n + 1))) : LocalIf P m (n + 1) f (g n) := by
  cases n with
  | zero =>
    refine ⟨(hf 0).suffix, ?_⟩
    intro cs behind x rest hm hn hx hP
    obtain rfl : cs = [] := List.eq_nil_of_length_eq_zero (Nat.lt_one_iff.mp hn)
    rw [hnil]
    exact (hf 0).cut hm (Nat.lt_succ_of_lt hn) hx hP
  | succ n => exact hf n

/-- A reader that is bounded by the length of the text. -/
theorem full_length {F : Nat → Reader α} (hF : ∀ m n, LocalIf P m (n + 1) (F m) (F n)) :
    LocalIf P m n (fun cs => F cs.length cs) (fun cs => F cs.length cs) where
  suffix hx := (hF _ 0).suffix hx
  cut := by
    intro cs behind x rest _ _ hx hP
    rw [length_append_paren] at hx
    exact (hF _ _).cut (Nat.lt_succ_self _) (Nat.lt_succ_self _) hx hP

/-- A reader that is bounded by the length of the text and one more. -/
theorem full {F : Nat → Reader α} (hF : ∀ m n, LocalIf P m n (F m) (F n)) :
    LocalIf P m n (fun cs => F (cs.length + 1) cs) (fun cs => F (cs.length + 1) cs) where
  suffix hx := (hF _ 0).suffix hx
  cut := by
    intro cs behind x rest _ _ hx hP
    rw [length_append_paren] at hx
    exact (hF _ _).cut (by omega) (Nat.lt_succ_self _) hx hP

/-! ### Choices by the next character -/

/-- A character that is taken is not the closing parenthesis, if that parenthesis is left. -/
theorem next_cut {c : Char} {r : List Char} (hd : Drops d) (hr : d (cs ++ ')' :: behind) = c :: r)
    (hrest : rest ++ ')' :: behind <:+ r) :
    ∃ front, r = front ++ ')' :: behind ∧ d cs = c :: front ∧ front.length < cs.length := by
  have hmore : c :: r <:+ cs ++ ')' :: behind := hr ▸ hd.suffix
  obtain ⟨front, hfront, hsuffix, -⟩ := exists_eq_append hmore (hrest.trans (List.suffix_cons c r))
  cases front with
  | nil =>
    -- the parenthesis itself was taken, and cannot be left
    cases hfront
    exact absurd hrest not_suffix_behind
  | cons c' front =>
    cases hfront
    exact ⟨front, rfl, hd.cut hr, hsuffix.length_le⟩

/-- A reader that takes the next character, and goes on by it. -/
theorem head (hd : Drops d) (hnil : ∀ cs, d cs = [] → f cs = none)
    (hcons : ∀ c, ∃ k k', LocalIf P m n k k' ∧ ∀ cs r, d cs = c :: r → f cs = k r ∧ g cs = k' r) :
    StrictIf P (m + 1) (n + 1) f g := by
  have htake : ∀ {cs x rest}, f cs = some (x, rest) → ∃ c r, d cs = c :: r ∧ rest <:+ r := by
    intro cs x rest hx
    cases hr : d cs with
    | nil =>
      rw [hnil cs hr] at hx
      cases hx
    | cons c r =>
      obtain ⟨k, k', hk, hread⟩ := hcons c
      rw [(hread cs r hr).1] at hx
      exact ⟨c, r, rfl, hk.suffix hx⟩
  have hmore : ∀ {cs c r}, d cs = c :: r → c :: r <:+ cs := fun hr => hr ▸ hd.suffix
  refine ⟨⟨?_, ?_⟩, ?_⟩
  · intro cs x rest hx
    obtain ⟨c, r, hr, hrest⟩ := htake hx
    exact (hrest.trans (List.suffix_cons c r)).trans (hmore hr)
  · intro cs behind x rest hm hn hx hP
    obtain ⟨c, r, hr, hrest⟩ := htake hx
    obtain ⟨front, rfl, hcut, hlength⟩ := next_cut hd hr hrest
    obtain ⟨k, k', hk, hread⟩ := hcons c
    rw [(hread _ _ hr).1] at hx
    rw [(hread _ _ hcut).2]
    exact hk.cut (by omega) (by omega) hx hP
  · intro cs x rest hx
    obtain ⟨c, r, hr, hrest⟩ := htake hx
    exact Nat.lt_of_le_of_lt hrest.length_le (hmore hr).length_le

/-- A reader that takes the first character, and goes on by it. -/
theorem cons (hnil : f [] = none)
    (hcons : ∀ c, LocalIf P m n (fun r => f (c :: r)) (fun r => g (c :: r))) :
    StrictIf P (m + 1) (n + 1) f g := by
  refine head drops_id ?_ fun c => ⟨_, _, hcons c, ?_⟩
  · rintro cs rfl
    exact hnil
  · rintro cs r rfl
    exact ⟨rfl, rfl⟩

/-- A reader that takes one certain character and goes on, and reads nothing else. -/
theorem expect (c : Char) (hnil : f [] = none) (hother : ∀ c' r, c' ≠ c → f (c' :: r) = none)
    (hc : LocalIf P m n (fun r => f (c :: r)) (fun r => g (c :: r))) :
    StrictIf P (m + 1) (n + 1) f g := by
  refine cons hnil fun c' => ?_
  by_cases heq : c' = c
  · subst heq
    exact hc
  · exact none_left.congr (fun r => hother c' r heq) fun _ => rfl

/-- A reader that takes the next character and goes on by it, if what comes is of some kind, and
does something else otherwise. Whether it is of that kind does not depend on what stands behind a
closing parenthesis. -/
theorem branchOn {k k' : Reader α} {m' n' : Nat} (hd : Drops d) (p : List Char → Prop)
    (hnil : ¬ p []) (hp : ∀ c r behind, p (c :: r ++ ')' :: behind) ↔ p (c :: r))
    (hyes : ∀ c, ∃ j j', LocalIf P m n j j' ∧
      ∀ cs r, d cs = c :: r → p (c :: r) → f cs = j r ∧ g cs = j' r)
    (hno : LocalIf P m' n' k k') (heq : ∀ cs, ¬ p (d cs) → f cs = k (d cs) ∧ g cs = k' (d cs))
    (hm' : m' ≤ m + 1) (hn' : n' ≤ n + 1) : LocalIf P m' n' f g := by
  have hcases : ∀ cs, ¬ p (d cs) ∨ ∃ c r, d cs = c :: r ∧ p (c :: r) := by
    intro cs
    by_cases hcs : p (d cs)
    · cases hr : d cs with
      | nil => exact absurd (hr ▸ hcs) hnil
      | cons c r => exact Or.inr ⟨c, r, rfl, hr ▸ hcs⟩
    · exact Or.inl hcs
  constructor
  · intro cs x rest hx
    rcases hcases cs with hno' | ⟨c, r, hr, hc⟩
    · rw [(heq cs hno').1] at hx
      exact (hno.suffix hx).trans hd.suffix
    · obtain ⟨j, j', hj, hread⟩ := hyes c
      rw [(hread cs r hr hc).1] at hx
      have hmore : c :: r <:+ cs := hr ▸ hd.suffix
      exact ((hj.suffix hx).trans (List.suffix_cons c r)).trans hmore
  · intro cs behind x rest hm hn hx hP
    rcases hcases (cs ++ ')' :: behind) with hno' | ⟨c, r, hr, hc⟩
    · rw [(heq _ hno').1] at hx
      obtain ⟨front, hfront, hsuffix, -⟩ := exists_eq_append hd.suffix (hno.suffix hx)
      have hlength := hsuffix.length_le
      have hcut := hd.cut hfront
      -- the end of the text is not of the kind, and nothing else depends on what comes behind
      have hno'' : ¬ p (d cs) := by
        rw [hfront] at hno'
        rw [hcut]
        cases front with
        | nil => exact hnil
        | cons c front => exact fun hc => hno' ((hp c front behind).mpr hc)
      rw [hfront] at hx
      rw [(heq cs hno'').2, hcut]
      exact hno.cut (by omega) (by omega) hx hP
    · obtain ⟨j, j', hj, hread⟩ := hyes c
      rw [(hread _ r hr hc).1] at hx
      obtain ⟨front, rfl, hcut, hlength⟩ := next_cut hd hr (hj.suffix hx)
      rw [(hread _ _ hcut ((hp c front behind).mp hc)).2]
      exact hj.cut (by omega) (by omega) hx hP

/-- A reader that takes the next character and goes on by it, if that character is of some kind, and
does something else otherwise. -/
theorem branch {k k' : Reader α} {m' n' : Nat} (hd : Drops d) (p : Char → Prop)
    (hyes : ∀ c, p c → ∃ j j', LocalIf P m n j j' ∧
      ∀ cs r, d cs = c :: r → f cs = j r ∧ g cs = j' r)
    (hno : LocalIf P m' n' k k')
    (heq : ∀ cs, (∀ c ∈ (d cs).head?, ¬ p c) → f cs = k (d cs) ∧ g cs = k' (d cs))
    (hm' : m' ≤ m + 1) (hn' : n' ≤ n + 1) : LocalIf P m' n' f g := by
  refine branchOn hd (fun l => ∃ c ∈ l.head?, p c) ?_ ?_ (fun c => ?_) hno (fun cs hcs => ?_)
    hm' hn'
  · simp
  · simp
  · by_cases hc : p c
    · obtain ⟨j, j', hj, hread⟩ := hyes c hc
      exact ⟨j, j', hj, fun cs r hr _ => hread cs r hr⟩
    · refine ⟨_, _, fail, ?_⟩
      intro cs r hr hc'
      exact absurd (by simpa using hc') hc
  · exact heq cs fun c hc hpc => hcs ⟨c, hc, hpc⟩

end LocalIf

theorem StrictIf.of_succ {f : Reader α} (g : Nat → Reader α)
    (hf : ∀ n, StrictIf P m (n + 1) f (g (n + 1))) : StrictIf P m n f (g n) :=
  ⟨LocalIf.of_succ g fun n => (hf n).toLocalIf, (hf 0).takes⟩

theorem StrictIf.bind {f g : Reader α} {h h' : α → Reader β} (hf : StrictIf P m n f g)
    (hh : ∀ x, LocalIf Q m n (h x) (h' x))
    (hP : ∀ {x y mid rest behind}, h x (mid ++ ')' :: behind) = some (y, rest ++ ')' :: behind) →
      Q y rest → P x mid) :
    StrictIf Q m n (fun cs => (f cs).bind fun p => h p.1 p.2)
      (fun cs => (g cs).bind fun p => h' p.1 p.2) where
  toLocalIf := LocalIf.bind hf.toLocalIf hh hP
  takes := by
    intro cs y rest hy
    obtain ⟨⟨x, mid⟩, hx, hy⟩ := Option.bind_eq_some_iff.mp hy
    exact Nat.lt_of_le_of_lt ((hh x).suffix hy).length_le (hf.takes hx)

theorem StrictIf.congr {f g f' g' : Reader α} (hf : StrictIf P m n f g) (hf' : ∀ cs, f' cs = f cs)
    (hg' : ∀ cs, g' cs = g cs) : StrictIf P m n f' g' := by
  obtain rfl : f' = f := funext hf'
  obtain rfl : g' = g := funext hg'
  exact hf

/-- What a reader that takes a character makes of the rest behind that character. -/
theorem StrictIf.next {f g : Reader α} (c : Char) (hf : StrictIf P (m + 1) (n + 1) f g) :
    LocalIf P m n (fun r => f (c :: r)) (fun r => g (c :: r)) where
  suffix := by
    intro r x rest hx
    rcases List.suffix_cons_iff.mp (hf.suffix hx) with rfl | hrest
    · exact absurd (hf.takes hx) (Nat.lt_irrefl _)
    · exact hrest
  cut hm hn hx hP := hf.cut (by rw [List.length_cons]; omega) (Nat.succ_lt_succ hn) hx hP

/-! ### What is passed over -/

theorem drops_dropWhile (p : Char → Bool) : Drops (List.dropWhile p) := by
  refine ⟨List.dropWhile_suffix p, ?_⟩
  intro cs behind rest h
  induction cs with
  | nil =>
    rw [List.nil_append, List.dropWhile_cons] at h
    split at h
    · exact absurd (h ▸ List.dropWhile_suffix p) not_suffix_behind
    · exact List.append_cancel_right h
  | cons c cs ih =>
    rw [List.cons_append, List.dropWhile_cons] at h
    rw [List.dropWhile_cons]
    split at h
    · rename_i hc
      rw [if_pos hc]
      exact ih h
    · rename_i hc
      rw [if_neg hc]
      exact List.append_cancel_right h

namespace PatternFlags

theorem dropBlanks_suffix {comment : Bool} : dropBlanks comment cs <:+ cs := by
  induction cs generalizing comment with
  | nil => exact List.suffix_rfl
  | cons c cs ih =>
    cases comment with
    | true => exact ih.trans (List.suffix_cons c cs)
    | false =>
      rw [dropBlanks]
      split
      · exact ih.trans (List.suffix_cons c cs)
      · split
        · exact ih.trans (List.suffix_cons c cs)
        · exact List.suffix_rfl

theorem dropBlanks_cut {comment : Bool}
    (h : dropBlanks comment (cs ++ ')' :: behind) = rest ++ ')' :: behind) :
    dropBlanks comment cs = rest := by
  induction cs generalizing comment with
  | nil =>
    cases comment with
    | true =>
      -- the comment takes the parenthesis, so that none is left of it
      rw [List.nil_append, dropBlanks] at h
      exact absurd (h ▸ dropBlanks_suffix) not_suffix_behind
    | false => exact List.append_cancel_right h
  | cons c cs ih =>
    cases comment with
    | true => exact ih h
    | false =>
      rw [List.cons_append, dropBlanks] at h
      rw [dropBlanks]
      split at h
      · rename_i hc
        rw [if_pos hc]
        exact ih h
      · rename_i hc
        rw [if_neg hc]
        split at h
        · rename_i hc
          rw [if_pos hc]
          exact ih h
        · rename_i hc
          rw [if_neg hc]
          exact List.append_cancel_right h

/-- What is passed over is passed over by itself as well. -/
theorem exists_dropBlanks {comment : Bool} {c : Char} (h : dropBlanks comment cs = c :: rest) :
    ∃ blank, cs = blank ++ c :: rest ∧ dropBlanks comment blank = [] := by
  induction cs generalizing comment with
  | nil => cases h
  | cons c' cs ih =>
    have hlead : ∀ {comment'}, (∀ xs, dropBlanks comment (c' :: xs) = dropBlanks comment' xs) →
        ∃ blank, c' :: cs = blank ++ c :: rest ∧ dropBlanks comment blank = [] := by
      intro comment' hstep
      rw [hstep] at h
      obtain ⟨blank, rfl, hblank⟩ := ih h
      exact ⟨c' :: blank, rfl, (hstep blank).trans hblank⟩
    cases comment with
    | true => exact hlead fun xs => rfl
    | false =>
      by_cases hwhite : Text.isWhiteSpace c' = true
      · exact hlead fun xs => by rw [dropBlanks, if_pos hwhite]
      · by_cases hsign : (c' == '#') = true
        · exact hlead fun xs => by rw [dropBlanks, if_neg hwhite, if_pos hsign]
        · rw [dropBlanks, if_neg hwhite, if_neg hsign] at h
          exact ⟨[], h, rfl⟩

theorem exists_skipBlanks {flags : PatternFlags} {c : Char} (h : flags.skipBlanks cs = c :: rest) :
    ∃ blank, cs = blank ++ c :: rest ∧ flags.skipBlanks blank = [] := by
  by_cases hfree : flags.freeSpacing = true
  · rw [skipBlanks, if_pos hfree] at h
    obtain ⟨blank, hcs, hblank⟩ := exists_dropBlanks h
    exact ⟨blank, hcs, by rw [skipBlanks, if_pos hfree, hblank]⟩
  · rw [skipBlanks, if_neg hfree] at h
    exact ⟨[], h, by rw [skipBlanks, if_neg hfree]⟩

/-- Where something is left, nothing behind the text is passed over. -/
theorem dropBlanks_append {comment : Bool} (h : dropBlanks comment cs ≠ []) :
    dropBlanks comment (cs ++ rest) = dropBlanks comment cs ++ rest := by
  induction cs generalizing comment with
  | nil => exact absurd rfl h
  | cons c cs ih =>
    cases comment with
    | true => exact ih h
    | false =>
      rw [dropBlanks] at h
      rw [List.cons_append, dropBlanks, dropBlanks]
      split at h
      · rename_i hc
        rw [if_pos hc, if_pos hc]
        exact ih h
      · rename_i hc
        rw [if_neg hc, if_neg hc]
        split at h
        · rename_i hc
          rw [if_pos hc, if_pos hc]
          exact ih h
        · rename_i hc
          rw [if_neg hc, if_neg hc]
          rfl

theorem skipBlanks_append {flags : PatternFlags} (h : flags.skipBlanks cs ≠ []) :
    flags.skipBlanks (cs ++ rest) = flags.skipBlanks cs ++ rest := by
  rw [skipBlanks] at h
  rw [skipBlanks, skipBlanks]
  split at h
  · rename_i hfree
    rw [if_pos hfree, if_pos hfree, dropBlanks_append h]
  · rename_i hfree
    rw [if_neg hfree, if_neg hfree]

/-- What may stand anywhere is passed over in front of a closing parenthesis as at the end, unless a
comment goes on beyond the parenthesis. -/
theorem drops_skipBlanks (flags : PatternFlags) : Drops flags.skipBlanks := by
  constructor
  · intro cs
    rw [skipBlanks]
    split
    · exact dropBlanks_suffix
    · exact List.suffix_rfl
  · intro cs behind rest h
    rw [skipBlanks] at h ⊢
    split at h
    · rename_i hfree
      rw [if_pos hfree]
      exact dropBlanks_cut h
    · rename_i hfree
      rw [if_neg hfree]
      exact List.append_cancel_right h

end PatternFlags

end Conformance

import Mathlib.Data.Nat.Bitwise
import Conformance.Pattern.Regex

/-!
# What an expression spans

What it means that an expression matches a part of a text, said without sets of positions: the
expression spans the positions from the one where the part starts to the one where it ends
(`Conformance.Regex.Spans`). A repetition goes through its least number of steps, and then through
some more.

Running an expression on sets of positions leads to just those that it spans from one of the set
(`Conformance.Regex.leads_image`). Two things need a reason. A set that a step maps to itself is
kept as it is, which is right because no further step changes it. And a repetition without a
greatest number goes no more steps than there are positions: since a step never leads back, those
that stay in their place can be left out, and the others are not more than there are positions
(`Conformance.Repeats.exists_le`).

* `Conformance.Regex.occursIn_iff` – a text contains a match just if some part of it is spanned.
-/

namespace Conformance

/-! ### Steps -/

variable {R : Nat → Nat → Prop} {step : Nat → Nat} {i j k n s : Nat}

/-- **So many steps** of a relation between positions. -/
inductive Repeats (R : Nat → Nat → Prop) : Nat → Nat → Nat → Prop where
  /-- No step. -/
  | zero {i : Nat} : Repeats R 0 i i
  /-- A step, and then the others. -/
  | succ {n i j k : Nat} (first : R i j) (rest : Repeats R n j k) : Repeats R (n + 1) i k

/-- A relation leads forward, and not beyond the last position. -/
def Forward (positions : Nat) (R : Nat → Nat → Prop) : Prop :=
  ∀ i j, R i j → i = j ∨ i < j ∧ j < positions

/-- A function on sets of positions leads where a relation does. -/
def Leads (R : Nat → Nat → Prop) (step : Nat → Nat) : Prop :=
  ∀ s j, (step s).testBit j = true ↔ ∃ i, s.testBit i = true ∧ R i j

theorem Forward.repeats {positions : Nat} (hR : Forward positions R) :
    Forward positions (Repeats R n) := by
  intro i j h
  induction h with
  | zero => exact Or.inl rfl
  | succ first _ ih =>
    have hfirst := hR _ _ first
    omega

/-- **Steps that stay in their place can be left out**: the others are not more than there are
positions. -/
theorem Repeats.exists_le {positions : Nat} (hR : Forward positions R) (h : Repeats R n i j) :
    ∃ m ≤ positions, Repeats R m i j := by
  have hshort : ∃ m ≤ j - i, Repeats R m i j := by
    induction h with
    | zero => exact ⟨0, Nat.zero_le _, .zero⟩
    | @succ n i j k first rest ih =>
      obtain ⟨m, hm, hrest⟩ := ih
      rcases hR i j first with rfl | ⟨hlt, -⟩
      · exact ⟨m, hm, hrest⟩
      · have hforward := hR.repeats j k rest
        exact ⟨m + 1, by omega, .succ first hrest⟩
  obtain ⟨m, hm, hsteps⟩ := hshort
  have hforward := hR.repeats i j h
  exact ⟨m, by omega, hsteps⟩

/-! ### Steps on sets of positions -/

namespace Regex

/-- A set that a step leads into is never left. -/
theorem mem_of_repeats (hclosed : ∀ i j, s.testBit i = true → R i j → s.testBit j = true)
    (h : Repeats R n i j) (hi : s.testBit i = true) : s.testBit j = true := by
  induction h with
  | zero => exact hi
  | succ first _ ih => exact ih (hclosed _ _ hi first)

theorem leads_exactly (hstep : Leads R step) : Leads (Repeats R n) (exactly step n) := by
  induction n with
  | zero =>
    intro s j
    constructor
    · intro hj
      exact ⟨j, hj, .zero⟩
    · rintro ⟨i, hi, h⟩
      cases h
      exact hi
  | succ n ih =>
    intro s j
    rw [exactly]
    split
    · rename_i hfix
      -- the set is what the step leads to from it, and so every position in it has one before it
      have hback : ∀ m k, s.testBit k = true → ∃ i, s.testBit i = true ∧ Repeats R m i k := by
        intro m
        induction m with
        | zero => exact fun k hk => ⟨k, hk, .zero⟩
        | succ m ihm =>
          intro k hk
          obtain ⟨i, hi, hsteps⟩ := ihm k hk
          rw [← hfix] at hi
          obtain ⟨i', hi', hfirst⟩ := (hstep s i).mp hi
          exact ⟨i', hi', .succ hfirst hsteps⟩
      constructor
      · exact hback (n + 1) j
      · rintro ⟨i, hi, h⟩
        refine mem_of_repeats (fun a b ha hab => ?_) h hi
        rw [← hfix]
        exact (hstep s b).mpr ⟨a, ha, hab⟩
    · rw [ih (step s) j]
      constructor
      · rintro ⟨i, hi, hrest⟩
        obtain ⟨i', hi', hfirst⟩ := (hstep s i).mp hi
        exact ⟨i', hi', .succ hfirst hrest⟩
      · rintro ⟨i, hi, h⟩
        cases h with
        | succ first rest => exact ⟨_, (hstep s _).mpr ⟨i, hi, first⟩, rest⟩

theorem leads_atMost (hstep : Leads R step) :
    Leads (fun i j => ∃ m ≤ n, Repeats R m i j) (atMost step n) := by
  induction n with
  | zero =>
    intro s j
    constructor
    · intro hj
      exact ⟨j, hj, 0, Nat.le_refl 0, .zero⟩
    · rintro ⟨i, hi, m, hm, h⟩
      obtain rfl : m = 0 := by omega
      cases h
      exact hi
  | succ n ih =>
    intro s j
    rw [atMost]
    split
    · rename_i hfix
      have hclosed : ∀ a b, s.testBit a = true → R a b → s.testBit b = true := by
        intro a b ha hab
        rw [← hfix, Nat.testBit_or, (hstep s b).mpr ⟨a, ha, hab⟩, Bool.or_true]
      constructor
      · exact fun hj => ⟨j, hj, 0, Nat.zero_le _, .zero⟩
      · rintro ⟨i, hi, m, -, h⟩
        exact mem_of_repeats hclosed h hi
    · rw [ih (s ||| step s) j]
      constructor
      · rintro ⟨i, hi, m, hm, h⟩
        rw [Nat.testBit_or, Bool.or_eq_true] at hi
        rcases hi with hi | hi
        · exact ⟨i, hi, m, by omega, h⟩
        · obtain ⟨i', hi', hfirst⟩ := (hstep s i).mp hi
          exact ⟨i', hi', m + 1, by omega, .succ hfirst h⟩
      · rintro ⟨i, hi, m, hm, h⟩
        cases h with
        | zero => exact ⟨j, by rw [Nat.testBit_or, hi, Bool.true_or], 0, Nat.zero_le _, .zero⟩
        | @succ m _ k _ first rest =>
          have hk : (step s).testBit k = true := (hstep s k).mpr ⟨i, hi, first⟩
          exact ⟨k, by rw [Nat.testBit_or, hk, Bool.or_true], m, by omega, rest⟩

/-! ### Expressions -/

variable {α β : Type} {leafSpans : α → Nat → Nat → Prop} {leafImage : α → Nat → Nat}
variable {positions : Nat} {r : Regex α}

/-- **What an expression spans**, given what its leaves span. A repetition spans what its least
number of steps leads through, and then some more steps, up to the greatest number if there is
one. -/
def Spans (leafSpans : α → Nat → Nat → Prop) : Regex α → Nat → Nat → Prop
  | empty, i, j => i = j
  | leaf a, i, j => leafSpans a i j
  | cat a b, i, j => ∃ k, a.Spans leafSpans i k ∧ b.Spans leafSpans k j
  | alt a b, i, j => a.Spans leafSpans i j ∨ b.Spans leafSpans i j
  | times a least most, i, j =>
    ∃ k, Repeats (a.Spans leafSpans) least i k ∧
      ∃ n, (∀ m, most = some m → n ≤ m - least) ∧ Repeats (a.Spans leafSpans) n k j

theorem forward_spans (hleaf : ∀ a, Forward positions (leafSpans a)) :
    Forward positions (r.Spans leafSpans) := by
  induction r with
  | empty => exact fun i j h => Or.inl h
  | leaf a => exact hleaf a
  | cat a b iha ihb =>
    rintro i j ⟨k, ha, hb⟩
    have hfirst := iha i k ha
    have hsecond := ihb k j hb
    omega
  | alt a b iha ihb =>
    rintro i j (h | h)
    · exact iha i j h
    · exact ihb i j h
  | times a least most ih =>
    rintro i j ⟨k, hleast, n, -, hmore⟩
    have hfirst := ih.repeats i k hleast
    have hsecond := ih.repeats k j hmore
    omega

/-- **An expression leads where it spans**, if its leaves do. -/
theorem leads_image (hforward : ∀ a, Forward positions (leafSpans a))
    (hleaf : ∀ a, Leads (leafSpans a) (leafImage a)) :
    Leads (r.Spans leafSpans) (r.image leafImage positions) := by
  induction r with
  | empty =>
    intro s j
    exact ⟨fun hj => ⟨j, hj, rfl⟩, fun ⟨i, hi, hij⟩ => hij ▸ hi⟩
  | leaf a => exact hleaf a
  | cat a b iha ihb =>
    intro s j
    rw [image, ihb]
    constructor
    · rintro ⟨k, hk, hb⟩
      obtain ⟨i, hi, ha⟩ := (iha s k).mp hk
      exact ⟨i, hi, k, ha, hb⟩
    · rintro ⟨i, hi, k, ha, hb⟩
      exact ⟨k, (iha s k).mpr ⟨i, hi, ha⟩, hb⟩
  | alt a b iha ihb =>
    intro s j
    rw [image, Nat.testBit_or, Bool.or_eq_true, iha, ihb, ← exists_or]
    exact exists_congr fun i => and_or_left.symm
  | times a least most ih =>
    intro s j
    have hmore : ∀ k, (∃ m ≤ most.elim positions fun m => m - least,
          Repeats (a.Spans leafSpans) m k j) ↔
        ∃ n, (∀ m, most = some m → n ≤ m - least) ∧ Repeats (a.Spans leafSpans) n k j := by
      intro k
      cases most with
      | some m => simp
      | none =>
        constructor
        · rintro ⟨m, -, h⟩
          exact ⟨m, by simp, h⟩
        · rintro ⟨n, -, h⟩
          exact h.exists_le (forward_spans hforward)
    have himage : (times a least most).image leafImage positions s =
        atMost (a.image leafImage positions) (most.elim positions fun m => m - least)
          (exactly (a.image leafImage positions) least s) := by
      cases most <;> rfl
    rw [himage, leads_atMost ih _ j]
    constructor
    · rintro ⟨k, hk, h⟩
      obtain ⟨i, hi, hleast⟩ := (leads_exactly ih s k).mp hk
      exact ⟨i, hi, k, hleast, (hmore k).mp h⟩
    · rintro ⟨i, hi, k, hleast, h⟩
      exact ⟨k, (leads_exactly ih s k).mpr ⟨i, hi, hleast⟩, (hmore k).mpr h⟩

theorem image_map {f : β → α} {r : Regex β} :
    (r.map f).image leafImage positions = r.image (fun b => leafImage (f b)) positions := by
  induction r with
  | empty => rfl
  | leaf b => rfl
  | cat a b iha ihb =>
    funext s
    rw [map, image, image, iha, ihb]
  | alt a b iha ihb =>
    funext s
    rw [map, image, image, iha, ihb]
  | times a least most ih =>
    funext s
    simp only [map, image, ih]

end Regex

/-! ### Leaves in a text -/

variable {text : List Char} {holds : Option Char → Option Char → Bool} {before : Option Char}

/-- The character before a position, given the one before the text. -/
def charBefore (before : Option Char) (text : List Char) : Nat → Option Char
  | 0 => before
  | i + 1 => text[i]?

/-- **What a leaf spans in a text**: a character of its set, or a position that meets its
condition. -/
def RegexLeaf.Spans (text : List Char) : RegexLeaf → Nat → Nat → Prop
  | char set, i, j => j = i + 1 ∧ ∃ c, text[i]? = some c ∧ set.contains c = true
  | look condition, i, j =>
    j = i ∧ i ≤ text.length ∧ condition.holds (charBefore none text i) text[i]? = true

theorem testBit_positionsWhere :
    (positionsWhere holds before text).testBit i = true ↔
      i ≤ text.length ∧ holds (charBefore before text i) text[i]? = true := by
  induction text generalizing before i with
  | nil =>
    cases i with
    | zero => cases h : holds before none <;> simp [positionsWhere, charBefore, h]
    | succ i => cases h : holds before none <;> simp [positionsWhere, h, Nat.testBit_succ]
  | cons c text ih =>
    cases i with
    | zero =>
      cases h : holds before (some c) <;>
        simp [positionsWhere, charBefore, h, Nat.testBit_zero, Nat.add_mod]
    | succ i =>
      have hhalf : positionsWhere holds before (c :: text) / 2 =
          positionsWhere holds (some c) text := by
        rw [positionsWhere]
        split <;> omega
      have hbefore : charBefore before (c :: text) (i + 1) = charBefore (some c) text i := by
        cases i <;> rfl
      rw [Nat.testBit_succ, hhalf, ih, hbefore, List.getElem?_cons_succ, List.length_cons]
      exact and_congr_left fun _ => Nat.succ_le_succ_iff.symm

theorem RegexLeaf.leads_passage (leaf : RegexLeaf) :
    Leads (leaf.Spans text) (leaf.passage text).image := by
  intro s j
  cases leaf with
  | char set =>
    have hplace : ∀ i,
        (positionsWhere (fun _ next => next.any set.contains) none text).testBit i = true ↔
          ∃ c, text[i]? = some c ∧ set.contains c = true := by
      intro i
      rw [testBit_positionsWhere, Option.any_eq_true]
      refine and_iff_right_of_imp ?_
      rintro ⟨c, hc, -⟩
      exact (List.getElem?_eq_some_iff.mp hc).1.le
    rw [passage, Passage.image, if_pos rfl, Nat.testBit_shiftLeft, Bool.and_eq_true,
      Nat.testBit_and, Bool.and_eq_true, hplace, decide_eq_true_eq]
    constructor
    · rintro ⟨hj, hs, hc⟩
      exact ⟨j - 1, hs, by omega, hc⟩
    · rintro ⟨i, hs, rfl, hc⟩
      exact ⟨by omega, hs, hc⟩
  | look condition =>
    rw [passage, Passage.image, if_neg Bool.false_ne_true, Nat.testBit_and, Bool.and_eq_true,
      testBit_positionsWhere]
    constructor
    · rintro ⟨hs, hc⟩
      exact ⟨j, hs, rfl, hc⟩
    · rintro ⟨i, hs, rfl, hc⟩
      exact ⟨hs, hc⟩

theorem RegexLeaf.forward_spans (leaf : RegexLeaf) :
    Forward (text.length + 1) (leaf.Spans text) := by
  cases leaf with
  | char set =>
    rintro i j ⟨rfl, c, hc, -⟩
    have hi := (List.getElem?_eq_some_iff.mp hc).1
    omega
  | look condition =>
    rintro i j ⟨rfl, -, -⟩
    exact Or.inl rfl

namespace Regex

/-- An expression **matches a whole text** if it spans all of it. -/
def MatchesWhole (r : Regex RegexLeaf) (text : List Char) : Prop :=
  r.Spans (RegexLeaf.Spans text) 0 text.length

/-- **A text contains a match** just if a part of it is spanned. -/
theorem occursIn_iff {r : Regex RegexLeaf} :
    r.occursIn text = true ↔ ∃ i ≤ text.length, ∃ j, r.Spans (RegexLeaf.Spans text) i j := by
  have hall : ∀ i, (Nat.shiftLeft 1 (text.length + 1) - 1).testBit i = true ↔ i ≤ text.length := by
    intro i
    have hpow : Nat.shiftLeft 1 (text.length + 1) = 2 ^ (text.length + 1) := Nat.one_shiftLeft _
    rw [hpow, Nat.testBit_two_pow_sub_one, decide_eq_true_eq]
    exact Nat.lt_succ_iff
  have hsome : ∀ s : Nat, (s != 0) = true ↔ ∃ j, s.testBit j = true := by
    intro s
    rw [bne_iff_ne]
    constructor
    · intro hs
      by_contra hnone
      exact hs (Nat.zero_of_testBit_eq_false fun j => by simpa using fun h => hnone ⟨j, h⟩)
    · rintro ⟨j, hj⟩ rfl
      simp at hj
  have hleads : Leads (r.Spans (RegexLeaf.Spans text))
      (r.image (fun leaf => (leaf.passage text).image) (text.length + 1)) :=
    leads_image RegexLeaf.forward_spans RegexLeaf.leads_passage
  rw [occursIn, image_map, hsome]
  constructor
  · rintro ⟨j, hj⟩
    obtain ⟨i, hi, hspans⟩ := (hleads _ j).mp hj
    exact ⟨i, (hall i).mp hi, j, hspans⟩
  · rintro ⟨i, hi, j, hspans⟩
    exact ⟨j, (hleads _ j).mpr ⟨i, (hall i).mpr hi, hspans⟩⟩

/-- **Between the conditions of both ends**, an expression is found just if it matches the whole
text. -/
theorem occursIn_anchored {r : Regex RegexLeaf} :
    (cat (leaf (.look .textStart)) (cat r (leaf (.look .textEnd)))).occursIn text = true ↔
      r.MatchesWhole text := by
  rw [occursIn_iff]
  constructor
  · rintro ⟨i, hi, j, k, ⟨rfl, -, hstart⟩, l, hspans, rfl, hj, hend⟩
    have hfirst : k = 0 := by
      cases k with
      | zero => rfl
      | succ k =>
        have hk : text.length ≤ k := by simpa [Look.holds, charBefore] using hstart
        omega
    have hlast : text.length ≤ j := by simpa [Look.holds] using hend
    rw [hfirst, le_antisymm hj hlast] at hspans
    exact hspans
  · intro h
    exact ⟨0, Nat.zero_le _, text.length, 0, ⟨rfl, Nat.zero_le _, rfl⟩, text.length, h, rfl, le_rfl,
      by simp [Look.holds]⟩

end Regex

end Conformance

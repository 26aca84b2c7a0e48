import Conformance.Pattern.Basic
import Conformance.Proofs.Pattern.Items
import Conformance.Proofs.Pattern.Spans

/-!
# Matching a whole text

A pattern stands for the texts that its expression matches as a whole. The expression that is
searched for is another one: that of the text of the pattern between `^(?:` and `)$`. Whether the
two agree is a question about the reader, which reads the anchored text as it stands.

The group that the anchors open is closed by some parenthesis, and what stands in front of that
one is read like a text by itself (`Conformance.PatternReading.exists_groupEnd`): no item takes
the parenthesis for a character of its own, by the modules before. If it is the parenthesis of the
anchors, all is well. It can be an earlier one as well, which the text of the pattern closes
without having opened it; then the text is no pattern by itself, and the anchors hold for a part
of it only.

* `Conformance.Pattern.full_match_or_closesUnopened` – a pattern matches whole texts, or closes
  what it has not opened;
* `Conformance.Pattern.compiles_unopened` – the second happens, and a beginning of a text can
  suffice.
-/

namespace Conformance

variable {cs rest behind : List Char}

namespace PatternReading

variable {r r' : PatternReading} {around : PatternLevel} {item : PatternItem} {k : Nat}

/-! ### Readings inside of a group -/

/-- The reading with one more group around everything. -/
def within (around : PatternLevel) (r : PatternReading) : PatternReading :=
  { r with outer := r.outer ++ [around] }

/-- An item that does not end the group around everything does what it does without that group. -/
theorem take?_within (h : item = .groupEnd → r.outer ≠ []) :
    (r.within around).take? item = (r.take? item).map (within around) := by
  cases item with
  | leaf a => rfl
  | repeated least most =>
    rw [take?, take?, repeatLast?, repeatLast?, within]
    cases r.level.parts with
    | nil => rfl
    | cons part parts =>
      by_cases hpart : part.repeatable = true
      · simp [hpart, within]
      · simp [hpart]
  | bar => rfl
  | groupStart flags name =>
    cases name with
    | none => rfl
    | some name =>
      rw [take?, take?, claimName?, claimName?, within]
      by_cases hname : r.names.contains name = true
      · rw [if_pos hname, if_pos hname]
        rfl
      · rw [if_neg hname, if_neg hname]
        rfl
  | groupEnd =>
    obtain ⟨next, outer, houter⟩ := List.exists_cons_of_ne_nil (h rfl)
    simp [take?, within, houter]
  | flagChange flags => rfl

theorem readAll?_of_read?
    (hread : PatternItem.read? r.level.flags (r.level.flags.skipBlanks cs) = some (item, rest))
    (htake : r.take? item = some r') : readAll? (k + 1) r cs = readAll? k r' rest := by
  rw [readAll?]
  split
  · rename_i hnil
    rw [hnil] at hread
    cases hread
  · simp only [hread, htake]

theorem readAll?_of_loneBrace (h : PatternAtom.LoneBrace r.level.flags cs) :
    readAll? k r cs = none := by
  obtain ⟨q, rfl, hq⟩ := h
  cases k with
  | zero => rfl
  | succ k =>
    have hskip : r.level.flags.skipBlanks ('\x7b' :: q) = '\x7b' :: q := by
      rw [PatternFlags.skipBlanks]
      split <;> rfl
    have hcounts : PatternItem.readCounts? r.level.flags q = none := by
      rw [PatternItem.readCounts?, hq]
      rfl
    simp only [readAll?, hskip, PatternItem.read?, hcounts]

/-- Where nothing is left, a text ends. -/
theorem readAll?_of_blank (hblank : r.level.flags.skipBlanks cs = []) (houter : r.outer = [])
    (k : Nat) : readAll? (k + 1) r cs = some r.level.expression := by
  simp [readAll?, hblank, finish?, houter]

/-- Where no group is open, none is closed. -/
theorem readAll?_of_close (hclose : r.level.flags.skipBlanks cs = ')' :: rest)
    (houter : r.outer = []) (k : Nat) : readAll? k r cs = none := by
  cases k with
  | zero => rfl
  | succ k => simp [readAll?, hclose, PatternItem.read?, take?, houter]

/-- Where an item is read in front of a closing parenthesis, it is read at the end as well. -/
theorem readAll?_of_read?_append {mid : List Char}
    (hread : PatternItem.read? r.level.flags (r.level.flags.skipBlanks (cs ++ ')' :: behind)) =
      some (item, mid ++ ')' :: behind))
    (htake : r.take? item = some r')
    (hmid : ¬ PatternAtom.LoneBrace r'.level.flags mid) :
    mid.length < cs.length ∧ ∀ k, readAll? (k + 1) r cs = readAll? k r' mid := by
  have hsettled : PatternItem.Settled r.level.flags item mid := by
    rintro ⟨a, rfl⟩
    cases htake
    exact hmid
  have hreader := PatternItem.strict_read? r.level.flags (m := cs.length + behind.length)
    (n := cs.length)
  have hafter := LocalIf.after r.level.flags.drops_skipBlanks hreader.toLocalIf
  have hcut := hafter.cut (Nat.lt_succ_self _) (Nat.lt_succ_self _) hread hsettled
  have hskip : r.level.flags.skipBlanks cs <:+ cs := r.level.flags.drops_skipBlanks.suffix
  exact ⟨Nat.lt_of_lt_of_le (hreader.takes hcut) hskip.length_le,
    fun k => readAll?_of_read? hcut htake⟩

/-- **The end of a group** around everything. What stands in front of the closing parenthesis is
read by itself, and nothing is read beyond the parenthesis without the group; what stands behind
it is read with the group as a part. -/
structure GroupEnd (r : PatternReading) (around : PatternLevel)
    (result body : Nested (Regex RegexLeaf)) (names : List (List Char))
    (front behind : List Char) : Prop where
  /-- In front of the parenthesis, there is a pattern by itself. -/
  inside : ∀ k, front.length < k → readAll? k r front = some body
  /-- With the parenthesis, there is none. -/
  beyond : ∀ more tail k, behind = more ++ ')' :: tail → readAll? k r (front ++ ')' :: more) = none
  /-- Behind the parenthesis, the group is a part of what is around it. -/
  outside : ∃ k,
    readAll? k ⟨around.add ⟨body.value, body.depth + 1⟩, [], names⟩ behind = some result

variable {result body : Nested (Regex RegexLeaf)} {names : List (List Char)}
variable {front used : List Char}

/-- Where no other group is open, a closing parenthesis is the end. -/
theorem GroupEnd.of_close {blank : List Char} (houter : r.outer = [])
    (hclose : r.level.flags.skipBlanks (blank ++ ')' :: behind) = ')' :: behind)
    (hblank : r.level.flags.skipBlanks blank = [])
    (htake : (r.within around).take? .groupEnd = some r') (h : readAll? k r' behind = some result) :
    GroupEnd r around result r.level.expression r.names blank behind where
  inside := by
    intro k' hk'
    obtain ⟨k', rfl⟩ := Nat.exists_eq_add_of_lt hk'
    exact readAll?_of_blank hblank houter _
  beyond := by
    rintro more tail k' rfl
    have hclose' : r.level.flags.skipBlanks (blank ++ ')' :: more) = ')' :: more := by
      refine r.level.flags.drops_skipBlanks.cut (?_ : _ = (')' :: more) ++ ')' :: tail)
      rw [List.append_assoc]
      exact hclose
    exact readAll?_of_close hclose' houter k'
  outside := by
    have htake' : (r.within around).take? .groupEnd = some
        ⟨around.add ⟨r.level.expression.value, r.level.expression.depth + 1⟩, [], r.names⟩ := by
      simp [take?, within, houter]
    rw [htake', Option.some.injEq] at htake
    exact ⟨k, htake ▸ h⟩

/-- **One item more in front of the end** of a group. -/
theorem GroupEnd.of_take (hend : GroupEnd r' around result body names front behind)
    (hread : PatternItem.read? r.level.flags
      (r.level.flags.skipBlanks (used ++ (front ++ ')' :: behind))) =
        some (item, front ++ ')' :: behind))
    (htake : r.take? item = some r') :
    GroupEnd r around result body names (used ++ front) behind := by
  -- a brace in front of the end would not have been read on from
  have hlone : ¬ PatternAtom.LoneBrace r'.level.flags front := by
    intro hlone
    have hinside := hend.inside _ (Nat.lt_succ_self _)
    rw [readAll?_of_loneBrace hlone] at hinside
    cases hinside
  refine ⟨?_, ?_, hend.outside⟩
  · intro k hk
    rw [← List.append_assoc] at hread
    obtain ⟨hlength, hstep⟩ := readAll?_of_read?_append hread htake hlone
    obtain ⟨k, rfl⟩ := Nat.exists_eq_add_of_lt hk
    rw [hstep]
    exact hend.inside _ (by omega)
  · rintro more tail k rfl
    cases k with
    | zero => rfl
    | succ k =>
      have hread' : PatternItem.read? r.level.flags (r.level.flags.skipBlanks
          ((used ++ front ++ ')' :: more) ++ ')' :: tail)) =
            some (item, (front ++ ')' :: more) ++ ')' :: tail) := by
        rw [List.append_assoc used, List.append_assoc used, List.append_assoc front]
        exact hread
      obtain ⟨-, hstep⟩ := readAll?_of_read?_append hread' htake
        fun hmore => hlone (PatternAtom.loneBrace_of_append hmore)
      rw [hstep]
      exact hend.beyond more tail k rfl

/-- **A group that is open is closed, and what it holds is read like a text by itself.** Whatever is
read on with the group open, there is a closing parenthesis somewhere that ends it. -/
theorem exists_groupEnd {text : List Char} (h : readAll? k (r.within around) text = some result) :
    ∃ front behind body names, text = front ++ ')' :: behind ∧
      GroupEnd r around result body names front behind := by
  induction k generalizing r text with
  | zero => cases h
  | succ k ih =>
    rw [readAll?] at h
    split at h
    · simp [finish?, within] at h
    · split at h
      · cases h
      · rename_i item rest hread
        split at h
        · cases h
        · rename_i r₁ htake
          by_cases hend : item = .groupEnd ∧ r.outer = []
          · obtain ⟨rfl, houter⟩ := hend
            have hclose := PatternItem.eq_of_read?_groupEnd hread
            obtain ⟨blank, rfl, hblank⟩ := PatternFlags.exists_skipBlanks hclose
            exact ⟨blank, rest, _, _, rfl, .of_close houter hclose hblank htake h⟩
          · -- the item leaves the group around everything open
            rw [take?_within fun hitem houter => hend ⟨hitem, houter⟩] at htake
            obtain ⟨r₂, htaken, rfl⟩ := Option.map_eq_some_iff.mp htake
            obtain ⟨front, behind, body, names, rfl, hgroup⟩ := ih h
            have hafter := LocalIf.after r.level.flags.drops_skipBlanks
              (PatternItem.strict_read? r.level.flags (m := 0) (n := 0)).toLocalIf
            obtain ⟨used, rfl⟩ := hafter.suffix hread
            exact ⟨used ++ front, behind, body, names, (List.append_assoc ..).symm,
              hgroup.of_take hread htaken⟩

end PatternReading

/-! ### Anchored patterns -/

/-- A text **closes a parenthesis that it has not opened**: behind a pattern, there is a closing
one. -/
def ClosesUnopened (cs : List Char) : Prop :=
  ∃ front more, cs = front ++ ')' :: more ∧
    (PatternReading.readAll? (front.length + 1) .start front).isSome = true

namespace Pattern

open PatternReading

/-- The level around the group of an anchored pattern. -/
def anchorLevel : PatternLevel := (PatternLevel.start .initial).add ⟨.leaf (.look .textStart), 0⟩

theorem toList_anchor (source : String) :
    (anchor source).toList = '^' :: '(' :: '?' :: ':' :: (source.toList ++ [')', '$']) := by
  simp [anchor]

theorem readAll?_anchor (k : Nat) (cs : List Char) :
    readAll? (k + 2) .start ('^' :: '(' :: '?' :: ':' :: cs) =
      readAll? k (PatternReading.start.within anchorLevel) cs :=
  rfl

/-- Behind the group of an anchored pattern, the text has to end. -/
theorem eq_of_readAll?_dollar {k : Nat} {body result : Nested (Regex RegexLeaf)}
    {names : List (List Char)}
    (h : readAll? k ⟨anchorLevel.add body, [], names⟩ ['$'] = some result) :
    result = ⟨.cat (.leaf (.look .textStart)) (.cat body.value (.leaf (.look .textEnd))),
      body.depth + 1⟩ := by
  match k with
  | 0 => cases h
  | 1 => cases h
  | k + 2 =>
    have hread : readAll? (k + 2) ⟨anchorLevel.add body, [], names⟩ ['$'] =
        some ((anchorLevel.add body).add ⟨.leaf (.look .textEnd), 0⟩).expression := rfl
    rw [hread, Option.some.injEq] at h
    rw [← h]
    simp [PatternLevel.expression, PatternLevel.alternative, PatternLevel.add, PatternLevel.start,
      anchorLevel, Nested.gather, Nested.maxDepth, Regex.catAll, Regex.altAll]

/-- A closing parenthesis of an anchored text stands in front of the end, or in the text. -/
theorem front_eq_or {front : List Char} (h : cs ++ [')', '$'] = front ++ ')' :: behind) :
    (front = cs ∧ behind = ['$']) ∨
      ∃ more, cs = front ++ ')' :: more ∧ behind = more ++ ')' :: ['$'] := by
  rcases List.append_eq_append_iff.mp h with ⟨gap, hfront, hgap⟩ | ⟨gap, hcs, hgap⟩
  · match gap with
    | [] => exact Or.inl ⟨by simpa using hfront, (List.cons.inj hgap).2.symm⟩
    | [_] => simp at hgap
    | _ :: _ :: gap => simp at hgap
  · match gap with
    | [] => exact Or.inl ⟨by simpa using hcs.symm, (List.cons.inj hgap).2⟩
    | c :: more =>
      obtain ⟨rfl, hbehind⟩ := List.cons.inj hgap
      exact Or.inr ⟨more, hcs, hbehind⟩

/-- **Full matches.** The text of a pattern that compiles between the anchors is a pattern by
itself, and just those texts match that its expression spans as a whole; or the text of the
pattern closes a parenthesis that it has not opened, and is no pattern by itself. -/
theorem full_match_or_closesUnopened (p : Pattern) :
    (∃ r, Regex.ofPattern? p.source.toList = some r ∧
      ∀ text, p.isMatch text = true ↔ r.MatchesWhole text.toList) ∨
    (Regex.ofPattern? p.source.toList = none ∧ ClosesUnopened p.source.toList) := by
  have hcompiles := p.compiles
  rw [toList_anchor, Regex.ofPattern?] at hcompiles
  generalize p.source.toList = cs at hcompiles ⊢
  split at hcompiles
  · cases hcompiles
  · rename_i result hresult
    split at hcompiles
    · rename_i hlimits
      have hregex : result.value = p.regex := Option.some.inj hcompiles
      have hinside := hresult
      rw [List.length_cons, readAll?_anchor] at hinside
      obtain ⟨front, behind, body, names, htext, hgroup⟩ := exists_groupEnd hinside
      have hread := hgroup.inside _ (Nat.lt_succ_self _)
      obtain ⟨k, hbehind⟩ := hgroup.outside
      rcases front_eq_or htext with ⟨rfl, rfl⟩ | ⟨more, rfl, rfl⟩
      · have heq := eq_of_readAll?_dollar hbehind
        refine Or.inl ⟨body.value, ?_, ?_⟩
        · rw [heq] at hlimits
          have hdepth := of_decide_eq_true (Bool.and_eq_true_iff.mp hlimits).1
          have hsize := of_decide_eq_true (Bool.and_eq_true_iff.mp hlimits).2
          simp only [Regex.size] at hdepth hsize
          have hlimits' : body.depth ≤ patternDepthLimit ∧ body.value.size ≤ patternSizeLimit := by
            omega
          rw [Regex.ofPattern?, hread]
          exact if_pos (by simpa using hlimits')
        · intro text
          rw [isMatch, ← hregex, heq]
          exact Regex.occursIn_anchored
      · refine Or.inr ⟨?_, front, more, rfl, by rw [hread]; rfl⟩
        rw [Regex.ofPattern?, hgroup.beyond more ['$'] _ rfl]
    · cases hcompiles

/-- A bar outside of all groups comes between the anchors, and each of them holds for one side
only. -/
theorem compiles_unopened :
    ∃ p, compile? "a)|(?:b" = some p ∧ Regex.ofPattern? "a)|(?:b".toList = none ∧
      p.isMatch "ax" = true := by
  have hmatch : (Regex.ofPattern? (anchor "a)|(?:b").toList).map (·.occursIn "ax".toList) =
      some true := by
    rw [toList_anchor]
    rfl
  obtain ⟨regex, hregex, hfound⟩ := Option.map_eq_some_iff.mp hmatch
  exact ⟨⟨"a)|(?:b", regex, hregex⟩, compile?_source ⟨"a)|(?:b", regex, hregex⟩, by rfl, hfound⟩

end Pattern

end Conformance

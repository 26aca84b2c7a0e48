import Conformance.Pattern.Escape
import Conformance.Proofs.Pattern.Readers

/-!
# Escapes in front of a closing parenthesis

A closing parenthesis is no digit of a number, a name in braces is read up to its closing brace, and
the names of the sorts of word edges hold letters and hyphens only. So escapes are read in front of
a closing parenthesis as at the end of a text, with one exception. A brace behind
the letter of a word edge names a sort of edge if a letter or a hyphen follows, and begins a
repetition if anything else does. At the end of a text nothing follows, and there is no escape. An
atom is compared only if no such brace is left over.

* `Conformance.PatternAtom.LoneBrace` – a brace with nothing behind it;
* `Conformance.PatternAtom.strict_read?` – one atom is read in front of a closing parenthesis as
  at the end, unless it is a condition that leaves a lone brace.
-/

namespace Conformance

variable {m n : Nat} (flags : PatternFlags)

namespace PatternAtom

/-! ### Characters by number -/

theorem strict_readHexDigits? {k : Nat} (value : Nat)
    (ih : ∀ value, Local m n (readHexDigits? flags k value) (readHexDigits? flags k value)) :
    Strict (m + 1) (n + 1) (readHexDigits? flags (k + 1) value)
      (readHexDigits? flags (k + 1) value) := by
  refine LocalIf.cons rfl fun c => ?_
  simp only [readHexDigits?]
  cases hexDigit? c with
  | none => exact LocalIf.fail
  | some d => exact LocalIf.after flags.drops_skipBlanks (ih (value * 16 + d))

theorem local_readHexDigits? (k value : Nat) :
    Local m n (readHexDigits? flags k value) (readHexDigits? flags k value) := by
  induction k generalizing m n value with
  | zero => exact LocalIf.stop value
  | succ k ih => exact (strict_readHexDigits? flags value ih).toLocalIf.pred

theorem local_readBracedHex? (value : Option Nat) :
    Local m n (readBracedHex? flags m value) (readBracedHex? flags n value) := by
  induction m generalizing n value with
  | zero => exact LocalIf.none_left
  | succ m ih =>
    refine LocalIf.of_succ (readBracedHex? flags · value) fun n => ?_
    refine (LocalIf.head flags.drops_skipBlanks ?_ fun c => ?_).toLocalIf
    · intro cs hnil
      rw [readBracedHex?, hnil]
    · by_cases hc : c = '\x7d'
      · subst hc
        refine ⟨_, _, LocalIf.after flags.drops_skipBlanks (LocalIf.give value id), ?_⟩
        intro cs r hr
        simp only [readBracedHex?, hr, Option.map_eq_bind]
        exact ⟨rfl, rfl⟩
      · cases hd : hexDigit? c with
        | none =>
          refine ⟨_, _, LocalIf.fail, ?_⟩
          intro cs r hr
          simp [readBracedHex?, hr, hd]
        | some d =>
          refine ⟨_, _, ih (some (value.getD 0 * 16 + d)), ?_⟩
          intro cs r hr
          simp [readBracedHex?, hr, hd]

theorem local_readNumbered? (k : Nat) :
    Local m n (readNumbered? flags (k + 1)) (readNumbered? flags (k + 1)) := by
  refine (LocalIf.head flags.drops_skipBlanks ?_ fun c => ?_).toLocalIf.pred
  · intro cs hnil
    rw [readNumbered?, hnil]
  · by_cases hc : c = '\x7b'
    · subst hc
      refine ⟨_, _, LocalIf.choose charOf? (literal · false)
        (LocalIf.full fun _ _ => local_readBracedHex? flags none) fun _ _ => trivial, ?_⟩
      intro cs r hr
      rw [readNumbered?, hr]
      exact ⟨rfl, rfl⟩
    · have hdigits : Local m n (fun r => readHexDigits? flags (k + 1) 0 (c :: r)) _ :=
        (strict_readHexDigits? flags 0 (local_readHexDigits? flags k)).next c
      refine ⟨_, _, LocalIf.choose charOf? (literal · (k + 1 == 2)) hdigits fun _ _ => trivial, ?_⟩
      intro cs r hr
      simp [readNumbered?, hr, hc]

/-! ### Properties -/

theorem local_readBracedName? :
    Local m n (readBracedName? flags m) (readBracedName? flags n) := by
  induction m generalizing n with
  | zero => exact LocalIf.none_left
  | succ m ih =>
    refine LocalIf.of_succ (readBracedName? flags ·) fun n => ?_
    refine (LocalIf.head flags.drops_skipBlanks ?_ fun c => ?_).toLocalIf
    · intro cs hnil
      rw [readBracedName?, hnil]
    · by_cases hc : c = '\x7d'
      · subst hc
        refine ⟨_, _, LocalIf.stop [], ?_⟩
        intro cs r hr
        simp [readBracedName?, hr]
      · refine ⟨_, _, LocalIf.map (c :: ·) ih fun _ => trivial, ?_⟩
        intro cs r hr
        simp [readBracedName?, hr]

theorem local_readProperty? (negated : Bool) :
    Local m n (readProperty? flags negated) (readProperty? flags negated) := by
  refine (LocalIf.head flags.drops_skipBlanks ?_ fun c => ?_).toLocalIf.pred
  · intro cs hnil
    rw [readProperty?, hnil]
  · by_cases hbrace : c = '\x7b'
    · subst hbrace
      refine ⟨_, _, LocalIf.choose namedProperty? (property · negated)
        (LocalIf.full fun _ _ => local_readBracedName? flags) fun _ _ => trivial, ?_⟩
      intro cs r hr
      rw [readProperty?, hr]
      exact ⟨rfl, rfl⟩
    · by_cases hback : c = '\\'
      · subst hback
        refine ⟨_, _, LocalIf.fail, ?_⟩
        intro cs r hr
        simp [readProperty?, hr]
      · refine ⟨_, _, LocalIf.after flags.drops_skipBlanks
          (LocalIf.give (Unicode.property? (String.singleton c)) (property · negated)), ?_⟩
        intro cs r hr
        simp [readProperty?, hr]

/-! ### Conditions on words -/

theorem local_readEdgeName :
    Local m n (fun cs => some (readEdgeName flags m cs))
      (fun cs => some (readEdgeName flags n cs)) := by
  induction m generalizing n with
  | zero => exact LocalIf.of_stop []
  | succ m ih =>
    refine LocalIf.of_succ (fun n cs => some (readEdgeName flags n cs)) fun n => ?_
    refine LocalIf.branch flags.drops_skipBlanks (isEdgeNameChar · = true) ?_ (LocalIf.stop []) ?_
      le_rfl le_rfl
    · intro c hc
      refine ⟨_, _, LocalIf.map (c :: ·) ih fun _ => trivial, ?_⟩
      intro cs r hr
      simp [readEdgeName, hr, hc]
    · intro cs hhead
      cases hr : flags.skipBlanks cs with
      | nil => simp [readEdgeName, hr]
      | cons c r =>
        have hc : ¬ isEdgeNameChar c = true := hhead c (by rw [hr]; rfl)
        simp [readEdgeName, hr, hc]

/-- The closing brace behind the name of a sort of word edge. -/
def closeEdge? (name : List Char) : List Char → Option (WordEdge × List Char)
  | '\x7d' :: rest => (wordEdge? name).map fun edge => (edge, rest)
  | _ => none

theorem closeEdge?_nil (cs : List Char) : closeEdge? [] cs = none := by
  rw [closeEdge?.eq_def]
  split
  · rfl
  · rfl

theorem local_closeEdge? (name : List Char) : Local m n (closeEdge? name) (closeEdge? name) := by
  refine (LocalIf.expect '\x7d' rfl ?_ ?_).toLocalIf.pred
  · intro c r hc
    simp [closeEdge?, hc]
  · simp only [closeEdge?, Option.map_eq_bind]
    exact LocalIf.give (wordEdge? name) id

/-- The name of a sort of word edge, up to and including the closing brace. -/
def readBracedEdge? (cs : List Char) : Option (WordEdge × List Char) :=
  (some (readEdgeName flags (cs.length + 1) cs)).bind fun p => closeEdge? p.1 p.2

theorem local_readBracedEdge? : Local m n (readBracedEdge? flags) (readBracedEdge? flags) :=
  LocalIf.bind (LocalIf.full fun _ _ => local_readEdgeName flags) local_closeEdge?
    fun _ _ => trivial

/-- A name begins here. -/
def BeginsName (cs : List Char) : Prop :=
  ∃ c r, flags.skipBlanks cs = c :: r ∧ isEdgeNameChar c = true

theorem beginsName_of_readBracedEdge? {cs rest : List Char} {edge : WordEdge}
    (h : readBracedEdge? flags cs = some (edge, rest)) : BeginsName flags cs := by
  by_contra hnone
  have hname : (readEdgeName flags (cs.length + 1) cs).1 = [] := by
    rw [readEdgeName]
    cases hr : flags.skipBlanks cs with
    | nil => rfl
    | cons c r =>
      have hc : ¬ isEdgeNameChar c = true := fun hc => hnone ⟨c, r, hr, hc⟩
      simp [hc]
  rw [readBracedEdge?, Option.bind_some, hname, closeEdge?_nil] at h
  cases h

/-- A brace with nothing behind it that counts. -/
def LoneBrace (cs : List Char) : Prop := ∃ r, cs = '\x7b' :: r ∧ flags.skipBlanks r = []

variable {flags} {cs : List Char}

theorem readWordEdge?_of_name (h : BeginsName flags cs) :
    readWordEdge? flags ('\x7b' :: cs) = readBracedEdge? flags cs := by
  obtain ⟨c, r, hr, hc⟩ := h
  simp only [readWordEdge?, hr, hc, if_true]
  rfl

theorem readWordEdge?_of_loneBrace (h : LoneBrace flags cs) : readWordEdge? flags cs = none := by
  obtain ⟨r, rfl, hr⟩ := h
  simp only [readWordEdge?, hr]

theorem loneBrace_of_append {rest : List Char} (h : LoneBrace flags (cs ++ ')' :: rest)) :
    LoneBrace flags cs := by
  obtain ⟨r, hcs, hr⟩ := h
  cases cs with
  | nil => cases hcs
  | cons c cs =>
    rw [List.cons_append] at hcs
    obtain ⟨rfl, rfl⟩ := List.cons.inj hcs
    refine ⟨cs, rfl, ?_⟩
    by_contra hleft
    rw [PatternFlags.skipBlanks_append hleft] at hr
    exact hleft (List.append_eq_nil_iff.mp hr).1

theorem readWordEdge?_of_not (hlone : ¬ LoneBrace flags cs)
    (hname : ∀ r, cs = '\x7b' :: r → ¬ BeginsName flags r) :
    readWordEdge? flags cs = some (.boundary, cs) := by
  by_cases hbrace : ∃ r, cs = '\x7b' :: r
  · obtain ⟨r, rfl⟩ := hbrace
    cases hr : flags.skipBlanks r with
    | nil => exact absurd ⟨r, rfl, hr⟩ hlone
    | cons c r' =>
      have hc : ¬ isEdgeNameChar c = true := fun hc => hname r rfl ⟨c, r', hr, hc⟩
      simp [readWordEdge?, hr, hc]
  · rw [readWordEdge?]
    exact fun r hr => hbrace ⟨r, hr⟩

/-- What a brace behind the letter of a word edge means is seen at the next character, so there
has to be one. -/
theorem local_readWordEdge? :
    LocalIf (fun _ rest => ¬ LoneBrace flags rest) m n (readWordEdge? flags)
      (readWordEdge? flags) where
  suffix := by
    intro cs edge rest h
    by_cases hname : ∃ r, cs = '\x7b' :: r ∧ BeginsName flags r
    · obtain ⟨r, rfl, hname⟩ := hname
      rw [readWordEdge?_of_name hname] at h
      have hrest := (local_readBracedEdge? (m := 0) (n := 0) flags).suffix h
      exact hrest.trans (List.suffix_cons _ r)
    · by_cases hlone : LoneBrace flags cs
      · rw [readWordEdge?_of_loneBrace hlone] at h
        cases h
      · rw [readWordEdge?_of_not hlone fun r hr hb => hname ⟨r, hr, hb⟩] at h
        cases h
        exact List.suffix_rfl
  cut := by
    intro cs behind edge rest hm hn h hlone
    by_cases hname : ∃ r, cs ++ ')' :: behind = '\x7b' :: r ∧ BeginsName flags r
    · -- the name ends in front of the parenthesis, so it begins there
      obtain ⟨r, hr, hname⟩ := hname
      cases cs with
      | nil => cases hr
      | cons c cs =>
        rw [List.cons_append] at hr h
        obtain ⟨rfl, rfl⟩ := List.cons.inj hr
        rw [readWordEdge?_of_name hname] at h
        rw [List.length_cons] at hm hn
        have hbraced := (local_readBracedEdge? flags (m := m) (n := n)).cut (by omega) (by omega) h
          trivial
        rw [readWordEdge?_of_name (beginsName_of_readBracedEdge? flags hbraced)]
        exact hbraced
    · -- the brace is left as it stands, and `hlone` says that it is not the last thing
      have hlone' : ¬ LoneBrace flags (cs ++ ')' :: behind) := by
        intro hlone'
        rw [readWordEdge?_of_loneBrace hlone'] at h
        cases h
      rw [readWordEdge?_of_not hlone' fun r hr hb => hname ⟨r, hr, hb⟩, Option.some.injEq,
        Prod.mk.injEq] at h
      obtain ⟨rfl, hcs⟩ := h
      rw [← List.append_cancel_right hcs] at hlone ⊢
      refine readWordEdge?_of_not hlone ?_
      rintro r rfl ⟨c, r', hr, hc⟩
      refine hname ⟨r ++ ')' :: behind, rfl, c, r' ++ ')' :: behind, ?_, hc⟩
      rw [PatternFlags.skipBlanks_append (by simp [hr]), hr, List.cons_append]

/-! ### Escapes -/

variable (flags) in
/-- No brace that goes with a condition on words stands alone in front of the end. -/
def Settled (atom : PatternAtom) (rest : List Char) : Prop :=
  (∃ look, atom = .condition look) → ¬ LoneBrace flags rest

variable (flags) in
theorem strict_readEscape? :
    StrictIf (Settled flags) (m + 1) (n + 1) (readEscape? flags) (readEscape? flags) := by
  refine LocalIf.cons rfl fun c => ?_
  by_cases hletter : c ∈ ['x', 'u', 'U', 'p', 'P', 'b']
  · simp only [List.mem_cons, List.not_mem_nil, or_false] at hletter
    rcases hletter with rfl | rfl | rfl | rfl | rfl | rfl
    · exact (local_readNumbered? flags 1).weaken fun _ => trivial
    · exact (local_readNumbered? flags 3).weaken fun _ => trivial
    · exact (local_readNumbered? flags 7).weaken fun _ => trivial
    · exact (local_readProperty? flags false).weaken fun _ => trivial
    · exact (local_readProperty? flags true).weaken fun _ => trivial
    · exact LocalIf.map (fun edge => condition (.word edge flags.unicode)) local_readWordEdge?
        fun h => h ⟨_, rfl⟩
  · have hread : ∀ r, readEscape? flags (c :: r) =
        if isMark c then some (literal c false, r)
        else (control? c).elim
          ((letterCondition? flags.unicode c).elim
            ((letterClass? flags.unicode c).bind fun atom => some (atom, r))
            fun look => some (condition look, r))
          fun k => some (literal k false, r) := by
      intro r
      rewrite [readEscape?, Option.map_eq_bind]
      · cases control? c with
        | some k => rfl
        | none => cases letterCondition? flags.unicode c <;> rfl
      all_goals
        rintro rfl
        simp at hletter
    refine LocalIf.congr ?_ hread hread
    split
    · exact LocalIf.stop _
    · cases control? c with
      | some k => exact LocalIf.stop _
      | none =>
        cases letterCondition? flags.unicode c with
        | some look => exact LocalIf.stop _
        | none => exact LocalIf.give _ id

variable (flags) in
/-- **Atoms in front of a closing parenthesis** are read as at the end. -/
theorem strict_read? :
    StrictIf (Settled flags) (m + 1) (n + 1) (PatternAtom.read? flags)
      (PatternAtom.read? flags) := by
  refine LocalIf.cons rfl fun c => ?_
  by_cases hc : c = '\\'
  · subst hc
    exact (strict_readEscape? flags).toLocalIf.pred
  · have hread : ∀ r, PatternAtom.read? flags (c :: r) = some (literal c false, r) := by
      intro r
      simp [PatternAtom.read?]
    exact (LocalIf.stop (literal c false)).congr hread hread

end PatternAtom

end Conformance

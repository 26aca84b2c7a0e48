import Conformance.Pattern.Reading
import Conformance.Proofs.Pattern.Sets

/-!
# Items in front of a closing parenthesis

The items of a pattern are its leaves, its marks between them, and what opens and closes its
groups. A closing parenthesis is an item of its own, and besides it may end a list of flags, which
then opens no group. What is left of a pattern has another closing parenthesis still, so neither
is the one in front of which the items are compared. As a leaf may be a condition on words, it
must not leave a lone brace.

* `Conformance.PatternItem.strict_read?` – one item is read in front of a closing parenthesis as
  at the end, unless it is a leaf that leaves a lone brace;
* `Conformance.PatternItem.eq_of_read?_groupEnd` – only a closing parenthesis ends a group.
-/

namespace Conformance

variable {m n : Nat} (flags : PatternFlags) {cs rest behind : List Char}

/-! ### Flags -/

namespace PatternFlags

/-- What one character of a list of flags can do: break the list off, end it, or lead on. -/
theorem readList?_cons (met : List PatternFlag) (off hyphenLast : Bool) (c : Char) :
    (∀ r, readList? flags met off hyphenLast (c :: r) = none) ∨
      (∃ list, ∀ r, readList? flags met off hyphenLast (c :: r) = some (list, r)) ∨
      ∃ flags' met' off' hyphenLast', ∀ r,
        readList? flags met off hyphenLast (c :: r) = readList? flags' met' off' hyphenLast' r := by
  by_cases hmark : c ∈ [')', ':', '-']
  · simp only [List.mem_cons, List.not_mem_nil, or_false] at hmark
    rcases hmark with rfl | rfl | rfl
    · cases hyphenLast with
      | true => exact Or.inl fun r => rfl
      | false => exact Or.inr (Or.inl ⟨_, fun r => rfl⟩)
    · cases hyphenLast with
      | true => exact Or.inl fun r => rfl
      | false => exact Or.inr (Or.inl ⟨_, fun r => rfl⟩)
    · cases off with
      | true => exact Or.inl fun r => rfl
      | false => exact Or.inr (Or.inr ⟨flags, met, true, true, fun r => rfl⟩)
  · have hread : ∀ r, readList? flags met off hyphenLast (c :: r) =
        (PatternFlag.ofLetter? c).elim none fun flag =>
          if met.contains flag then none
          else readList? (flags.set flag !off) (flag :: met) off false r := by
      intro r
      rewrite [readList?]
      · cases PatternFlag.ofLetter? c <;> rfl
      all_goals
        rintro rfl
        simp at hmark
    cases hflag : PatternFlag.ofLetter? c with
    | none => exact Or.inl fun r => by rw [hread, hflag, Option.elim_none]
    | some flag =>
      by_cases hmet : met.contains flag = true
      · exact Or.inl fun r => by rw [hread, hflag, Option.elim_some, if_pos hmet]
      · exact Or.inr (Or.inr ⟨_, _, _, _, fun r => by rw [hread, hflag]; exact if_neg hmet⟩)

theorem readList?_suffix {met : List PatternFlag} {off hyphenLast : Bool} {list : FlagList}
    (h : readList? flags met off hyphenLast cs = some (list, rest)) : rest <:+ cs := by
  induction cs generalizing flags met off hyphenLast with
  | nil => cases h
  | cons c cs ih =>
    rcases readList?_cons flags met off hyphenLast c with
      hread | ⟨list', hread⟩ | ⟨_, _, _, _, hread⟩
    · rw [hread] at h
      cases h
    · rw [hread] at h
      cases h
      exact List.suffix_cons c rest
    · rw [hread] at h
      exact (ih _ h).trans (List.suffix_cons c cs)

theorem strict_readList? (met : List PatternFlag) (off hyphenLast : Bool)
    (ih : ∀ flags met off hyphenLast,
      Local m n (readList? flags met off hyphenLast) (readList? flags met off hyphenLast)) :
    Strict (m + 1) (n + 1) (readList? flags met off hyphenLast)
      (readList? flags met off hyphenLast) := by
  refine LocalIf.cons rfl fun c => ?_
  rcases readList?_cons flags met off hyphenLast c with hread | ⟨list, hread⟩ | ⟨_, _, _, _, hread⟩
  · exact LocalIf.fail.congr hread hread
  · exact (LocalIf.stop list).congr hread hread
  · exact (ih _ _ _ _).congr hread hread

theorem local_readList? (met : List PatternFlag) (off hyphenLast : Bool) :
    Local m n (readList? flags met off hyphenLast) (readList? flags met off hyphenLast) := by
  induction m generalizing n flags met off hyphenLast with
  | zero => exact LocalIf.of_suffix fun h => readList?_suffix flags h
  | succ m ih =>
    refine LocalIf.of_succ (fun _ => readList? flags met off hyphenLast) fun n => ?_
    exact (strict_readList? flags met off hyphenLast ih).toLocalIf

theorem strict_read? :
    Strict (m + 1) (n + 1) (PatternFlags.read? flags) (PatternFlags.read? flags) :=
  strict_readList? flags [] false false local_readList?

end PatternFlags

namespace PatternItem

/-! ### Groups -/

/-- A name of a group, if the characters can be one. -/
def groupName? : List Char → Option (List Char)
  | c :: name =>
    if isGroupNameChar true c && name.all (isGroupNameChar false) then some (c :: name) else none
  | [] => none

theorem readGroupName?_eq : readGroupName? cs =
    (Brackets.readUntil '>' cs).bind fun p =>
      (groupName? p.1).bind fun name => some (name, p.2) := by
  rw [readGroupName?, Brackets.readUntil]
  cases hr : cs.dropWhile (· != '>') with
  | nil => cases cs.takeWhile (· != '>') <;> rfl
  | cons c r =>
    obtain rfl : c = '>' := Brackets.eq_of_dropWhile_ne hr
    cases cs.takeWhile (· != '>') with
    | nil => rfl
    | cons c name =>
      simp only [groupName?, Option.bind_some]
      split
      · rfl
      · rfl

theorem strict_readGroupName? : Strict m n readGroupName? readGroupName? := by
  have hname : Strict m n _ _ :=
    (Brackets.strict_readUntil '>').bind (fun name => LocalIf.give (groupName? name) id)
      fun _ _ => trivial
  exact hname.congr (fun _ => readGroupName?_eq) (fun _ => readGroupName?_eq)

/-- What a list of flags behind a question mark makes of a group. -/
def ofFlagList? (list : PatternFlags.FlagList) : Option PatternItem :=
  match list.listEnd with
  | .colon => some (.groupStart list.flags none)
  | .close => if list.isEmpty then none else some (.flagChange list.flags)

/-- What follows an opening angle bracket at the start of a group: a name, for there are no groups
that look back. -/
def readNamedGroup? (cs : List Char) : Option (PatternItem × List Char) :=
  match cs with
  | '=' :: _ | '!' :: _ => none
  | cs => (readGroupName? cs).map fun p => (.groupStart flags (some p.1), p.2)

/-- What follows the question mark behind an opening parenthesis. -/
def readGroupKind? (cs : List Char) : Option (PatternItem × List Char) :=
  match cs with
  | '<' :: rest => readNamedGroup? flags rest
  | 'P' :: '<' :: rest => (readGroupName? rest).map fun p => (.groupStart flags (some p.1), p.2)
  | rest => (PatternFlags.read? flags rest).bind fun p =>
      (ofFlagList? p.1).bind fun item => some (item, p.2)

theorem local_readNamedGroup? : Local m n (readNamedGroup? flags) (readNamedGroup? flags) := by
  refine (LocalIf.cons rfl fun c => ?_).toLocalIf.pred
  by_cases hlook : c = '=' ∨ c = '!'
  · rcases hlook with rfl | rfl
    · exact LocalIf.fail
    · exact LocalIf.fail
  · have hread : ∀ r, readNamedGroup? flags (c :: r) =
        (readGroupName? (c :: r)).map fun p => (.groupStart flags (some p.1), p.2) := by
      intro r
      rw [readNamedGroup?]
      · intro tail hcons
        exact hlook (Or.inl (List.cons.inj hcons).1)
      · intro tail hcons
        exact hlook (Or.inr (List.cons.inj hcons).1)
    exact (LocalIf.map (fun name => PatternItem.groupStart flags (some name))
      (strict_readGroupName?.next c) fun _ => trivial).congr hread hread

theorem local_readGroupKind? : Local m n (readGroupKind? flags) (readGroupKind? flags) := by
  have hflags : Strict (m + 1) (n + 1) (fun cs => (PatternFlags.read? flags cs).bind fun p =>
      (ofFlagList? p.1).bind fun item => some (item, p.2)) _ :=
    StrictIf.bind (PatternFlags.strict_read? flags) (fun list => LocalIf.give (ofFlagList? list) id)
      fun _ _ => trivial
  refine (LocalIf.cons rfl fun c => ?_).toLocalIf.pred
  by_cases hangle : c = '<'
  · subst hangle
    exact local_readNamedGroup? flags
  · by_cases hcapital : c = 'P'
    · subst hcapital
      refine (LocalIf.expect '<' rfl ?_ ?_).toLocalIf.pred
      · -- the letter is none of a flag, so there is no list of flags here
        intro c r hc
        simp [readGroupKind?, hc, PatternFlags.read?, PatternFlags.readList?, PatternFlag.ofLetter?]
      · exact LocalIf.map (fun name => PatternItem.groupStart flags (some name))
          strict_readGroupName?.toLocalIf fun _ => trivial
    · have hread : ∀ r, readGroupKind? flags (c :: r) =
          (PatternFlags.read? flags (c :: r)).bind fun p =>
            (ofFlagList? p.1).bind fun item => some (item, p.2) := by
        intro r
        simp [readGroupKind?, hangle, hcapital]
      exact (hflags.next c).congr hread hread

theorem readGroupStart?_question {r : List Char} (hr : flags.skipBlanks cs = '?' :: r) :
    readGroupStart? flags cs = readGroupKind? flags r := by
  rw [readGroupStart?, hr]
  split
  -- the forms that their first characters decide
  any_goals
    rename_i heq
    cases heq
    rfl
  · rename_i hequals hbang heq
    cases heq
    rw [readGroupKind?, readNamedGroup?]
    · exact hequals
    · exact hbang
  · rename_i hcapital hangle heq
    obtain rfl := (List.cons.inj heq).2
    have hkind : readGroupKind? flags r = (PatternFlags.read? flags r).bind fun p =>
        (ofFlagList? p.1).bind fun item => some (item, p.2) := by
      rw [readGroupKind?]
      · exact hangle
      · exact hcapital
    rw [hkind]
    cases PatternFlags.read? flags r with
    | none => rfl
    | some p =>
      obtain ⟨⟨changed, isEmpty, listEnd⟩, rest⟩ := p
      cases listEnd with
      | colon => rfl
      | close => cases isEmpty <;> rfl
  · rename_i hquestion
    exact absurd rfl (hquestion r)

theorem local_readGroupStart? : Local m n (readGroupStart? flags) (readGroupStart? flags) := by
  refine LocalIf.branch flags.drops_skipBlanks (· = '?') ?_
    (LocalIf.stop (.groupStart flags none)) ?_ (Nat.le_succ m) (Nat.le_succ n)
  · rintro c rfl
    refine ⟨_, _, local_readGroupKind? flags, ?_⟩
    intro cs r hr
    exact ⟨readGroupStart?_question flags hr, readGroupStart?_question flags hr⟩
  · intro cs hhead
    have hread : readGroupStart? flags cs = some (.groupStart flags none, flags.skipBlanks cs) := by
      cases hr : flags.skipBlanks cs with
      | nil => simp [readGroupStart?, hr]
      | cons c r =>
        have hc : ¬ c = '?' := hhead c (by rw [hr]; rfl)
        simp [readGroupStart?, hr, hc]
    exact ⟨hread, hread⟩

/-! ### Repetitions -/

theorem drops_of_local {d : List Char → List Char}
    (hd : ∀ m n, Local m n (fun cs => some ((), d cs)) (fun cs => some ((), d cs))) : Drops d := by
  constructor
  · intro cs
    exact (hd 0 0).suffix rfl
  · intro cs behind rest h
    have hcut := (hd _ _).cut (x := ()) (Nat.lt_succ_self (cs.length + behind.length))
      (Nat.lt_succ_self cs.length) (by rw [h]) trivial
    exact (Prod.mk.inj (Option.some.inj hcut)).2

theorem drops_dropShort : Drops dropShort := by
  refine drops_of_local fun m n => ?_
  refine LocalIf.branch drops_id (· = '?') ?_ (LocalIf.stop ()) ?_ (Nat.le_succ m) (Nat.le_succ n)
  · rintro c rfl
    refine ⟨_, _, LocalIf.stop (), ?_⟩
    rintro cs r rfl
    exact ⟨rfl, rfl⟩
  · intro cs hhead
    rw [id, dropShort]
    · exact ⟨rfl, rfl⟩
    · rintro r rfl
      exact hhead '?' rfl rfl

theorem local_readCountDigits (value : Option Nat) :
    Local m (n + 1) (fun cs => some (readCountDigits flags m value cs))
      (fun cs => some (readCountDigits flags n value cs)) := by
  induction m generalizing n value with
  | zero => exact LocalIf.of_stop value
  | succ m ih =>
    refine LocalIf.of_nil (fun n cs => some (readCountDigits flags n value cs)) rfl fun n => ?_
    refine LocalIf.branch drops_id (·.isDigit = true) ?_ (LocalIf.stop value) ?_ le_rfl le_rfl
    · intro c hc
      refine ⟨_, _, LocalIf.after flags.drops_skipBlanks
        (ih (some (value.getD 0 * 10 + (c.toNat - 48)))), ?_⟩
      rintro cs r rfl
      simp [readCountDigits, hc]
    · intro cs hhead
      cases cs with
      | nil => exact ⟨rfl, rfl⟩
      | cons c r =>
        have hc : ¬ c.isDigit = true := hhead c rfl
        simp [readCountDigits, hc]

theorem local_dropSpace :
    Local m (n + 1) (fun cs => some ((), dropSpace flags m cs))
      (fun cs => some ((), dropSpace flags n cs)) := by
  induction m generalizing n with
  | zero => exact LocalIf.of_stop ()
  | succ m ih =>
    refine LocalIf.of_nil (fun n cs => some ((), dropSpace flags n cs)) rfl fun n => ?_
    refine LocalIf.branch drops_id (Text.isWhiteSpace · = true) ?_ (LocalIf.stop ()) ?_
      le_rfl le_rfl
    · intro c hc
      refine ⟨_, _, LocalIf.after flags.drops_skipBlanks ih, ?_⟩
      rintro cs r rfl
      simp [dropSpace, hc]
    · intro cs hhead
      cases cs with
      | nil => exact ⟨rfl, rfl⟩
      | cons c r =>
        have hc : ¬ Text.isWhiteSpace c = true := hhead c rfl
        simp [dropSpace, hc]

theorem drops_dropSpace : Drops fun cs => dropSpace flags cs.length cs :=
  drops_of_local fun _ _ => LocalIf.full_length fun _ _ => local_dropSpace flags

/-- What comes behind the digits of a count, which must not be too great. -/
def readCountEnd? (value : Option Nat) : Reader (Option Nat) := fun cs =>
  if value.all (· ≤ maxCount) then some (value, dropSpace flags cs.length cs) else none

theorem local_readCountEnd? (value : Option Nat) :
    Local m n (readCountEnd? flags value) (readCountEnd? flags value) := by
  unfold readCountEnd?
  split
  · exact LocalIf.after (drops_dropSpace flags) (LocalIf.stop value)
  · exact LocalIf.fail

theorem local_readCount? : Local m n (readCount? flags) (readCount? flags) := by
  have hcount : Local m n _ _ :=
    LocalIf.bind (LocalIf.full_length fun _ _ => local_readCountDigits flags none)
      (local_readCountEnd? flags) fun _ _ => trivial
  have hblank := LocalIf.after (drops_dropWhile Text.isWhiteSpace) hcount
  exact hblank

theorem strict_readCountsEnd? (least : Nat) (most : Option Nat) :
    Strict (m + 1) (n + 1) (readCountsEnd? flags least most) (readCountsEnd? flags least most) := by
  refine LocalIf.expect '\x7d' rfl ?_ ?_
  · intro c r hc
    simp [readCountsEnd?, hc]
  · simp only [readCountsEnd?]
    split
    · exact LocalIf.after flags.drops_skipBlanks (LocalIf.after drops_dropShort (LocalIf.stop _))
    · exact LocalIf.fail

/-- What follows the least count of a repetition. -/
def readMostCount? (least : Nat) (cs : List Char) : Option (PatternItem × List Char) :=
  match cs with
  | ',' :: rest =>
    match flags.skipBlanks rest with
    | '\x7d' :: rest => readCountsEnd? flags least none ('\x7d' :: rest)
    | rest =>
      (readCount? flags rest).bind fun p =>
        p.1.bind fun most => readCountsEnd? flags least (some most) p.2
  | rest => readCountsEnd? flags least (some least) rest

theorem local_readMostCount? (least : Nat) :
    Local m n (readMostCount? flags least) (readMostCount? flags least) := by
  have hmost : Local m n (fun cs => (readCount? flags cs).bind fun p =>
      p.1.bind fun most => readCountsEnd? flags least (some most) p.2) _ :=
    LocalIf.bind (local_readCount? flags) (fun count => LocalIf.withOption count fun most =>
      (strict_readCountsEnd? flags least (some most)).toLocalIf.pred) fun _ _ => trivial
  have hend : ∀ most, Strict (m + 1) (n + 1) (readCountsEnd? flags least most) _ :=
    strict_readCountsEnd? flags least
  have hcomma : Local m n (fun cs => readMostCount? flags least (',' :: cs))
      (fun cs => readMostCount? flags least (',' :: cs)) := by
    refine LocalIf.branch flags.drops_skipBlanks (· = '\x7d') ?_ hmost ?_
      (Nat.le_succ m) (Nat.le_succ n)
    · rintro c rfl
      refine ⟨_, _, (hend none).next '\x7d', ?_⟩
      intro cs r hr
      simp [readMostCount?, hr]
    · intro cs hhead
      rw [readMostCount?]
      split
      · rename_i r hr
        exact absurd rfl (hhead '\x7d' (by rw [hr]; rfl))
      · exact ⟨rfl, rfl⟩
  refine LocalIf.branch drops_id (· = ',') ?_ (hend (some least)).toLocalIf.pred ?_ (Nat.le_succ m)
    (Nat.le_succ n)
  · rintro c rfl
    refine ⟨_, _, hcomma, ?_⟩
    rintro cs r rfl
    exact ⟨rfl, rfl⟩
  · intro cs hhead
    rw [id, readMostCount?]
    · exact ⟨rfl, rfl⟩
    · rintro r rfl
      exact hhead ',' rfl rfl

theorem readCounts?_eq : readCounts? flags cs =
    (readCount? flags (flags.skipBlanks cs)).bind fun p =>
      p.1.bind fun least => readMostCount? flags least p.2 := rfl

theorem local_readCounts? : Local m n (readCounts? flags) (readCounts? flags) := by
  have hcounts : Local m n _ _ :=
    LocalIf.bind (local_readCount? flags)
      (fun count => LocalIf.withOption count (local_readMostCount? flags)) fun _ _ => trivial
  have hblank := LocalIf.after flags.drops_skipBlanks hcounts
  exact hblank

/-! ### Items -/

/-- No brace that goes with a leaf stands alone in front of the end. -/
def Settled (item : PatternItem) (rest : List Char) : Prop :=
  (∃ a, item = .leaf a) → ¬ PatternAtom.LoneBrace flags rest

/-- **Items in front of a closing parenthesis** are read as at the end. -/
theorem strict_read? :
    StrictIf (Settled flags) (m + 1) (n + 1) (PatternItem.read? flags)
      (PatternItem.read? flags) := by
  refine LocalIf.cons rfl fun c => ?_
  by_cases hmark : c ∈ ['(', ')', '|', '[', '?', '*', '+', '\x7b', '.', '^', '$']
  · simp only [List.mem_cons, List.not_mem_nil, or_false] at hmark
    rcases hmark with rfl | rfl | rfl | rfl | rfl | rfl | rfl | rfl | rfl | rfl | rfl
    · exact (local_readGroupStart? flags).weaken fun _ => trivial
    · exact LocalIf.stop _
    · exact LocalIf.stop _
    · exact LocalIf.map (fun set => leaf ⟨.char set.value, set.depth⟩) (Brackets.local_read? flags)
        fun _ => trivial
    · simp only [read?]
      exact LocalIf.after drops_dropShort (LocalIf.stop _)
    · simp only [read?]
      exact LocalIf.after drops_dropShort (LocalIf.stop _)
    · simp only [read?]
      exact LocalIf.after drops_dropShort (LocalIf.stop _)
    · exact (local_readCounts? flags).weaken fun _ => trivial
    · simp only [read?, Option.map_eq_bind]
      exact LocalIf.give (dot? flags) fun set => leaf ⟨.char set, 0⟩
    · exact LocalIf.stop _
    · exact LocalIf.stop _
  · have hread : ∀ r, PatternItem.read? flags (c :: r) =
        (PatternAtom.read? flags (c :: r)).bind fun p =>
          (p.1.leaf? flags).bind fun a => some (leaf ⟨a, 0⟩, p.2) := by
      intro r
      rw [PatternItem.read?]
      · cases PatternAtom.read? flags (c :: r) with
        | none => rfl
        | some p => simp only [Option.bind_some, Option.map_eq_bind, Function.comp_def]
      all_goals
        intros
        rename_i hcons
        cases hcons
      all_goals simp at hmark
    refine LocalIf.congr ?_ hread hread
    refine LocalIf.choose (PatternAtom.leaf? flags) (fun a => leaf ⟨a, 0⟩)
      ((PatternAtom.strict_read? flags).next c) ?_
    rintro atom a rest - hsettled -
    exact hsettled ⟨_, rfl⟩

/-! ### The end of a group -/

variable {flags} {item : PatternItem}

theorem ne_groupEnd_of_readGroupStart? (h : readGroupStart? flags cs = some (item, rest)) :
    item ≠ .groupEnd := by
  rintro rfl
  rw [readGroupStart?] at h
  split at h
  · cases h
  · cases h
  · cases h
  · cases h
  · simp at h
  · simp at h
  · split at h
    · cases h
    · split at h
      · cases h
      · split at h <;> cases h
  · cases h

theorem ne_groupEnd_of_readCountsEnd? {least : Nat} {most : Option Nat}
    (h : readCountsEnd? flags least most cs = some (item, rest)) : item ≠ .groupEnd := by
  rintro rfl
  rw [readCountsEnd?.eq_def] at h
  split at h
  · split at h <;> cases h
  · cases h

theorem ne_groupEnd_of_readCounts? (h : readCounts? flags cs = some (item, rest)) :
    item ≠ .groupEnd := by
  rw [readCounts?_eq] at h
  obtain ⟨⟨least, mid⟩, -, h⟩ := Option.bind_eq_some_iff.mp h
  obtain ⟨least, -, h⟩ := Option.bind_eq_some_iff.mp h
  rw [readMostCount?.eq_def] at h
  split at h
  · split at h
    · exact ne_groupEnd_of_readCountsEnd? h
    · obtain ⟨⟨most, mid⟩, -, h⟩ := Option.bind_eq_some_iff.mp h
      obtain ⟨most, -, h⟩ := Option.bind_eq_some_iff.mp h
      exact ne_groupEnd_of_readCountsEnd? h
  · exact ne_groupEnd_of_readCountsEnd? h

/-- **Only a closing parenthesis ends a group.** -/
theorem eq_of_read?_groupEnd (h : PatternItem.read? flags cs = some (.groupEnd, rest)) :
    cs = ')' :: rest := by
  rw [PatternItem.read?.eq_def] at h
  split at h
  · cases h
  · exact absurd rfl (ne_groupEnd_of_readGroupStart? h)
  · cases h
    rfl
  · cases h
  · simp at h
  · cases h
  · cases h
  · cases h
  · exact absurd rfl (ne_groupEnd_of_readCounts? h)
  · simp at h
  · cases h
  · cases h
  · split at h
    · cases h
    · simp at h

end PatternItem

end Conformance

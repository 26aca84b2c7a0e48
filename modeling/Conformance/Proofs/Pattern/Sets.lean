import Mathlib.Data.List.TakeWhile
import Conformance.Pattern.Brackets
import Conformance.Proofs.Pattern.Escapes

/-!
# Sets in brackets in front of a closing parenthesis

In brackets a parenthesis is a character like any other. But a set that is read takes its closing
bracket as well, and what is left starts behind that bracket; so the parenthesis that is left is
none of the set. In two places, a set looks at a character that it does not take. A hyphen makes a
range by what stands behind it, and a parenthesis there says the same as the end of the text
(`Conformance.Brackets.makesRange_append`). A bracket with a colon begins a named set of ASCII
only if the whole name follows; it is a bracket within the brackets otherwise.

* `Conformance.Brackets.strict_readRange?` – an atom or a range, if the text goes on behind it;
* `Conformance.Brackets.local_read?` – a whole set is read in front of a closing parenthesis as at
  the end.
-/

namespace Conformance

variable {m n : Nat} (flags : PatternFlags) {cs rest behind : List Char}

namespace Brackets

/-! ### The start of a set -/

theorem local_readHyphens (level : Level) :
    Local m (n + 1) (fun cs => some (readHyphens flags m level cs))
      (fun cs => some (readHyphens flags n level cs)) := by
  induction m generalizing n level with
  | zero => exact LocalIf.of_stop level
  | succ m ih =>
    refine LocalIf.of_nil (fun n cs => some (readHyphens flags n level cs)) rfl fun n => ?_
    refine LocalIf.branch drops_id (· = '-') ?_ (LocalIf.stop level) ?_ le_rfl le_rfl
    · rintro c rfl
      refine ⟨_, _, LocalIf.after flags.drops_skipBlanks (ih (level.add ⟨.single '-', 0⟩)), ?_⟩
      rintro cs r rfl
      exact ⟨rfl, rfl⟩
    · intro cs hhead
      cases cs with
      | nil => exact ⟨rfl, rfl⟩
      | cons c r =>
        have hc : ¬ c = '-' := hhead c rfl
        simp [readHyphens, hc]

/-- What comes behind the hyphens at the start of a set. -/
def readLeadingBracket (level : Level) : Reader Level
  | ']' :: rest =>
    if level.parts.isEmpty then some (level.add ⟨.single ']', 0⟩, flags.skipBlanks rest)
    else some (level, ']' :: rest)
  | cs => some (level, cs)

theorem local_readLeadingBracket (level : Level) :
    Local m n (readLeadingBracket flags level) (readLeadingBracket flags level) := by
  by_cases hparts : level.parts.isEmpty = true
  · refine LocalIf.branch drops_id (· = ']') ?_ (LocalIf.stop level) ?_
      (Nat.le_succ m) (Nat.le_succ n)
    · rintro c rfl
      refine ⟨_, _, LocalIf.after flags.drops_skipBlanks
        (LocalIf.stop (level.add ⟨.single ']', 0⟩)), ?_⟩
      rintro cs r rfl
      simp [readLeadingBracket, hparts]
    · intro cs hhead
      rw [id, readLeadingBracket]
      · exact ⟨rfl, rfl⟩
      · rintro r rfl
        exact hhead ']' rfl rfl
  · have hread : ∀ cs, readLeadingBracket flags level cs = some (level, cs) := by
      intro cs
      rw [readLeadingBracket.eq_def]
      split
      · rw [if_neg hparts]
      · rfl
    exact (LocalIf.stop level).congr hread hread

theorem local_readStart (negated : Bool) :
    Local m n (fun cs => some (readStart flags negated cs))
      (fun cs => some (readStart flags negated cs)) := by
  have hstart : ∀ cs, some (readStart flags negated cs) =
      (some (readHyphens flags cs.length ⟨negated, none, []⟩ cs)).bind fun p =>
        readLeadingBracket flags p.1 p.2 := by
    intro cs
    rcases hread : readHyphens flags cs.length ⟨negated, none, []⟩ cs with ⟨level, rest⟩
    cases rest with
    | nil => simp [readStart, hread, readLeadingBracket]
    | cons c rest =>
      by_cases hc : c = ']'
      · subst hc
        simp only [readStart, hread, Option.bind_some, readLeadingBracket]
        split
        · rfl
        · rfl
      · simp [readStart, hread, readLeadingBracket, hc]
  exact (LocalIf.bind (LocalIf.full_length fun _ _ => local_readHyphens flags ⟨negated, none, []⟩)
    (local_readLeadingBracket flags) fun _ _ => trivial).congr hstart hstart

theorem local_openLevel :
    Local m n (fun cs => some (openLevel flags cs)) (fun cs => some (openLevel flags cs)) := by
  refine LocalIf.branch flags.drops_skipBlanks (· = '^') ?_ (local_readStart flags false) ?_
    (Nat.le_succ m) (Nat.le_succ n)
  · rintro c rfl
    refine ⟨_, _, LocalIf.after flags.drops_skipBlanks (local_readStart flags true), ?_⟩
    intro cs r hr
    simp [openLevel, hr]
  · intro cs hhead
    rw [openLevel]
    split
    · rename_i r hr
      exact absurd rfl (hhead '^' (by rw [hr]; rfl))
    · exact ⟨rfl, rfl⟩

/-! ### The parts of a set -/

theorem eq_of_dropWhile_ne {stop c : Char} {r : List Char} (h : cs.dropWhile (· != stop) = c :: r) :
    c = stop := by
  have hhead := List.head_dropWhile_not (· != stop) (by simp [h] : cs.dropWhile (· != stop) ≠ [])
  simpa [h] using hhead

/-- The characters up to the first of some sort. -/
def readUntil (stop : Char) (cs : List Char) : Option (List Char × List Char) :=
  match cs.dropWhile (· != stop) with
  | [] => none
  | _ :: rest => some (cs.takeWhile (· != stop), rest)

theorem readUntil_append {stop : Char} {name : List Char}
    (h : readUntil stop cs = some (name, rest)) :
    readUntil stop (cs ++ behind) = some (name, rest ++ behind) := by
  rw [readUntil] at h
  split at h
  · cases h
  · rename_i c r hr
    cases h
    have hdrop : (cs ++ behind).dropWhile (· != stop) = c :: (rest ++ behind) := by
      rw [List.dropWhile_append, hr]
      rfl
    have htake : (cs ++ behind).takeWhile (· != stop) = cs.takeWhile (· != stop) := by
      rw [List.takeWhile_append, if_neg]
      intro hlength
      have hsum := congrArg List.length
        (List.takeWhile_append_dropWhile (p := (· != stop)) (l := cs))
      rw [List.length_append, hlength, hr] at hsum
      simp at hsum
    rw [readUntil, hdrop, htake]

theorem readUntil_suffix {stop : Char} {name : List Char}
    (h : readUntil stop cs = some (name, rest)) :
    ∃ c, c :: rest <:+ cs := by
  rw [readUntil] at h
  split at h
  · cases h
  · rename_i c r hr
    cases h
    exact ⟨c, hr ▸ List.dropWhile_suffix _⟩

theorem strict_readUntil (stop : Char) : Strict m n (readUntil stop) (readUntil stop) where
  suffix := by
    intro cs name rest h
    obtain ⟨c, hmore⟩ := readUntil_suffix h
    exact (List.suffix_cons c rest).trans hmore
  takes := by
    intro cs name rest h
    obtain ⟨c, hmore⟩ := readUntil_suffix h
    exact hmore.length_le
  cut := by
    intro cs behind name rest _ _ h _
    have hleft : readUntil stop cs = some (cs.takeWhile (· != stop), rest) := by
      rw [readUntil] at h
      split at h
      · cases h
      · rename_i c r hr
        rw [Option.some.injEq, Prod.mk.injEq] at h
        obtain ⟨-, rfl⟩ := h
        obtain ⟨front, hfront, hcut, -⟩ :=
          LocalIf.next_cut (drops_dropWhile _) hr (List.suffix_rfl)
        rw [readUntil, hcut, List.append_cancel_right hfront]
    have hright : readUntil stop (cs ++ ')' :: behind) = _ := readUntil_append hleft
    rw [h, Option.some.injEq, Prod.mk.injEq] at hright
    rw [hleft, hright.1]

/-- What follows the name of a set of ASCII. -/
def closeAsciiName? (name : List Char) : Reader CharClass
  | ']' :: rest => (CharClass.ofAsciiName? (String.ofList name)).map fun set => (set, rest)
  | _ => none

theorem local_closeAsciiName? (name : List Char) :
    Local m n (closeAsciiName? name) (closeAsciiName? name) := by
  refine (LocalIf.expect ']' rfl ?_ ?_).toLocalIf.pred
  · intro c r hc
    simp [closeAsciiName?, hc]
  · simp only [closeAsciiName?, Option.map_eq_bind]
    exact LocalIf.give (CharClass.ofAsciiName? (String.ofList name)) id

theorem readAsciiName?_eq :
    readAsciiName? cs = (readUntil ':' cs).bind fun p => closeAsciiName? p.1 p.2 := by
  rw [readAsciiName?, readUntil]
  cases hr : cs.dropWhile (· != ':') with
  | nil => rfl
  | cons c r =>
    obtain rfl : c = ':' := eq_of_dropWhile_ne hr
    cases r with
    | nil => rfl
    | cons c r =>
      by_cases hc : c = ']'
      · subst hc
        rfl
      · simp [closeAsciiName?, hc]

theorem local_readAsciiName? : Local m n readAsciiName? readAsciiName? :=
  (LocalIf.bind (strict_readUntil ':').toLocalIf local_closeAsciiName? fun _ _ => trivial).congr
    (fun _ => readAsciiName?_eq) (fun _ => readAsciiName?_eq)

theorem readAsciiName?_append {set : CharClass} (h : readAsciiName? cs = some (set, rest)) :
    readAsciiName? (cs ++ behind) = some (set, rest ++ behind) := by
  rw [readAsciiName?_eq] at h ⊢
  obtain ⟨⟨name, mid⟩, hname, hclose⟩ := Option.bind_eq_some_iff.mp h
  rw [readUntil_append hname, Option.bind_some]
  cases mid with
  | nil => cases hclose
  | cons c mid =>
    by_cases hc : c = ']'
    · subst hc
      obtain ⟨found, hfound, heq⟩ := Option.map_eq_some_iff.mp hclose
      cases heq
      simp [closeAsciiName?, hfound]
    · simp [closeAsciiName?, hc] at hclose

/-- The name of a set of ASCII or of its complement, behind the colon. -/
def readNegatable? : Reader (CharClass × Bool)
  | '^' :: rest => (readAsciiName? rest).map fun p => ((p.1, true), p.2)
  | cs => (readAsciiName? cs).map fun p => ((p.1, false), p.2)

theorem local_readNegatable? : Local m n readNegatable? readNegatable? := by
  refine LocalIf.branch drops_id (· = '^') ?_
    (LocalIf.map (fun set => (set, false)) local_readAsciiName? fun _ => trivial) ?_
    (Nat.le_succ m) (Nat.le_succ n)
  · rintro c rfl
    refine ⟨_, _, LocalIf.map (fun set => (set, true)) local_readAsciiName? fun _ => trivial, ?_⟩
    rintro cs r rfl
    exact ⟨rfl, rfl⟩
  · intro cs hhead
    rw [id, readNegatable?]
    · exact ⟨rfl, rfl⟩
    · rintro r rfl
      exact hhead '^' rfl rfl

/-- A named set of ASCII behind its opening bracket. -/
def readNamed? : Reader (CharClass × Bool)
  | ':' :: rest => readNegatable? rest
  | _ => none

theorem readAsciiSet?_eq :
    readAsciiSet? cs = (readNamed? cs).map fun p => (p.1.1, p.1.2, p.2) := by
  cases cs with
  | nil => rfl
  | cons c cs =>
    by_cases hc : c = ':'
    · subst hc
      cases cs with
      | nil => rfl
      | cons c cs =>
        by_cases hc : c = '^'
        · subst hc
          simp [readAsciiSet?, readNamed?, readNegatable?, Function.comp_def]
        · simp [readAsciiSet?, readNamed?, readNegatable?, hc, Function.comp_def]
    · simp [readAsciiSet?, readNamed?, hc]

theorem local_readNamed? : Local m n readNamed? readNamed? := by
  refine (LocalIf.expect ':' rfl ?_ local_readNegatable?).toLocalIf.pred
  intro c r hc
  simp [readNamed?, hc]

theorem readNamed?_append {x : CharClass × Bool} (h : readNamed? cs = some (x, rest)) :
    readNamed? (cs ++ behind) = some (x, rest ++ behind) := by
  cases cs with
  | nil => cases h
  | cons c cs =>
    by_cases hc : c = ':'
    · subst hc
      cases cs with
      | nil => cases h
      | cons c cs =>
        by_cases hc : c = '^'
        · subst hc
          obtain ⟨⟨set, mid⟩, hname, heq⟩ := Option.map_eq_some_iff.mp h
          cases heq
          simp [readNamed?, readNegatable?, readAsciiName?_append hname]
        · have hnegatable : ∀ r, readNegatable? (c :: r) =
              (readAsciiName? (c :: r)).map fun p => ((p.1, false), p.2) := by
            intro r
            simp [readNegatable?, hc]
          rw [readNamed?, hnegatable] at h
          obtain ⟨⟨set, mid⟩, hname, heq⟩ := Option.map_eq_some_iff.mp h
          cases heq
          have happend : readAsciiName? (c :: (cs ++ behind)) = _ := readAsciiName?_append hname
          simp [readNamed?, hnegatable, happend]
    · simp [readNamed?, hc] at h

/-! ### Ranges -/

/-- Where no character decides whether a hyphen makes a range, it does. -/
theorem makesRange_eq :
    makesRange flags cs = (decisive? flags cs).all fun c => c != ']' && c != '-' := by
  rw [makesRange]
  cases decisive? flags cs with
  | none => rfl
  | some c => rfl

theorem decides_of_blank {c : Char} (hc : Text.isWhiteSpace c = true ∨ c = '#') :
    (c != ']' && c != '-') = true := by
  have hne : c ≠ ']' ∧ c ≠ '-' := by
    constructor
    · rintro rfl
      rcases hc with h | h <;> exact absurd h (by decide)
    · rintro rfl
      rcases hc with h | h <;> exact absurd h (by decide)
  simpa using hne

/-- A parenthesis behind a hyphen says no more about a range than the end of the text. -/
theorem makesRange_append :
    makesRange flags (cs ++ ')' :: behind) = makesRange flags cs := by
  have hhead : (∀ c ∈ cs.head?, Text.isWhiteSpace c = true ∨ c = '#') →
      (cs.head?.all fun c => c != ']' && c != '-') = true := by
    intro h
    cases cs with
    | nil => rfl
    | cons c cs => exact decides_of_blank (h c rfl)
  rw [makesRange_eq, makesRange_eq, decisive?, decisive?]
  by_cases hfree : flags.freeSpacing = true
  · rw [if_pos hfree, if_pos hfree, List.dropWhile_append]
    have hparen : (')' :: behind).dropWhile Text.isWhiteSpace = ')' :: behind := rfl
    cases hblank : cs.dropWhile Text.isWhiteSpace with
    | nil =>
      have hall : ∀ c ∈ cs.head?, Text.isWhiteSpace c = true ∨ c = '#' := fun c hc =>
        Or.inl (List.dropWhile_eq_nil_iff.mp hblank c (List.mem_of_mem_head? hc))
      simp [hparen, hhead hall]
    | cons c r =>
      by_cases hc : c = '#'
      · -- if nothing follows the sign, the parenthesis or the first blank decides: a range both
        -- times
        subst hc
        have hall : ∀ c ∈ cs.head?, Text.isWhiteSpace c = true ∨ c = '#' := by
          intro c hc
          cases cs with
          | nil => cases hc
          | cons c' cs =>
            cases hc
            by_cases hwhite : Text.isWhiteSpace c = true
            · exact Or.inl hwhite
            · rw [List.dropWhile_cons, if_neg hwhite] at hblank
              exact Or.inr (List.cons.inj hblank).1
        cases hafter : r.dropWhile Text.isWhiteSpace with
        | nil => simp [List.dropWhile_append, hafter, hparen, hhead hall]
        | cons c' r' => simp [List.dropWhile_append, hafter]
      · simp [hc]
  · rw [if_neg hfree, if_neg hfree]
    cases cs with
    | nil => rfl
    | cons c cs => rfl

/-- An atom, or a range that begins with it. -/
def readRangeEnd? (first : PatternAtom) (cs : List Char) : Option (CharClass × List Char) :=
  match flags.skipBlanks cs with
  | [] => none
  | '-' :: behind =>
    if makesRange flags behind then do
      let (last, rest) ← PatternAtom.read? flags (flags.skipBlanks behind)
      let set ← rangeSet? flags first last
      return (set, rest)
    else do
      let set ← atomSet? flags first
      return (set, '-' :: behind)
  | rest => do
    let set ← atomSet? flags first
    return (set, rest)

theorem local_readRangeEnd? (first : PatternAtom) :
    LocalIf (fun _ rest => rest ≠ []) m n (readRangeEnd? flags first)
      (readRangeEnd? flags first) := by
  have hrange : LocalIf (fun _ rest => rest ≠ []) m n _ _ :=
    LocalIf.after flags.drops_skipBlanks (LocalIf.choose (rangeSet? flags first) id
      (PatternAtom.strict_read? flags).toLocalIf.pred fun {last _ _} hlast _ => by
        rintro ⟨look, rfl⟩
        cases first <;> cases hlast)
  refine LocalIf.branchOn flags.drops_skipBlanks
    (fun l => ∃ r, l = '-' :: r ∧ makesRange flags r = true) ?_ ?_ (fun c => ⟨_, _, hrange, ?_⟩)
    (LocalIf.giveBefore (atomSet? flags first) id) ?_ (Nat.le_succ m) (Nat.le_succ n)
  · rintro ⟨r, h, -⟩
    cases h
  · intro c r behind
    simp [makesRange_append]
  · rintro cs r hr ⟨r', heq, hmakes⟩
    cases heq
    rw [readRangeEnd?, hr]
    simp only [hmakes, if_true]
    exact ⟨rfl, rfl⟩
  · intro cs hno
    rw [readRangeEnd?]
    split
    · rename_i hr
      rw [hr]
      exact ⟨rfl, rfl⟩
    · rename_i r hr
      have hmakes : ¬ makesRange flags r = true := fun hmakes => hno ⟨r, hr, hmakes⟩
      rw [hr, if_neg hmakes, if_neg (List.cons_ne_nil _ _)]
      exact ⟨rfl, rfl⟩
    · rename_i hnil hminus
      rw [if_neg hnil]
      exact ⟨rfl, rfl⟩

/-- A condition stands for no set. -/
theorem readRangeEnd?_condition (look : Look) :
    readRangeEnd? flags (.condition look) cs = none := by
  rw [readRangeEnd?]
  split
  · rfl
  · split
    · simp [rangeSet?]
    · rfl
  · rfl

theorem strict_readRange? :
    StrictIf (fun _ rest => rest ≠ []) (m + 1) (n + 1) (readRange? flags) (readRange? flags) := by
  refine (PatternAtom.strict_read? flags).bind (local_readRangeEnd? flags) ?_
  intro x y mid rest behind hy _
  rintro ⟨look, rfl⟩
  rw [readRangeEnd?_condition] at hy
  cases hy

/-! ### Whole sets -/

/-- A part of a set that begins with a character: a doubled character for an operation, or an atom
or a range. How reading goes on is given. -/
def readPart? (goOn : Level → Reader (Nested CharClass)) (level : Level) (c : Char)
    (cs : List Char) : Option (Nested CharClass × List Char) :=
  match SetOperation.ofChar? c, cs with
  | some operation, d :: behind =>
    if c == d then goOn (level.operate flags operation) behind
    else (readRange? flags (c :: cs)).bind fun p => goOn (level.add ⟨p.1, 0⟩) p.2
  | _, _ => (readRange? flags (c :: cs)).bind fun p => goOn (level.add ⟨p.1, 0⟩) p.2

variable {goOn goOn' : Level → Reader (Nested CharClass)}

theorem local_readPart? (hgoOn : ∀ level, Strict m n (goOn level) (goOn' level)) (level : Level)
    (c : Char) : Local m n (readPart? flags goOn level c) (readPart? flags goOn' level c) := by
  have hrange : Local m n
      (fun cs => (readRange? flags (c :: cs)).bind fun p => goOn (level.add ⟨p.1, 0⟩) p.2)
      (fun cs => (readRange? flags (c :: cs)).bind fun p => goOn' (level.add ⟨p.1, 0⟩) p.2) := by
    refine LocalIf.bind ((strict_readRange? flags).next c)
      (fun set => (hgoOn (level.add ⟨set, 0⟩)).toLocalIf) ?_
    -- the brackets do not end here, so there is something behind the range
    rintro set y mid rest behind hy - rfl
    have hlength := (hgoOn _).takes hy
    rw [length_append_paren, length_append_paren, List.length_nil] at hlength
    omega
  cases hop : SetOperation.ofChar? c with
  | none =>
    refine hrange.congr (fun cs => ?_) fun cs => ?_
    · simp only [readPart?, hop]
    · simp only [readPart?, hop]
  | some operation =>
    refine LocalIf.branch drops_id (c = ·) ?_ hrange ?_ (Nat.le_succ m) (Nat.le_succ n)
    · rintro d rfl
      refine ⟨_, _, (hgoOn (level.operate flags operation)).toLocalIf, ?_⟩
      rintro cs r rfl
      simp [readPart?, hop]
    · intro cs hhead
      cases cs with
      | nil => simp only [readPart?, hop, id, and_self]
      | cons d r =>
        have hd : ¬ c = d := hhead d rfl
        simp [readPart?, hop, hd]

/-- One step is one case of the next character: an opening bracket, a closing one, or a part. -/
theorem strict_readLevels? (level : Level) (outer : List Level) :
    Strict m n (readLevels? flags m level outer) (readLevels? flags n level outer) := by
  induction m generalizing n level outer with
  | zero => exact ⟨LocalIf.none_left, fun h => by cases h⟩
  | succ m ih =>
    refine StrictIf.of_succ (readLevels? flags · level outer) fun n => ?_
    refine LocalIf.head flags.drops_skipBlanks ?_ fun c => ?_
    · intro cs hnil
      rw [readLevels?, hnil]
    · by_cases hopen : c = '['
      · subst hopen
        refine ⟨_, _, LocalIf.orElse local_readNamed? readNamed?_append
          (fun x => LocalIf.withOption (flags.complement? x.2 (flags.withCases x.1)) fun set =>
            (ih (level.add ⟨set, 0⟩) outer).toLocalIf)
          (LocalIf.bind (local_openLevel flags) (fun inner => (ih inner (level :: outer)).toLocalIf)
            fun _ _ => trivial), ?_⟩
        intro cs r hr
        simp only [readLevels?, hr, readAsciiSet?_eq]
        cases readNamed? r with
        | none => exact ⟨rfl, rfl⟩
        | some p => exact ⟨rfl, rfl⟩
      · by_cases hclose : c = ']'
        · subst hclose
          cases hset : level.close? flags with
          | none =>
            refine ⟨_, _, LocalIf.fail, ?_⟩
            intro cs r hr
            simp [readLevels?, hr, hset]
          | some set =>
            cases outer with
            | nil =>
              refine ⟨_, _, LocalIf.stop set, ?_⟩
              intro cs r hr
              simp [readLevels?, hr, hset]
            | cons around outer =>
              refine ⟨_, _, (ih (around.add set) outer).toLocalIf, ?_⟩
              intro cs r hr
              simp [readLevels?, hr, hset]
        · refine ⟨_, _, local_readPart? flags (fun level => ih level outer) level c, ?_⟩
          intro cs r hr
          have hread : ∀ k, readLevels? flags (k + 1) level outer cs =
              readPart? flags (fun level => readLevels? flags k level outer) level c r := by
            intro k
            simp only [readLevels?, readPart?, hr]
            cases readRange? flags (c :: r) with
            | none => rfl
            | some p => rfl
          exact ⟨hread m, hread n⟩

/-- **Sets in front of a closing parenthesis** are read as at the end. -/
theorem local_read? : Local m n (Brackets.read? flags) (Brackets.read? flags) :=
  LocalIf.full fun _ _ => LocalIf.bind (local_openLevel flags)
    (fun level => (strict_readLevels? flags level []).toLocalIf) fun _ _ => trivial

end Brackets

end Conformance

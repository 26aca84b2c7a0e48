import Mathlib.Data.List.DropRight
import Conformance.TypeExpr.Reading

/-!
# What spells a type expression

A text spells a type expression if a grammar derives it (`Conformance.TypeExpr.Spells`): keywords
and names, `[T]` and `T[]`, with white space around every part. The grammar leaves open what may
stand in front of `[]`. The reader does not: it takes a text that starts with a bracket for `[T]`,
and so it follows the grammar in which `[]` stands behind texts that do not start with a bracket
(`Conformance.TypeExpr.Unbracketed`).

* `Conformance.TypeExpr.ofChars_eq_ok_iff` – the reader answers what this grammar derives;
* `Conformance.TypeExpr.parse_iff_spells` – the same with its errors, and what becomes of a text
  in brackets and of a text in front of them;
* `Conformance.TypeExpr.spells_bracketed_twice` – a text of the unrestricted grammar that is
  refused.
-/

namespace Conformance

/-! ### White space at both ends -/

namespace Text

variable {cs left right : List Char}

/-- A text of white space only. -/
def Blank (cs : List Char) : Prop := ∀ c ∈ cs, isWhiteSpace c = true

/-- A text with no white space at its ends. -/
structure Tight (cs : List Char) : Prop where
  /-- It does not start with white space. -/
  head : ∀ c ∈ cs.head?, isWhiteSpace c = false
  /-- It does not end in white space. -/
  last : ∀ c ∈ cs.getLast?, isWhiteSpace c = false

theorem blank_nil : Blank [] := fun _ hc => absurd hc List.not_mem_nil

theorem Blank.append (hleft : Blank left) (hright : Blank right) : Blank (left ++ right) := by
  intro c hc
  rcases List.mem_append.mp hc with h | h
  · exact hleft c h
  · exact hright c h

theorem tight_trim : Tight (trim cs) := by
  have hprefix : trim cs <+: cs.dropWhile isWhiteSpace := List.rdropWhile_prefix _ _
  constructor
  · intro c hc
    obtain ⟨rest, hrest⟩ := hprefix
    have hhead : (cs.dropWhile isWhiteSpace).head? = some c := by
      rw [← hrest, List.head?_append, hc]
      rfl
    have hnot := List.head?_dropWhile_not isWhiteSpace cs
    rwa [hhead] at hnot
  · intro c hc
    obtain ⟨hne, rfl⟩ := List.mem_getLast?_eq_getLast hc
    exact Bool.eq_false_iff.mpr (List.rdropWhile_last_not isWhiteSpace _ hne)

/-- **What trimming leaves** of a text between white space. -/
theorem trim_of_tight (hleft : Blank left) (hright : Blank right) (h : Tight cs) :
    trim (left ++ cs ++ right) = cs := by
  have hback : (right.reverse ++ cs.reverse).dropWhile isWhiteSpace = cs.reverse := by
    rw [List.dropWhile_append_of_pos fun c hc => hright c (List.mem_reverse.mp hc)]
    cases hcs : cs.reverse with
    | nil => rfl
    | cons c rest =>
      have hlast : cs.getLast? = some c := by rw [← List.head?_reverse, hcs, List.head?_cons]
      exact List.dropWhile_cons_of_neg (by simp [h.last c hlast])
  cases hcs : cs with
  | nil =>
    have hblank : Blank (left ++ right) := hleft.append hright
    rw [List.append_nil, trim, List.dropWhile_eq_nil_iff.mpr hblank]
    rfl
  | cons c rest =>
    have hc : isWhiteSpace c = false := h.head c (by rw [hcs, List.head?_cons]; rfl)
    rw [trim, List.append_assoc, List.dropWhile_append_of_pos hleft, List.cons_append,
      List.dropWhile_cons_of_neg (by simp [hc]), ← List.cons_append, ← hcs, List.reverse_append,
      hback, List.reverse_reverse]

theorem trim_eq_self (h : Tight cs) : trim cs = cs := by
  simpa using trim_of_tight blank_nil blank_nil h

/-- **What is trimmed off** is white space. -/
theorem exists_trim (cs : List Char) :
    ∃ left right, Blank left ∧ Blank right ∧ cs = left ++ trim cs ++ right := by
  have hfront : cs.takeWhile isWhiteSpace ++ cs.dropWhile isWhiteSpace = cs :=
    List.takeWhile_append_dropWhile
  have hback : trim cs ++ (cs.dropWhile isWhiteSpace).rtakeWhile isWhiteSpace =
      cs.dropWhile isWhiteSpace := List.rdropWhile_append_rtakeWhile
  refine ⟨cs.takeWhile isWhiteSpace, (cs.dropWhile isWhiteSpace).rtakeWhile isWhiteSpace,
    fun c hc => List.mem_takeWhile_imp hc, fun c hc => List.mem_rtakeWhile_imp hc, ?_⟩
  rw [List.append_assoc, hback, hfront]

/-- A text that ends in something else than white space still ends in it when it is trimmed. -/
theorem getLast?_trim {c : Char} (h : cs.getLast? = some c) (hc : isWhiteSpace c = false) :
    (trim cs).getLast? = some c := by
  obtain ⟨left, right, hleft, hright, hcs⟩ := exists_trim cs
  have hblank : ∀ {ds : List Char}, Blank ds → ds.getLast? ≠ some c := by
    intro ds hds hlast
    exact absurd (hds c (List.mem_of_mem_getLast? hlast)) (by simp [hc])
  generalize trim cs = core at hcs ⊢
  rw [hcs, List.getLast?_append, List.getLast?_append] at h
  cases hright' : right.getLast? with
  | some d =>
    rw [hright'] at h
    exact absurd (hright'.trans h) (hblank hright)
  | none =>
    cases hcore : core.getLast? with
    | some d =>
      rw [hright', hcore] at h
      exact h
    | none =>
      rw [hright', hcore] at h
      exact absurd h (hblank hleft)

/-- White space around a text does not change what trimming leaves. -/
theorem trim_padded (hleft : Blank left) (hright : Blank right) :
    trim (left ++ cs ++ right) = trim cs := by
  obtain ⟨front, back, hfront, hback, hcs⟩ := exists_trim cs
  have hsplit : left ++ cs ++ right = (left ++ front) ++ trim cs ++ (back ++ right) := by
    rw [hcs, trim_of_tight hfront hback tight_trim]
    simp only [List.append_assoc]
  rw [hsplit, trim_of_tight (hleft.append hfront) (hback.append hright) tight_trim]

end Text

namespace TypeExpr

open Text (Blank Tight trim)

variable {cs inner : List Char} {e : TypeExpr}

/-! ### The grammar -/

/-- **The texts that spell a type expression**, where `[]` may follow the texts that are `allowed`
in front of it. -/
inductive Spells (allowed : List Char → Prop) : List Char → TypeExpr → Prop where
  /-- A keyword. -/
  | keyword (kind : ScalarKind) : Spells allowed kind.keyword.toList (.scalar kind)
  /-- A name that is no keyword. -/
  | name {name : String} (form : isTypeName name.toList = true)
    (other : ∀ kind : ScalarKind, name ≠ kind.keyword) :
    Spells allowed name.toList (.named name)
  /-- `[T]`. -/
  | bracketed {cs : List Char} {e : TypeExpr} (inside : Spells allowed cs e) :
    Spells allowed ('[' :: cs ++ [']']) (.array e)
  /-- `T[]`. -/
  | suffixed {cs : List Char} {e : TypeExpr} (front : Spells allowed cs e) (may : allowed cs) :
    Spells allowed (cs ++ ['[', ']']) (.array e)
  /-- White space around a part. -/
  | padded {left right cs : List Char} {e : TypeExpr} (before : Blank left) (behind : Blank right)
    (inside : Spells allowed cs e) : Spells allowed (left ++ cs ++ right) e

/-- **A text does not start with a bracket**, if one leaves out the white space around it. -/
def Unbracketed (cs : List Char) : Prop := (trim cs).head? ≠ some '['

/-! ### Keywords and names -/

theorem ofKeyword?_keyword (kind : ScalarKind) :
    ScalarKind.ofKeyword? kind.keyword = some kind := by
  cases kind <;> rfl

theorem keyword_of_ofKeyword? {s : String} {kind : ScalarKind}
    (h : ScalarKind.ofKeyword? s = some kind) : s = kind.keyword := by
  unfold ScalarKind.ofKeyword? at h
  grind [ScalarKind.keyword]

theorem isTypeName_keyword (kind : ScalarKind) : isTypeName kind.keyword.toList = true := by
  cases kind <;> rfl

/-- What a keyword or a name consists of. -/
theorem isNameChar_of_isTypeName (h : isTypeName cs = true) : ∀ c ∈ cs, isNameChar c = true := by
  cases cs with
  | nil => simp
  | cons first rest =>
    obtain ⟨hfirst, hrest⟩ := Bool.and_eq_true_iff.mp h
    have hletter : isNameChar first = true := by
      rcases Bool.or_eq_true_iff.mp hfirst with h | h
      · have halpha : first.isAlpha = true := h
        have halphanum : first.isAlphanum = true := Bool.or_eq_true_iff.mpr (Or.inl halpha)
        simp [isNameChar, halphanum]
      · simp [isNameChar, h]
    intro c hc
    rcases List.mem_cons.mp hc with rfl | hc
    · exact hletter
    · exact List.all_eq_true.mp hrest c hc

/-- The ASCII letters and digits. -/
theorem toNat_of_isAlphanum {c : Char} (h : c.isAlphanum = true) :
    48 ≤ c.toNat ∧ c.toNat ≤ 57 ∨ 65 ≤ c.toNat ∧ c.toNat ≤ 90 ∨ 97 ≤ c.toNat ∧ c.toNat ≤ 122 := by
  rcases Bool.or_eq_true_iff.mp h with h | h
  · rcases Bool.or_eq_true_iff.mp h with h | h
    · exact Or.inr (Or.inl (of_decide_eq_true h))
    · obtain ⟨hlow, hhigh⟩ := Bool.and_eq_true_iff.mp h
      exact Or.inr (Or.inr ⟨of_decide_eq_true hlow, of_decide_eq_true hhigh⟩)
  · obtain ⟨hlow, hhigh⟩ := Bool.and_eq_true_iff.mp h
    exact Or.inl ⟨of_decide_eq_true hlow, of_decide_eq_true hhigh⟩

theorem toNat_of_isNameChar {c : Char} (h : isNameChar c = true) :
    c.toNat = 45 ∨ c.toNat = 46 ∨ c.toNat = 95 ∨ 48 ≤ c.toNat ∧ c.toNat ≤ 57 ∨
      65 ≤ c.toNat ∧ c.toNat ≤ 90 ∨ 97 ≤ c.toNat ∧ c.toNat ≤ 122 := by
  simp only [isNameChar, Bool.or_eq_true, beq_iff_eq] at h
  rcases h with ((h | rfl) | rfl) | rfl
  · exact Or.inr (Or.inr (Or.inr (toNat_of_isAlphanum h)))
  · exact Or.inr (Or.inr (Or.inl rfl))
  · exact Or.inr (Or.inl rfl)
  · exact Or.inl rfl

theorem isWhiteSpace_of_isNameChar {c : Char} (h : isNameChar c = true) :
    Text.isWhiteSpace c = false := by
  have hrange := toNat_of_isNameChar h
  simp only [Text.isWhiteSpace, Bool.or_eq_false_iff, Bool.and_eq_false_iff,
    decide_eq_false_iff_not, beq_eq_false_iff_ne]
  omega

/-- A keyword or a name stands as it is: nothing is trimmed off, and there are no brackets. -/
theorem tight_of_isTypeName (h : isTypeName cs = true) : Tight cs where
  head c hc := isWhiteSpace_of_isNameChar (isNameChar_of_isTypeName h c (List.mem_of_mem_head? hc))
  last c hc := isWhiteSpace_of_isNameChar
    (isNameChar_of_isTypeName h c (List.mem_of_mem_getLast? hc))

theorem leaf?_eq_some_iff :
    leaf? cs = some e ↔
      (∃ kind : ScalarKind, cs = kind.keyword.toList ∧ e = .scalar kind) ∨
      ∃ name : String, cs = name.toList ∧ isTypeName name.toList = true ∧
        (∀ kind : ScalarKind, name ≠ kind.keyword) ∧ e = .named name := by
  unfold leaf?
  constructor
  · intro h
    split at h
    · rename_i kind hkind
      obtain rfl := Option.some.inj h
      refine Or.inl ⟨kind, ?_, rfl⟩
      rw [← keyword_of_ofKeyword? hkind, String.toList_ofList]
    · rename_i hnone
      split at h
      · rename_i hname
        obtain rfl := Option.some.inj h
        refine Or.inr ⟨String.ofList cs, String.toList_ofList.symm, ?_, ?_, rfl⟩
        · rwa [String.toList_ofList]
        · intro kind heq
          rw [heq, ofKeyword?_keyword] at hnone
          cases hnone
      · cases h
  · rintro (⟨kind, rfl, rfl⟩ | ⟨name, rfl, hform, hother, rfl⟩)
    · rw [String.ofList_toList, ofKeyword?_keyword]
    · have hnone : ScalarKind.ofKeyword? name = none := by
        cases hkind : ScalarKind.ofKeyword? name with
        | none => rfl
        | some kind => exact absurd (keyword_of_ofKeyword? hkind) (hother kind)
      rw [String.ofList_toList, hnone]
      exact if_pos hform

theorem isTypeName_of_leaf? (h : leaf? cs = some e) : isTypeName cs = true := by
  rcases leaf?_eq_some_iff.mp h with ⟨kind, rfl, -⟩ | ⟨name, rfl, hform, -, -⟩
  · exact isTypeName_keyword kind
  · exact hform

/-! ### Brackets -/

theorem bracketed?_eq_some_iff : bracketed? cs = some inner ↔ cs = '[' :: inner ++ [']'] := by
  constructor
  · intro h
    unfold bracketed? at h
    split at h
    · rename_i rest
      split at h
      · rename_i hlast
        obtain rfl := Option.some.inj h
        have hsplit : rest.dropLast ++ [']'] = rest := by
          rw [List.dropLast_append_getLast?]
          simpa using hlast
        rw [List.cons_append, hsplit]
      · cases h
    · cases h
  · rintro rfl
    simp [bracketed?]

theorem suffixed?_eq_some_iff : suffixed? cs = some inner ↔ cs = inner ++ ['[', ']'] := by
  constructor
  · intro h
    unfold suffixed? at h
    split at h
    · rename_i rest hrest
      obtain rfl := Option.some.inj h
      rw [← List.reverse_reverse cs, hrest]
      simp
    · cases h
  · rintro rfl
    simp [suffixed?]

/-- In front of brackets at the end, there is none at the start. -/
theorem bracketed?_eq_none (h : cs.head? ≠ some '[') : bracketed? cs = none := by
  unfold bracketed?
  split
  · exact absurd rfl h
  · rfl

/-- A text with `[]` at its end that starts with a bracket is a text in brackets. -/
theorem exists_bracketed (h : cs = inner ++ ['[', ']']) (hhead : cs.head? = some '[') :
    ∃ inside, bracketed? cs = some inside := by
  cases inner with
  | nil => exact ⟨[], by rw [h]; rfl⟩
  | cons c rest =>
    obtain rfl : c = '[' := by simpa [h] using hhead
    exact ⟨rest ++ ['['], bracketed?_eq_some_iff.mpr (by simp [h])⟩

/-- A keyword or a name has no brackets. -/
theorem brackets_of_isTypeName (h : isTypeName cs = true) :
    bracketed? cs = none ∧ suffixed? cs = none := by
  have hchars := isNameChar_of_isTypeName h
  constructor
  · refine bracketed?_eq_none fun hhead => ?_
    exact absurd (hchars '[' (List.mem_of_mem_head? hhead)) (by decide)
  · rw [Option.eq_none_iff_forall_ne_some]
    intro inner hinner
    rw [suffixed?_eq_some_iff] at hinner
    exact absurd (hchars ']' (by simp [hinner])) (by decide)

/-! ### The reader, by the form of a text -/

theorem ofChars_of_bracketed (h : trim cs = '[' :: inner ++ [']']) :
    ofChars cs = arrayWithin cs (ofChars inner) := by
  have hb : bracketed? (trim cs) = some inner := bracketed?_eq_some_iff.mpr h
  rw [ofChars]
  split
  · rename_i inner' h'
    obtain rfl := Option.some.inj (hb.symm.trans h')
    rfl
  · rename_i h'
    exact absurd (hb.symm.trans h') (by simp)

theorem ofChars_of_suffixed (h : trim cs = inner ++ ['[', ']']) (hcs : Unbracketed cs) :
    ofChars cs = arrayWithin cs (ofChars inner) := by
  have hs : suffixed? (trim cs) = some inner := suffixed?_eq_some_iff.mpr h
  rw [ofChars]
  split
  · rename_i h'
    exact absurd (h'.symm.trans (bracketed?_eq_none hcs)) (by simp)
  · split
    · rename_i inner' h'
      obtain rfl := Option.some.inj (hs.symm.trans h')
      rfl
    · rename_i h'
      exact absurd (hs.symm.trans h') (by simp)

theorem ofChars_of_leaf (h : leaf? (trim cs) = some e) : ofChars cs = .ok e := by
  obtain ⟨hb, hs⟩ := brackets_of_isTypeName (isTypeName_of_leaf? h)
  rw [ofChars]
  split
  · rename_i h'
    exact absurd (h'.symm.trans hb) (by simp)
  · split
    · rename_i h'
      exact absurd (h'.symm.trans hs) (by simp)
    · rw [h]

/-- **How a text is read**: as `[T]` if it has a bracket at either end, as `T[]` if it ends like
that and has none at its start, and as a keyword or a name otherwise. -/
theorem ofChars_cases (h : ofChars cs = .ok e) :
    (∃ inner element, trim cs = '[' :: inner ++ [']'] ∧ ofChars inner = .ok element ∧
        e = .array element) ∨
      (∃ inner element, trim cs = inner ++ ['[', ']'] ∧ Unbracketed cs ∧
        ofChars inner = .ok element ∧ e = .array element) ∨
      leaf? (trim cs) = some e := by
  have harray : ∀ inner, arrayWithin cs (ofChars inner) = .ok e →
      ∃ element, ofChars inner = .ok element ∧ e = .array element := by
    intro inner hinner
    cases helement : ofChars inner with
    | error err =>
      rw [helement] at hinner
      cases hinner
    | ok element =>
      rw [helement] at hinner
      cases hinner
      exact ⟨element, rfl, rfl⟩
  rw [ofChars] at h
  split at h
  · rename_i inner hb
    obtain ⟨element, helement, rfl⟩ := harray inner h
    exact Or.inl ⟨inner, element, bracketed?_eq_some_iff.mp hb, helement, rfl⟩
  · rename_i hb
    split at h
    · rename_i inner hs
      obtain ⟨element, helement, rfl⟩ := harray inner h
      have hsuffix := suffixed?_eq_some_iff.mp hs
      refine Or.inr (Or.inl ⟨inner, element, hsuffix, fun hhead => ?_, helement, rfl⟩)
      obtain ⟨inside, hinside⟩ := exists_bracketed hsuffix hhead
      exact absurd (hb.symm.trans hinside) (by simp)
    · split at h
      · rename_i e' hleaf
        cases h
        exact Or.inr (Or.inr hleaf)
      · cases h

/-- What is wrong with a text is said of the whole text. -/
theorem ofChars_error {err : SpellingError} (h : ofChars cs = .error err) :
    err = ⟨String.ofList cs⟩ := by
  rw [ofChars] at h
  split at h
  · rename_i inner _
    cases hinner : ofChars inner <;> rw [hinner] at h <;> cases h
    rfl
  · split at h
    · rename_i inner _
      cases hinner : ofChars inner <;> rw [hinner] at h <;> cases h
      rfl
    · split at h
      · cases h
      · cases h
        rfl

/-- Only what is left after trimming counts. -/
theorem ofChars_congr {ds : List Char} (htrim : trim ds = trim cs) (h : ofChars cs = .ok e) :
    ofChars ds = .ok e := by
  rcases ofChars_cases h with ⟨inner, element, hcs, hinner, rfl⟩ |
    ⟨inner, element, hcs, hbare, hinner, rfl⟩ | hleaf
  · rw [ofChars_of_bracketed (htrim.trans hcs), hinner]
    rfl
  · have hbare' : Unbracketed ds := by rwa [Unbracketed, htrim]
    rw [ofChars_of_suffixed (htrim.trans hcs) hbare', hinner]
    rfl
  · exact ofChars_of_leaf (by rwa [htrim])

/-- White space spells nothing. -/
theorem trim_ne_nil (h : ofChars cs = .ok e) : trim cs ≠ [] := by
  intro hnil
  rcases ofChars_cases h with ⟨inner, -, hcs, -⟩ | ⟨inner, -, hcs, -⟩ | hleaf
  · simp [hnil] at hcs
  · simp [hnil] at hcs
  · rw [hnil] at hleaf
    cases hleaf

/-- Nothing that is read ends in an opening bracket. -/
theorem getLast?_ne (h : ofChars cs = .ok e) : (trim cs).getLast? ≠ some '[' := by
  intro hlast
  rcases ofChars_cases h with ⟨inner, -, hcs, -⟩ | ⟨inner, -, hcs, -⟩ | hleaf
  · rw [hcs, List.getLast?_concat] at hlast
    cases hlast
  · rw [hcs] at hlast
    simp at hlast
  · have hchar := isNameChar_of_isTypeName (isTypeName_of_leaf? hleaf) '['
      (List.mem_of_mem_getLast? hlast)
    exact absurd hchar (by decide)

/-! ### The reader follows the grammar -/

theorem trim_brackets : trim ('[' :: cs ++ [']']) = '[' :: cs ++ [']'] := by
  refine Text.trim_eq_self ⟨fun c hc => ?_, fun c hc => ?_⟩
  · obtain rfl : '[' = c := by simpa using hc
    rfl
  · rw [List.getLast?_concat] at hc
    obtain rfl := Option.some.inj hc
    rfl

/-- In front of brackets, only what stands before the text is trimmed off. -/
theorem trim_suffix (h : trim cs ≠ []) :
    ∃ behind, Blank behind ∧ trim (cs ++ ['[', ']']) = trim cs ++ behind ++ ['[', ']'] := by
  obtain ⟨left, right, hleft, hright, hcs⟩ := Text.exists_trim cs
  have htight : Tight (trim cs ++ right ++ ['[', ']']) := by
    have htrim : Tight (trim cs) := Text.tight_trim
    refine ⟨fun c hc => htrim.head c ?_, fun c hc => ?_⟩
    · rwa [List.append_assoc, List.head?_append_of_ne_nil _ h] at hc
    · obtain rfl : ']' = c := by simpa using hc
      rfl
  refine ⟨right, hright, ?_⟩
  calc trim (cs ++ ['[', ']'])
      = trim (left ++ (trim cs ++ right ++ ['[', ']']) ++ []) := by
        conv_lhs => rw [hcs]
        simp only [List.append_assoc, List.append_nil]
    _ = trim cs ++ right ++ ['[', ']'] := Text.trim_of_tight hleft Text.blank_nil htight

/-- What stands in front of `[]` at the end of a text starts as the text does. -/
theorem unbracketed_front (htrim : trim cs = inner ++ ['[', ']']) (h : Unbracketed cs) :
    Unbracketed inner := by
  intro hhead
  obtain ⟨left, right, hleft, -, hinner⟩ := Text.exists_trim inner
  cases left with
  | nil =>
    refine h ?_
    rw [htrim, hinner, List.nil_append, List.append_assoc, List.head?_append, hhead]
    rfl
  | cons c rest =>
    have htight : Tight (trim cs) := Text.tight_trim
    have hc : Text.isWhiteSpace c = false := htight.head c (by rw [htrim, hinner]; rfl)
    exact absurd (hleft c List.mem_cons_self) (by simp [hc])

/-- **What the grammar derives is read.** -/
theorem Spells.ofChars (h : Spells Unbracketed cs e) : ofChars cs = .ok e := by
  induction h with
  | keyword kind =>
    have htrim := Text.trim_eq_self (tight_of_isTypeName (isTypeName_keyword kind))
    exact ofChars_of_leaf (leaf?_eq_some_iff.mpr (Or.inl ⟨kind, htrim, rfl⟩))
  | @name name form other =>
    have htrim := Text.trim_eq_self (tight_of_isTypeName form)
    exact ofChars_of_leaf (leaf?_eq_some_iff.mpr (Or.inr ⟨name, htrim, form, other, rfl⟩))
  | bracketed _ ih =>
    rw [ofChars_of_bracketed trim_brackets, ih]
    rfl
  | @suffixed cs e _ may ih =>
    have hne : trim cs ≠ [] := trim_ne_nil ih
    obtain ⟨behind, hbehind, htrim⟩ := trim_suffix hne
    have hbare : Unbracketed (cs ++ ['[', ']']) := by
      rw [Unbracketed, htrim, List.append_assoc, List.head?_append_of_ne_nil _ hne]
      exact may
    have hinner : trim (trim cs ++ behind) = trim cs :=
      Text.trim_of_tight Text.blank_nil hbehind Text.tight_trim
    rw [ofChars_of_suffixed htrim hbare, ofChars_congr hinner ih]
    rfl
  | padded before behind _ ih => exact ofChars_congr (Text.trim_padded before behind) ih

/-- **What is read is derived** by every grammar that allows `[]` behind a text without a bracket at
its start. -/
theorem spells_of_ofChars {allowed : List Char → Prop}
    (hallowed : ∀ cs, Unbracketed cs → allowed cs) (h : ofChars cs = .ok e) :
    Spells allowed cs e := by
  -- the reader goes on with a part of the text, and so the induction is on its length
  induction hlength : cs.length using Nat.strong_induction_on generalizing cs e with
  | h n ih =>
  subst hlength
  obtain ⟨left, right, hleft, hright, hcs⟩ := Text.exists_trim cs
  have hle : (trim cs).length ≤ cs.length := Text.length_trim_le cs
  have htrimmed : Spells allowed (trim cs) e := by
    rcases ofChars_cases h with ⟨inner, element, htrim, hinner, rfl⟩ |
      ⟨inner, element, htrim, hbare, hinner, rfl⟩ | hleaf
    · have hlt : inner.length < cs.length := by
        simp only [htrim, List.length_append, List.length_cons] at hle
        omega
      rw [htrim]
      exact .bracketed (ih inner.length hlt hinner rfl)
    · have hlt : inner.length < cs.length := by
        simp only [htrim, List.length_append, List.length_cons] at hle
        omega
      rw [htrim]
      refine .suffixed (ih inner.length hlt hinner rfl) (hallowed inner ?_)
      exact unbracketed_front htrim hbare
    · rcases leaf?_eq_some_iff.mp hleaf with ⟨kind, htrim, rfl⟩ | ⟨name, htrim, hform, hother, rfl⟩
      · rw [htrim]
        exact .keyword kind
      · rw [htrim]
        exact .name hform hother
  rw [hcs]
  exact .padded hleft hright htrimmed

/-- **The reader follows the grammar** in which `[]` stands behind texts that do not start with a
bracket. -/
theorem ofChars_eq_ok_iff : ofChars cs = .ok e ↔ Spells Unbracketed cs e :=
  ⟨spells_of_ofChars fun _ h => h, Spells.ofChars⟩

theorem parse_eq_ok_iff {text : String} :
    parse text = .ok e ↔ Spells Unbracketed text.toList e := ofChars_eq_ok_iff

/-- A text that is refused is refused as a whole. -/
theorem parse_eq_error_iff {text : String} :
    parse text = .error ⟨text⟩ ↔ ∀ e, parse text ≠ .ok e := by
  constructor
  · intro h e hok
    cases h.symm.trans hok
  · intro h
    cases hparse : parse text with
    | ok e => exact absurd hparse (h e)
    | error err => rw [ofChars_error hparse, String.ofList_toList]

/-- A text that is read is read in brackets too, as the array. -/
theorem parse_brackets {text : String} (h : parse text = .ok e) :
    parse ("[" ++ text ++ "]") = .ok (.array e) := by
  rw [parse_eq_ok_iff] at h ⊢
  simpa using h.bracketed

/-- In front of brackets a text is read just if it does not start with one. -/
theorem parse_suffix_iff {text : String} (h : parse text = .ok e) :
    parse (text ++ "[]") = .ok (.array e) ↔ Unbracketed text.toList := by
  have hne : trim text.toList ≠ [] := trim_ne_nil h
  constructor
  · intro hsuffix
    obtain ⟨behind, -, htrim⟩ := trim_suffix hne
    have hread : ofChars (text.toList ++ ['[', ']']) = .ok (.array e) := by
      rw [parse, String.toList_append] at hsuffix
      exact hsuffix
    rcases ofChars_cases hread with ⟨inner, element, htrim', hinner, -⟩ |
      ⟨inner, element, -, hbare, -⟩ | hleaf
    · -- then the part in brackets would end in an opening one
      have hinit : '[' :: inner = trim text.toList ++ behind ++ ['['] := by
        have heq : '[' :: inner ++ [']'] = trim text.toList ++ behind ++ ['['] ++ [']'] := by
          rw [← htrim']
          exact htrim.trans (by simp)
        exact List.append_cancel_right heq
      have hlast : inner.getLast? = some '[' := by
        cases hinner' : inner with
        | nil =>
          rw [hinner'] at hinit
          exact absurd (List.append_eq_singleton_iff.mp hinit.symm) (by simp [hne])
        | cons c rest =>
          have := congrArg List.getLast? hinit
          rwa [hinner', List.getLast?_cons_cons, List.getLast?_concat] at this
      exact absurd (Text.getLast?_trim hlast rfl) (getLast?_ne hinner)
    · rw [Unbracketed, htrim, List.append_assoc, List.head?_append_of_ne_nil _ hne] at hbare
      exact hbare
    · rcases leaf?_eq_some_iff.mp hleaf with ⟨_, _, heq⟩ | ⟨_, _, _, _, heq⟩
      · cases heq
      · cases heq
  · intro hbare
    rw [parse_eq_ok_iff] at h ⊢
    simpa using h.suffixed hbare

/-- **What the reader accepts**: the texts that the grammar derives, where `[]` stands behind texts
that do not start with a bracket. Every other text is refused as a whole. A text that is read can be
put in brackets, and it can be put in front of them unless it starts with one. -/
theorem parse_iff_spells (text : String) :
    (∀ e, parse text = .ok e ↔ Spells Unbracketed text.toList e) ∧
      (parse text = .error ⟨text⟩ ↔ ∀ e, ¬Spells Unbracketed text.toList e) ∧
      ∀ e, parse text = .ok e →
        Spells (fun _ => True) text.toList e ∧
          parse ("[" ++ text ++ "]") = .ok (.array e) ∧
          (parse (text ++ "[]") = .ok (.array e) ↔ Unbracketed text.toList) := by
  refine ⟨fun e => parse_eq_ok_iff, ?_, fun e he => ⟨?_, parse_brackets he, parse_suffix_iff he⟩⟩
  · rw [parse_eq_error_iff]
    exact forall_congr' fun e => not_congr parse_eq_ok_iff
  · exact spells_of_ofChars (fun _ _ => trivial) he

/-- **A text in brackets is not read in front of further ones**, although the grammar that allows
`[]` everywhere derives the array of the array. -/
theorem spells_bracketed_twice :
    Spells (fun _ => True) "[a][]".toList (.array (.array (.named "a"))) ∧
      parse "[a][]" = .error ⟨"[a][]"⟩ := by
  constructor
  · have hname : Spells (fun _ => True) "a".toList (.named "a") :=
      .name rfl fun kind => by cases kind <;> decide
    exact .suffixed (.bracketed hname) trivial
  · with_unfolding_all rfl

end TypeExpr

end Conformance

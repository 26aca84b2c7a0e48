import Mathlib.Data.List.Basic
import Conformance.Json.Basic
import Conformance.Json.Text

/-!
# Tokens are read back

The leaves of a compact JSON text, read with whatever stands behind them. A text in quotes is closed
by its own quote, since each quote inside is escaped, and so anything at all may follow. A number
has no end of its own, and what follows must not go on with it: in a compact text it is a comma, a
bracket, a brace, or nothing (`Conformance.Json.Delimited`).

An integer is read back as the integer that it is. This is not so for a double, whose digits are
rounded on the way back.

* `Conformance.Json.readLeaf_quote` – a text in quotes;
* `Conformance.Json.readLeaf_intText` – an integer of one word.
-/

namespace Conformance.Json

variable {c : Char} {cs ds rest : List Char} {n : Nat} {i : WordInt}

/-! ### Texts in quotes -/

theorem hexValue?_hexDigit (n : Nat) : hexValue? (hexDigit n) = some (n % 16) := by
  have hdigits : ∀ k < 16, hexValue? (Nat.digitChar k) = some k := by decide
  exact hdigits (n % 16) (Nat.mod_lt n (by omega))

/-- The four digits of a control character are read back. -/
theorem hexFour?_hexDigit (h : n < 32) :
    hexFour? '0' '0' (hexDigit (n / 16)) (hexDigit n) = some n := by
  have hzero : hexValue? '0' = some 0 := by decide
  have hvalue : ((0 * 16 + 0) * 16 + n / 16 % 16) * 16 + n % 16 = n := by omega
  simp only [hexFour?, hzero, hexValue?_hexDigit, Option.bind_eq_bind, Option.bind_some,
    Option.pure_def, hvalue]

/-- **A character in quotes** is written as a short escape, by its number, or as it is. -/
theorem escapeChar_cases (c : Char) :
    (∃ e, escapeChar c = ['\\', e] ∧ shortEscape? e = some c ∧ e ≠ 'u') ∨
      (escapeChar c = ['\\', 'u', '0', '0', hexDigit (c.toNat / 16), hexDigit c.toNat] ∧
        c.toNat < 32) ∨
      (escapeChar c = [c] ∧ c ≠ '"' ∧ c ≠ '\\' ∧ 32 ≤ c.toNat) := by
  have hshort : ∀ e d, c = d → shortEscape? e = some d → e ≠ 'u' →
      ∃ e', ['\\', e] = ['\\', e'] ∧ shortEscape? e' = some c ∧ e' ≠ 'u' := by
    rintro e d rfl he hu
    exact ⟨e, rfl, he, hu⟩
  unfold escapeChar
  split
  · next h => exact Or.inl (hshort '"' '"' (by simpa using h) rfl (by decide))
  split
  · next h => exact Or.inl (hshort '\\' '\\' (by simpa using h) rfl (by decide))
  split
  · next h =>
    exact Or.inl (hshort 'b' '\x08' (Char.toNat_inj.mp (by simpa using h)) rfl (by decide))
  split
  · next h =>
    exact Or.inl (hshort 'f' '\x0c' (Char.toNat_inj.mp (by simpa using h)) rfl (by decide))
  split
  · next h => exact Or.inl (hshort 'n' '\n' (by simpa using h) rfl (by decide))
  split
  · next h => exact Or.inl (hshort 'r' '\r' (by simpa using h) rfl (by decide))
  split
  · next h => exact Or.inl (hshort 't' '\t' (by simpa using h) rfl (by decide))
  split
  · next h => exact Or.inr (Or.inl ⟨rfl, h⟩)
  · next hquote hslash _ _ _ _ _ h =>
    exact Or.inr (Or.inr ⟨rfl, by simpa using hquote, by simpa using hslash, by omega⟩)

/-- A short escape is read back. -/
theorem readQuoted_short {e : Char} (h : shortEscape? e = some c) (hu : e ≠ 'u') :
    readQuoted ('\\' :: e :: rest) = (readQuoted rest).map fun p => (p.1.map (c :: ·), p.2) := by
  rw [readQuoted, h]
  · exact fun _ _ _ _ _ _ _ _ _ heq => absurd heq hu
  · exact fun _ _ _ _ _ heq => absurd heq hu

/-- A control character that is written by its number is read back. If another one follows, the two
are no surrogate pair. -/
theorem readQuoted_control (h : c.toNat < 32) :
    readQuoted ('\\' :: 'u' :: '0' :: '0' :: hexDigit (c.toNat / 16) :: hexDigit c.toNat :: rest) =
      (readQuoted rest).map fun p => (p.1.map (c :: ·), p.2) := by
  have hhigh : isHighSurrogate c.toNat = false := by simp [isHighSurrogate]; omega
  have hlow : isLowSurrogate c.toNat = false := by simp [isLowSurrogate]; omega
  rw [readQuoted.eq_def]
  split
  · next heq => exact absurd heq (by simp)
  · next heq => exact absurd heq (by simp)
  · next heq =>
    simp only [List.cons.injEq, true_and] at heq
    obtain ⟨rfl, rfl, rfl, rfl, rfl⟩ := heq
    simp [hexFour?_hexDigit h, hhigh, hlow, Char.ofNat_toNat]
  · next heq =>
    simp only [List.cons.injEq, true_and] at heq
    obtain ⟨rfl, rfl, rfl, rfl, rfl⟩ := heq
    simp [hexFour?_hexDigit h, hhigh, hlow, Char.ofNat_toNat]
  · next hne heq =>
    simp only [List.cons.injEq, true_and] at heq
    obtain ⟨rfl, rfl⟩ := heq
    exact absurd rfl (hne _ _ _ _ _ rfl)
  · next hne heq =>
    simp only [List.cons.injEq] at heq
    obtain ⟨rfl, rfl⟩ := heq
    exact absurd rfl (hne _ _ rfl)

/-- A character that is no escape, no quote and no control character is read as it is. -/
theorem readQuoted_plain (hquote : c ≠ '"') (hslash : c ≠ '\\') (h : 32 ≤ c.toNat) :
    readQuoted (c :: rest) = (readQuoted rest).map fun p => (p.1.map (c :: ·), p.2) := by
  rw [readQuoted]
  · simp [hslash, Nat.not_lt.mpr h]
  · exact hquote
  · exact fun _ _ _ _ _ _ _ _ _ heq => absurd heq hslash
  · exact fun _ _ _ _ _ heq => absurd heq hslash
  · exact fun _ _ heq => absurd heq hslash

/-- **A character is read back** as it is written inside quotes. -/
theorem readQuoted_escapeChar : readQuoted (escapeChar c ++ rest) =
    (readQuoted rest).map fun p => (p.1.map (c :: ·), p.2) := by
  rcases escapeChar_cases c with ⟨e, heq, hshort, hu⟩ | ⟨heq, h⟩ | ⟨heq, hquote, hslash, h⟩
  · rw [heq]
    exact readQuoted_short hshort hu
  · rw [heq]
    exact readQuoted_control h
  · rw [heq]
    exact readQuoted_plain hquote hslash h

/-- **A text in quotes is read back**, whatever follows its closing quote. -/
theorem readQuoted_flatMap :
    readQuoted (cs.flatMap escapeChar ++ '"' :: rest) = some (some cs, rest) := by
  induction cs with
  | nil => rw [List.flatMap_nil, List.nil_append, readQuoted]
  | cons c cs ih =>
    rw [List.flatMap_cons, List.append_assoc, readQuoted_escapeChar, ih]
    rfl

/-- A text in quotes is a leaf that is read back. -/
theorem readLeaf_quote {s : String} :
    readLeaf ((quote s).toList ++ rest) = some (.string s, rest) := by
  have hquote : (quote s).toList ++ rest = '"' :: (s.toList.flatMap escapeChar ++ '"' :: rest) := by
    simp [quote]
  rw [hquote, readLeaf, readQuoted_flatMap]
  simp

/-! ### Integers -/

/-- **What may stand behind a value** of a compact text: nothing, a comma, or the end of what the
value is in. -/
def Delimited (rest : List Char) : Prop := ∀ c ∈ rest.head?, c = ',' ∨ c = ']' ∨ c = '\x7d'

theorem delimited_nil : Delimited [] := fun _ h => absurd h (by simp)

theorem delimited_cons (h : c = ',' ∨ c = ']' ∨ c = '\x7d') : Delimited (c :: rest) := by
  intro d hd
  obtain rfl : c = d := Option.some.inj hd
  exact h

/-- Digits are read up to what is no digit. -/
theorem spanDigits_append (hds : ∀ c ∈ ds, c.isDigit = true)
    (hrest : ∀ c ∈ rest.head?, c.isDigit = false) :
    spanDigits (ds ++ rest) = (ds.map fun c => c.toNat - 48, rest) := by
  induction ds with
  | nil =>
    cases rest with
    | nil => rfl
    | cons c rest => simp [spanDigits, hrest c rfl]
  | cons c ds ih =>
    obtain ⟨hc, hds⟩ := List.forall_mem_cons.mp hds
    simp [spanDigits, hc, ih hds]

/-- The digits of a positive number do not start with a zero. -/
theorem toDigits_ne_zero_cons (h : 0 < n) : Nat.toDigits 10 n ≠ '0' :: ds := by
  induction n using Nat.strongRecOn generalizing ds with
  | ind n ih =>
    rw [Nat.toDigits_eq_if (by decide)]
    split
    · next hlt =>
      have hdigits : ∀ k < 10, 0 < k → Nat.digitChar k ≠ '0' := by decide
      exact fun heq => hdigits n hlt h (List.cons.inj heq).1
    · next hge =>
      intro heq
      rcases List.append_eq_cons_iff.mp heq with ⟨hnil, -⟩ | ⟨front, hfront, -⟩
      · exact Nat.toDigits_ne_nil hnil
      · exact ih (n / 10) (by omega) (by omega) hfront

theorem ofDigits_toDigits :
    DecimalLiteral.ofDigits 10 ((Nat.toDigits 10 n).map fun c => c.toNat - 48) = n := by
  have hread : Nat.ofDigitChars 10 (Nat.toDigits 10 n) 0 = n :=
    Nat.ofDigitChars_toDigits (by decide) (by decide)
  rw [DecimalLiteral.ofDigits, List.foldl_map]
  refine Eq.trans ?_ hread
  rw [Nat.ofDigitChars_eq_foldl]
  simp only [Nat.mul_comm 10]
  rfl

/-- Digits are a whole number if they do not start with a zero in front of others. -/
theorem readWhole_of_spanDigits {d : Nat} {digits : List Nat}
    (h : spanDigits cs = (d :: digits, rest)) (hzero : d = 0 → digits = []) :
    readWhole cs = some (d :: digits, rest) := by
  rw [readWhole, h]
  cases digits with
  | nil => cases d <;> rfl
  | cons d' digits =>
    cases d with
    | zero => exact absurd (hzero rfl) (List.cons_ne_nil _ _)
    | succ d => rfl

/-- **A natural number is read back**: it is written without leading zeros. -/
theorem readWhole_toDigits (hrest : ∀ c ∈ rest.head?, c.isDigit = false) :
    readWhole (Nat.toDigits 10 n ++ rest) =
      some ((Nat.toDigits 10 n).map fun c => c.toNat - 48, rest) := by
  have hdigits : ∀ c ∈ Nat.toDigits 10 n, c.isDigit = true := fun c hc =>
    Nat.isDigit_of_mem_toDigits (by decide) (by decide) hc
  have hspan := spanDigits_append hdigits hrest
  obtain ⟨c, cs, htext⟩ := List.exists_cons_of_ne_nil (Nat.toDigits_ne_nil (b := 10) (n := n))
  rw [htext] at hspan hdigits ⊢
  refine readWhole_of_spanDigits hspan fun hzero => ?_
  -- the first digit is a zero, and so the number is
  obtain ⟨hge, -⟩ := Char.isDigit_iff_toNat.mp (hdigits c List.mem_cons_self)
  obtain rfl : c = '0' := Char.toNat_inj.mp (Nat.le_antisymm (Nat.sub_eq_zero_iff_le.mp hzero) hge)
  rcases Nat.eq_zero_or_pos n with rfl | hpos
  · rw [Nat.toDigits_zero] at htext
    rw [← (List.cons.inj htext).2, List.map_nil]
  · exact absurd htext (toDigits_ne_zero_cons hpos)

/-- What delimits a value does not go on with a number. -/
theorem Delimited.endsNumber (h : Delimited rest) : ∀ c ∈ rest.head?,
    c.isDigit = false ∧ c ≠ '.' ∧ c ≠ 'e' ∧ c ≠ 'E' := by
  intro c hc
  rcases h c hc with rfl | rfl | rfl <;> decide

theorem readFraction_of_delimited (h : Delimited rest) : readFraction rest = some ([], rest) := by
  cases rest with
  | nil => rfl
  | cons c cs =>
    obtain ⟨-, hpoint, -⟩ := h.endsNumber c rfl
    rw [readFraction]
    exact fun _ heq => hpoint (List.cons.inj heq).1

theorem readExponent_of_delimited (h : Delimited rest) : readExponent rest = some (none, rest) := by
  cases rest with
  | nil => rfl
  | cons c cs =>
    obtain ⟨-, -, he, hE⟩ := h.endsNumber c rfl
    simp [readExponent, he, hE]

theorem ofInt?_val : WordInt.ofInt? i.val = some i := dif_pos ⟨i.lower, i.upper⟩

/-- Digits that denote an integer of one word are that integer; with a minus sign, zero would be a
double. -/
theorem numberOf_integer (negative : Bool) {whole : List Nat}
    (h : (if negative then -(DecimalLiteral.ofDigits 10 whole : Int)
      else DecimalLiteral.ofDigits 10 whole) = i.val) (hzero : negative = true → i.val ≠ 0) :
    numberOf negative whole [] none = .number (.integer i) := by
  have hne : (negative && (DecimalLiteral.ofDigits 10 whole : Int) == 0) = false := by
    cases negative with
    | false => rfl
    | true =>
      have hval : -(DecimalLiteral.ofDigits 10 whole : Int) = i.val := h
      have := hzero rfl
      simp
      omega
  simp [numberOf, hne, h, ofInt?_val]

/-- Digits behind a minus sign, and what delimits them. -/
theorem readNumber_minus {whole : List Nat} (hrest : Delimited rest)
    (h : readWhole cs = some (whole, rest)) :
    readNumber ('-' :: cs) = some (numberOf true whole [] none, rest) := by
  unfold readNumber
  simp only [h, Option.bind_eq_bind, Option.bind_some, readFraction_of_delimited hrest,
    readExponent_of_delimited hrest, Option.pure_def]

/-- Digits without a sign, and what delimits them. -/
theorem readNumber_plain {whole : List Nat} (hrest : Delimited rest) (hc : c ≠ '-')
    (h : readWhole (c :: cs) = some (whole, rest)) :
    readNumber (c :: cs) = some (numberOf false whole [] none, rest) := by
  unfold readNumber
  split
  next negative cs' heq =>
  split at heq
  · next hminus => exact absurd (List.cons.inj hminus).1 hc
  · obtain ⟨rfl, rfl⟩ := Prod.mk.inj heq
    simp only [h, Option.bind_eq_bind, Option.bind_some, readFraction_of_delimited hrest,
      readExponent_of_delimited hrest, Option.pure_def]

/-- **An integer of one word is read back.** -/
theorem readNumber_intText (hrest : Delimited rest) :
    readNumber ((Number.intText i.val).toList ++ rest) = some (.number (.integer i), rest) := by
  have hwhole : ∀ n, readWhole (Nat.toDigits 10 n ++ rest) = some (_, rest) := fun n =>
    readWhole_toDigits fun c hc => (hrest.endsNumber c hc).1
  unfold Number.intText
  split
  · next hneg =>
    have htext : ("-" ++ Number.natText (-i.val).toNat).toList ++ rest =
        '-' :: (Nat.toDigits 10 (-i.val).toNat ++ rest) := by simp [Number.natText]
    rw [htext, readNumber_minus hrest (hwhole _), numberOf_integer true]
    · rw [ofDigits_toDigits, if_pos rfl]
      omega
    · omega
  · next hpos =>
    obtain ⟨c, cs, hdigits⟩ := List.exists_cons_of_ne_nil
      (Nat.toDigits_ne_nil (b := 10) (n := i.val.toNat))
    -- a digit is no minus sign
    have hc : c ≠ '-' := by
      rintro rfl
      have hdigit : '-'.isDigit = true := Nat.isDigit_of_mem_toDigits (b := 10) (n := i.val.toNat)
        (by decide) (by decide) (hdigits ▸ List.mem_cons_self)
      exact absurd hdigit (by decide)
    have h := hwhole i.val.toNat
    rw [Number.natText, String.toList_ofList]
    rw [hdigits, List.cons_append] at h ⊢
    rw [readNumber_plain hrest hc h, numberOf_integer false]
    · rw [← hdigits, ofDigits_toDigits, if_neg (by decide)]
      omega
    · exact fun h => absurd h (by decide)

/-- The first character of an integer is a minus sign or a digit. -/
theorem exists_intText (j : Int) :
    ∃ c cs, (Number.intText j).toList = c :: cs ∧ (c = '-' ∨ c.isDigit = true) := by
  unfold Number.intText
  split
  · exact ⟨'-', _, by rw [String.toList_append]; rfl, Or.inl rfl⟩
  · obtain ⟨c, cs, htext⟩ := List.exists_cons_of_ne_nil
      (Nat.toDigits_ne_nil (b := 10) (n := j.toNat))
    have hc : c.isDigit = true := Nat.isDigit_of_mem_toDigits (b := 10) (n := j.toNat) (by decide)
      (by decide) (htext ▸ List.mem_cons_self)
    exact ⟨c, cs, by rw [Number.natText, String.toList_ofList, htext], Or.inr hc⟩

/-- What starts a number starts nothing else. -/
theorem ne_of_number {d : Char} (hc : c = '-' ∨ c.isDigit = true) (hminus : d ≠ '-')
    (hdigit : d.isDigit = false) : c ≠ d := by
  rintro rfl
  rcases hc with hc | hc
  · exact hminus hc
  · exact absurd hc (by simp [hdigit])

/-- A leaf that starts with a minus sign or a digit is a number. -/
theorem readLeaf_of_number (hc : c = '-' ∨ c.isDigit = true) :
    readLeaf (c :: cs) = readNumber (c :: cs) := by
  rw [readLeaf]
  · exact fun _ heq => absurd (List.cons.inj heq).1 (ne_of_number hc (by decide) (by decide))
  · exact fun _ heq => absurd (List.cons.inj heq).1 (ne_of_number hc (by decide) (by decide))
  · exact fun _ heq => absurd (List.cons.inj heq).1 (ne_of_number hc (by decide) (by decide))
  · exact fun _ heq => absurd (List.cons.inj heq).1 (ne_of_number hc (by decide) (by decide))

/-- An integer of one word is a leaf that is read back. -/
theorem readLeaf_intText (hrest : Delimited rest) :
    readLeaf ((Number.intText i.val).toList ++ rest) = some (.number (.integer i), rest) := by
  obtain ⟨c, cs, htext, hc⟩ := exists_intText i.val
  rw [← readNumber_intText hrest, htext, List.cons_append, readLeaf_of_number hc]

end Conformance.Json

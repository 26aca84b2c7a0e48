import Conformance.Proofs.Json.Tokens

/-!
# Compact texts are read back

The text of a JSON value, read, is the tree of that value (`Conformance.SourceText.ofJson`), with
nothing behind it. A reader is given as many units of fuel as the text allows, and a compact text
takes no more units than it has characters: each value, each item and each member is written with at
least one character of its own.

Doubles are left out (`Conformance.Json.IntegersOnly`), since not every double is read back.

* `Conformance.Source.ofJson` – the tree of a JSON value;
* `Conformance.Json.readValue_compact` – a value is read back, whatever delimits it;
* `Conformance.Json.readText_compact` – the text of a value is read back.
-/

namespace Conformance

namespace Source

mutual

/-- **The tree of a JSON value**: what the reading of its text amounts to. -/
def ofJson : Json → Source
  | .null => .json .null
  | .bool b => .json (.bool b)
  | .number n => .json (.number n)
  | .string s => .json (.string s)
  | .array items => .seq none (ofJsonItems items)
  | .object members => .map none (ofJsonMembers members)

/-- The trees of the items of an array. -/
def ofJsonItems : List Json → List Source
  | [] => []
  | v :: rest => ofJson v :: ofJsonItems rest

/-- The trees of the members of an object. -/
def ofJsonMembers : List (String × Json) → List (Source × Source)
  | [] => []
  | (k, v) :: rest => (.json (.string k), ofJson v) :: ofJsonMembers rest

end

end Source

/-- A text with the tree of a JSON value and nothing behind it. -/
def SourceText.ofJson (v : Json) : SourceText := ⟨.json, .ofJson v, none, [], 0⟩

namespace Json

mutual

/-- **No number is a double.** -/
def IntegersOnly : Json → Prop
  | .number (.double _) => False
  | .array items => itemsIntegersOnly items
  | .object members => membersIntegersOnly members
  | _ => True

/-- No number in the items of an array is a double. -/
def itemsIntegersOnly : List Json → Prop
  | [] => True
  | v :: rest => IntegersOnly v ∧ itemsIntegersOnly rest

/-- No number in the members of an object is a double. -/
def membersIntegersOnly : List (String × Json) → Prop
  | [] => True
  | (_, v) :: rest => IntegersOnly v ∧ membersIntegersOnly rest

end

variable {v : Json} {fuel : Nat} {c : Char} {cs rest rest' : List Char} {leaf : JsonLeaf}

/-! ### The steps of the reader -/

theorem skipSpace_cons (h : isSpace c = false) : skipSpace (c :: cs) = c :: cs := by
  simp [skipSpace, h]

/-- A value that opens no array and no object is a leaf. -/
theorem readValue_leaf (hspace : isSpace c = false) (harray : c ≠ '[') (hobject : c ≠ '\x7b')
    (h : readLeaf (c :: cs) = some (leaf, rest)) :
    readValue (fuel + 1) (c :: cs) = (.json leaf, some rest) := by
  rw [readValue, skipSpace_cons hspace]
  split
  · next heq => exact absurd (List.cons.inj heq).1 harray
  · next heq => exact absurd (List.cons.inj heq).1 hobject
  · rw [h]

/-- A bracket opens an array, which has items unless it is closed at once. -/
theorem readValue_array {items : List Source} {r : Option (List Char)}
    (hspace : isSpace c = false) (hclosed : c ≠ ']') (h : readItems fuel (c :: cs) = (items, r)) :
    readValue (fuel + 1) ('[' :: c :: cs) = (.seq none items, r) := by
  rw [readValue, skipSpace_cons (by decide)]
  simp only [skipSpace_cons hspace]
  split
  · next heq => exact absurd (List.cons.inj heq).1 hclosed
  · rw [h]

/-- A brace opens an object, which has members unless it is closed at once. -/
theorem readValue_object {entries : List (Source × Source)} {r : Option (List Char)}
    (hspace : isSpace c = false) (hclosed : c ≠ '\x7d')
    (h : readMembers fuel (c :: cs) = (entries, r)) :
    readValue (fuel + 1) ('\x7b' :: c :: cs) = (.map none entries, r) := by
  rw [readValue, skipSpace_cons (by decide)]
  simp only [skipSpace_cons hspace]
  split
  · next heq => exact absurd (List.cons.inj heq).1 hclosed
  · rw [h]

theorem readItems_last {s : Source} (h : readValue fuel cs = (s, some (']' :: rest))) :
    readItems (fuel + 1) cs = ([s], some rest) := by
  rw [readItems, h]
  rfl

theorem readItems_cons {s : Source} {items : List Source} {r : Option (List Char)}
    (h : readValue fuel cs = (s, some (',' :: rest))) (hrest : readItems fuel rest = (items, r)) :
    readItems (fuel + 1) cs = (s :: items, r) := by
  rw [readItems, h]
  simp only [skipSpace_cons (show isSpace ',' = false by decide), hrest]

theorem readMember_last {k s : Source} (h : readValue fuel cs = (s, some ('\x7d' :: rest))) :
    readMember (fuel + 1) k cs = ([(k, s)], some rest) := by
  rw [readMember, h]
  rfl

theorem readMember_cons {k s : Source} {entries : List (Source × Source)} {r : Option (List Char)}
    (h : readValue fuel cs = (s, some (',' :: rest)))
    (hrest : readMembers fuel rest = (entries, r)) :
    readMember (fuel + 1) k cs = ((k, s) :: entries, r) := by
  rw [readMember, h]
  simp only [skipSpace_cons (show isSpace ',' = false by decide), hrest]

theorem readMembers_of_readMember {k : String}
    (h : readValue fuel cs = (.json (.string k), some (':' :: rest))) :
    readMembers (fuel + 1) cs = readMember fuel (.json (.string k)) rest := by
  rw [readMembers, h]
  rfl

/-- What starts a number is no space. -/
theorem isSpace_of_number (hc : c = '-' ∨ c.isDigit = true) : isSpace c = false := by
  have hne : ∀ d, d ≠ '-' → d.isDigit = false → c ≠ d := fun d => ne_of_number hc
  simp [isSpace, hne]

/-! ### Whole values -/

theorem toList_array (items : List Json) (rest : List Char) :
    (compact (.array items)).toList ++ rest =
      '[' :: ((compactItems items).toList ++ ']' :: rest) := by
  simp [compact]

theorem toList_object (members : List (String × Json)) (rest : List Char) :
    (compact (.object members)).toList ++ rest =
      '\x7b' :: ((compactMembers members).toList ++ '\x7d' :: rest) := by
  simp [compact]

theorem toList_items (v w : Json) (items : List Json) :
    (compactItems (v :: w :: items)).toList =
      v.compact.toList ++ ',' :: (compactItems (w :: items)).toList := by
  rw [compactItems]
  · simp
  · simp

theorem toList_member (k : String) (v : Json) :
    (compactMembers [(k, v)]).toList = (quote k).toList ++ ':' :: v.compact.toList := by
  simp [compactMembers]

theorem toList_members (k : String) (v : Json) (m : String × Json)
    (members : List (String × Json)) :
    (compactMembers ((k, v) :: m :: members)).toList = (quote k).toList ++
      ':' :: (v.compact.toList ++ ',' :: (compactMembers (m :: members)).toList) := by
  rw [compactMembers]
  · simp
  · simp

theorem exists_quote (s : String) : ∃ cs, (quote s).toList = '"' :: cs := ⟨_, by simp [quote]; rfl⟩

/-- A value starts with a character that is no space and closes nothing. -/
theorem exists_compact (h : v.IntegersOnly) :
    ∃ c cs, v.compact.toList = c :: cs ∧ isSpace c = false ∧ c ≠ ']' := by
  cases v with
  | null => exact ⟨_, _, rfl, by decide, by decide⟩
  | bool b => cases b <;> exact ⟨_, _, rfl, by decide, by decide⟩
  | number n =>
    cases n with
    | double x => exact h.elim
    | integer i =>
      obtain ⟨c, cs, htext, hc⟩ := exists_intText i.val
      exact ⟨c, cs, htext, isSpace_of_number hc, ne_of_number hc (by decide) (by decide)⟩
  | string s =>
    obtain ⟨cs, htext⟩ := exists_quote s
    exact ⟨_, _, htext, by decide, by decide⟩
  | array items => exact ⟨'[', _, by simpa using toList_array items [], by decide, by decide⟩
  | object members =>
    exact ⟨'\x7b', _, by simpa using toList_object members [], by decide, by decide⟩

theorem length_pos_of_integersOnly (h : v.IntegersOnly) : 0 < v.compact.toList.length := by
  obtain ⟨c, cs, htext, -, -⟩ := exists_compact h
  rw [htext]
  exact Nat.succ_pos _

/-- The items of an array start like the first of them. -/
theorem exists_compactItems (items : List Json) (h : v.IntegersOnly) :
    ∃ c cs, (compactItems (v :: items)).toList = c :: cs ∧ isSpace c = false ∧ c ≠ ']' := by
  obtain ⟨c, cs, htext, hspace, hclosed⟩ := exists_compact h
  cases items with
  | nil => exact ⟨c, cs, htext, hspace, hclosed⟩
  | cons w items => exact ⟨c, _, by rw [toList_items, htext]; rfl, hspace, hclosed⟩

/-- The members of an object start with a quote. -/
theorem exists_compactMembers (k : String) (v : Json) (members : List (String × Json)) :
    ∃ cs, (compactMembers ((k, v) :: members)).toList = '"' :: cs := by
  obtain ⟨cs, htext⟩ := exists_quote k
  cases members with
  | nil => exact ⟨_, by rw [toList_member, htext]; rfl⟩
  | cons m members => exact ⟨_, by rw [toList_members, htext]; rfl⟩

theorem readValue_quote {s : String} :
    readValue (fuel + 1) ((quote s).toList ++ rest) = (.json (.string s), some rest) := by
  have hleaf : readLeaf ((quote s).toList ++ rest) = _ := readLeaf_quote
  obtain ⟨cs, htext⟩ := exists_quote s
  rw [htext] at hleaf ⊢
  exact readValue_leaf (by decide) (by decide) (by decide) hleaf

theorem readValue_intText {i : WordInt} (hrest : Delimited rest) :
    readValue (fuel + 1) ((Number.intText i.val).toList ++ rest) =
      (.json (.number (.integer i)), some rest) := by
  have hleaf := readLeaf_intText (i := i) hrest
  obtain ⟨c, cs, htext, hc⟩ := exists_intText i.val
  rw [htext] at hleaf ⊢
  exact readValue_leaf (isSpace_of_number hc) (ne_of_number hc (by decide) (by decide))
    (ne_of_number hc (by decide) (by decide)) hleaf

/-- The name of a member is read back. -/
theorem readMembers_quote {k : String} :
    readMembers (fuel + 2) ((quote k).toList ++ ':' :: cs) =
      readMember (fuel + 1) (.json (.string k)) cs :=
  readMembers_of_readMember readValue_quote

mutual

/-- **A value is read back**, whatever delimits it. -/
theorem readValue_compact : ∀ v : Json, v.IntegersOnly → ∀ {fuel : Nat} {rest : List Char},
    Delimited rest → v.compact.toList.length ≤ fuel + 1 →
      readValue (fuel + 1) (v.compact.toList ++ rest) = (.ofJson v, some rest)
  | .null => by
    intro _ fuel rest _ _
    exact readValue_leaf (by decide) (by decide) (by decide) rfl
  | .bool b => by
    intro _ fuel rest _ _
    cases b <;> exact readValue_leaf (by decide) (by decide) (by decide) rfl
  | .number (.double x) => fun h => h.elim
  | .number (.integer i) => by
    intro _ fuel rest hrest _
    exact readValue_intText hrest
  | .string s => by
    intro _ fuel rest _ _
    exact readValue_quote
  | .array [] => by
    intro _ fuel rest _ _
    rfl
  | .array (v :: items) => by
    intro h fuel rest _ hfuel
    have hlength := congrArg List.length (toList_array (v :: items) [])
    simp only [List.append_nil, List.length_cons, List.length_append, List.length_nil] at hlength
    have hitems : readItems fuel ((compactItems (v :: items)).toList ++ ']' :: rest) = _ :=
      readItems_compact (v :: items) (List.cons_ne_nil _ _) h (by omega)
    obtain ⟨c, cs, htext, hspace, hclosed⟩ := exists_compactItems items h.1
    rw [toList_array]
    rw [htext] at hitems ⊢
    exact readValue_array hspace hclosed hitems
  | .object [] => by
    intro _ fuel rest _ _
    rfl
  | .object ((k, v) :: members) => by
    intro h fuel rest _ hfuel
    have hlength := congrArg List.length (toList_object ((k, v) :: members) [])
    simp only [List.append_nil, List.length_cons, List.length_append, List.length_nil] at hlength
    have hmembers : readMembers fuel
        ((compactMembers ((k, v) :: members)).toList ++ '\x7d' :: rest) = _ :=
      readMembers_compact ((k, v) :: members) (List.cons_ne_nil _ _) h (by omega)
    obtain ⟨cs, htext⟩ := exists_compactMembers k v members
    rw [toList_object]
    rw [htext] at hmembers ⊢
    exact readValue_object (by decide) (by decide) hmembers

/-- The items of an array are read back. -/
theorem readItems_compact : ∀ items : List Json, items ≠ [] → itemsIntegersOnly items →
    ∀ {fuel : Nat} {rest : List Char}, (compactItems items).toList.length < fuel →
      readItems fuel ((compactItems items).toList ++ ']' :: rest) =
        (Source.ofJsonItems items, some rest)
  | [] => fun hne => absurd rfl hne
  | [v] => by
    intro _ h fuel rest hfuel
    rw [compactItems] at hfuel
    have hpos := length_pos_of_integersOnly h.1
    obtain ⟨fuel, rfl⟩ : ∃ n, fuel = n + 2 := ⟨fuel - 2, by omega⟩
    exact readItems_last (readValue_compact v h.1 (delimited_cons (by simp)) (by omega))
  | v :: w :: items => by
    intro _ h fuel rest hfuel
    have hpos := length_pos_of_integersOnly h.1
    rw [toList_items, List.length_append, List.length_cons] at hfuel
    obtain ⟨fuel, rfl⟩ : ∃ n, fuel = n + 2 := ⟨fuel - 2, by omega⟩
    rw [toList_items, List.append_assoc]
    exact readItems_cons (readValue_compact v h.1 (delimited_cons (by simp)) (by omega))
      (readItems_compact (w :: items) (List.cons_ne_nil _ _) h.2 (by omega))

/-- The members of an object are read back. -/
theorem readMembers_compact : ∀ members : List (String × Json), members ≠ [] →
    membersIntegersOnly members → ∀ {fuel : Nat} {rest : List Char},
      (compactMembers members).toList.length < fuel →
        readMembers fuel ((compactMembers members).toList ++ '\x7d' :: rest) =
          (Source.ofJsonMembers members, some rest)
  | [] => fun hne => absurd rfl hne
  | [(k, v)] => by
    intro _ h fuel rest hfuel
    have hpos := length_pos_of_integersOnly h.1
    rw [toList_member, List.length_append, List.length_cons] at hfuel
    obtain ⟨fuel, rfl⟩ : ∃ n, fuel = n + 3 := ⟨fuel - 3, by omega⟩
    rw [toList_member, List.append_assoc, List.cons_append, readMembers_quote]
    exact readMember_last (readValue_compact v h.1 (delimited_cons (by simp)) (by omega))
  | (k, v) :: m :: members => by
    intro _ h fuel rest hfuel
    have hpos := length_pos_of_integersOnly h.1
    rw [toList_members, List.length_append, List.length_cons, List.length_append,
      List.length_cons] at hfuel
    obtain ⟨fuel, rfl⟩ : ∃ n, fuel = n + 3 := ⟨fuel - 3, by omega⟩
    rw [toList_members, List.append_assoc, List.cons_append, readMembers_quote, List.append_assoc]
    exact readMember_cons (readValue_compact v h.1 (delimited_cons (by simp)) (by omega))
      (readMembers_compact (m :: members) (List.cons_ne_nil _ _) h.2 (by omega))

end

/-- **The text of a value is read back.** -/
theorem readText_compact (h : v.IntegersOnly) : readText v.compact = SourceText.ofJson v := by
  have hread : readValue (3 * v.compact.toList.length + 2 + 1) (v.compact.toList ++ []) = _ :=
    readValue_compact v h delimited_nil (by omega)
  rw [List.append_nil] at hread
  rw [readText, hread]
  rfl

end Json

end Conformance

import Conformance.Description.Loading
import Conformance.Proofs.Description.Registrations
import Conformance.Proofs.Documents
import Conformance.Proofs.Json.ReadBack
import Conformance.Proofs.Json.Trees
import Conformance.Proofs.TypeExpr.WrittenForm

/-!
# The written form of type descriptions

A field is written as one object, in which its annotations stand among the known keys, all in the
order of their names. It is read back member by member, and the members may come in any order: what
is known of the field depends only on which members have been met
(`Conformance.FieldDescription.draft`), and each member adds what it stands for. When all have been
met, nothing of the field is missing, since a known key is left out only where its default says as
much.

A reader counts the levels that it may still descend, and so what is read back is told for any
number of levels: as many are needed as the written form is nested, and an annotation stands five
levels inside of its file.

* `Conformance.FieldDescription.Storable` – the fields that a description can hold;
* `Conformance.SourceText.readFieldEntry_draft` – one more member is read;
* `Conformance.SourceText.readField_toDocument`, `Conformance.SourceText.readType_toDocument`,
  `Conformance.SourceText.readTypes_describe` – fields, types and files are read back;
* `Conformance.Registry.ofSource_describe` – files are loaded.
-/

namespace Conformance

open SourceText

/-- **The description file of a list of types.** -/
def Registry.describe (types : List ObjectType) : Document :=
  .object [("types", .array (types.map (·.toDocument)))]

open Registry (describe)

/-! ### What a description can hold -/

namespace FieldDescription

/-- **A field that a description file can hold**: its type is well formed and no annotation has the
name of a known key. The rest is true of every field that there is: its least number of items is a
word, and its annotations are a mapping to documents. -/
structure Storable (f : FieldDescription) : Prop where
  /-- The type can be read back. -/
  type : f.type.WellFormed
  /-- No annotation takes the place of a known key. -/
  unknown : ∀ e ∈ f.annotations, e.1 ∉ knownKeys
  /-- The least number of items is a word. -/
  word : ∀ n, f.minLength = some n → (n : Int) ≤ WordInt.max
  /-- The annotations are in the order of their keys. -/
  ordered : Keyed.Ordered f.annotations
  /-- Their values are documents in order. -/
  values : ∀ e ∈ f.annotations, e.2.InOrder

/-- The members of the object that a field is written as. -/
def members (f : FieldDescription) : List (String × Document) :=
  Keyed.ofList (f.knownMembers ++ f.annotations)

/-- The members whose keys are not known. -/
def unknownMembers {α : Type} (members : List (String × α)) : List (String × α) :=
  members.filter fun e => e.1 ∉ knownKeys

section Members

variable {α : Type} {members : List (String × α)} {key : String} {a : α}

theorem mem_unknownMembers_iff {e : String × α} :
    e ∈ unknownMembers members ↔ e ∈ members ∧ e.1 ∉ knownKeys := by
  simp [unknownMembers]

theorem unknownMembers_append_known (h : key ∈ knownKeys) :
    unknownMembers (members ++ [(key, a)]) = unknownMembers members := by
  simp [unknownMembers, h]

theorem unknownMembers_append_unknown (h : key ∉ knownKeys) :
    unknownMembers (members ++ [(key, a)]) = unknownMembers members ++ [(key, a)] := by
  simp [unknownMembers, h]

end Members

variable {f : FieldDescription} {key : String} {d : Document}

/-- The known keys that are written, one by one. -/
theorem mem_knownMembers_iff : (key, d) ∈ f.knownMembers ↔
    (key = "name" ∧ d = .string f.name) ∨ (key = "type" ∧ d = .string f.type.text) ∨
    (key = "required" ∧ ∃ b, f.required = some b ∧ d = .bool b) ∨
    (key = "nullable" ∧ ∃ b, f.nullable = some b ∧ d = .bool b) ∨
    (key = "pattern" ∧ ∃ p, f.pattern = some p ∧ d = .string p) ∨
    (key = "min_length" ∧ ∃ n, f.minLength = some n ∧ d = .ofCount n) ∨
    (key = "non_empty" ∧ f.nonEmpty = true ∧ d = .bool true) := by
  have hoption : ∀ {α : Type} (k : String) (o : Option α) (g : α → Document),
      (key, d) ∈ (o.map fun a => (k, g a)).toList ↔ key = k ∧ ∃ a, o = some a ∧ d = g a := by
    intro α k o g
    cases o <;> simp
  have hflag : (key, d) ∈ (if f.nonEmpty then [("non_empty", Document.bool true)] else []) ↔
      key = "non_empty" ∧ f.nonEmpty = true ∧ d = .bool true := by
    cases f.nonEmpty <;> simp
  simp only [knownMembers, List.mem_append, hoption, hflag, List.mem_cons, List.not_mem_nil,
    or_false, Prod.mk.injEq, or_assoc]

/-- The value of a known key is no array and no object. -/
theorem nesting_of_mem_knownMembers (h : (key, d) ∈ f.knownMembers) : d.nesting = 0 := by
  rcases mem_knownMembers_iff.mp h with
    ⟨-, rfl⟩ | ⟨-, rfl⟩ | ⟨-, b, -, rfl⟩ | ⟨-, b, -, rfl⟩ | ⟨-, p, -, rfl⟩ | ⟨-, n, -, rfl⟩ |
    ⟨-, -, rfl⟩
  all_goals rfl

/-- The known keys are written in the order of their list, each at most once. -/
theorem sublist_knownKeys (f : FieldDescription) :
    (f.knownMembers.map (·.1)).Sublist knownKeys := by
  have hoption : ∀ {α : Type} (key : String) (o : Option α) (g : α → Document),
      ((o.map fun a => (key, g a)).toList.map (·.1)).Sublist [key] := by
    intro α key o g
    cases o <;> simp
  have hflag : ((if f.nonEmpty then [("non_empty", Document.bool true)] else []).map
      (·.1)).Sublist ["non_empty"] := by
    cases f.nonEmpty <;> simp
  simp only [knownMembers, List.map_append]
  exact ((((List.Sublist.refl _).append (hoption "required" _ _)).append
    (hoption "nullable" _ _)).append (hoption "pattern" _ _)).append
    (hoption "min_length" _ _) |>.append hflag

theorem Storable.integersOnly_of_mem_knownMembers (h : f.Storable) {e : String × Document}
    (he : e ∈ f.knownMembers) : e.2.IntegersOnly := by
  rcases mem_knownMembers_iff.mp he with
    ⟨-, hd⟩ | ⟨-, hd⟩ | ⟨-, b, -, hd⟩ | ⟨-, b, -, hd⟩ | ⟨-, p, -, hd⟩ | ⟨-, n, hn, hd⟩ | ⟨-, -, hd⟩
  case inr.inr.inr.inr.inr.inl =>
    rw [hd, Document.ofCount, Number.ofNat_of_le (h.word n hn)]
    trivial
  all_goals
    rw [hd]
    trivial

theorem Storable.nodup_keys (h : f.Storable) :
    ((f.knownMembers ++ f.annotations).map (·.1)).Nodup := by
  rw [List.map_append]
  refine List.Nodup.append (f.sublist_knownKeys.nodup (by decide)) h.ordered.nodup_keys ?_
  intro key hknown hannotation
  obtain ⟨e, he, rfl⟩ := List.mem_map.mp hannotation
  exact h.unknown e he (f.sublist_knownKeys.subset hknown)

theorem Storable.mem_members_iff (h : f.Storable) {e : String × Document} :
    e ∈ f.members ↔ e ∈ f.knownMembers ∨ e ∈ f.annotations := by
  rw [members, Keyed.mem_ofList_iff h.nodup_keys, List.mem_append]

/-- What is left of the members of a field without the known keys are its annotations. -/
theorem Storable.ofList_unknownMembers (h : f.Storable) :
    Keyed.ofList (unknownMembers f.members) = f.annotations := by
  have hmembers : (f.members.map (·.1)).Nodup := (Keyed.ordered_ofList _).nodup_keys
  have hunknown : ((unknownMembers f.members).map (·.1)).Nodup :=
    (List.filter_sublist.map _).nodup hmembers
  rw [Keyed.ofList_congr hunknown h.ordered.nodup_keys, Keyed.ofList_of_ordered h.ordered]
  intro e
  rw [mem_unknownMembers_iff, h.mem_members_iff]
  constructor
  · rintro ⟨hknown | hannotation, hunknown⟩
    · exact absurd (f.sublist_knownKeys.subset (List.mem_map_of_mem hknown)) hunknown
    · exact hannotation
  · exact fun hannotation => ⟨.inr hannotation, h.unknown e hannotation⟩

/-! ### The part of a field that has been read -/

/-- What is known of a key after some members: its value, once it was among them. -/
def met {α : Type} (key : String) (a : α) (done : List (String × Document)) : Option α :=
  if key ∈ done.map (·.1) then some a else none

variable {α : Type} {k : String} {a : α} {done : List (String × Document)}

theorem met_of_mem (h : key ∈ done.map (·.1)) : met key a done = some a := if_pos h

theorem met_of_not_mem (h : key ∉ done.map (·.1)) : met key a done = none := if_neg h

@[simp]
theorem met_append_self : met key a (done ++ [(key, d)]) = some a := if_pos (by simp)

@[simp]
theorem met_append_of_ne (h : key ≠ k) : met key a (done ++ [(k, d)]) = met key a done :=
  if_congr (by simp [h]) rfl rfl

/-- What was met is what there is, if the key is written unless there is nothing. -/
theorem join_met {o : Option α} (h : ∀ a, o = some a → key ∈ done.map (·.1)) :
    (met key o done).join = o := by
  by_cases hkey : key ∈ done.map (·.1)
  · rw [met_of_mem hkey]
    rfl
  · rw [met_of_not_mem hkey]
    cases o with
    | none => rfl
    | some a => exact absurd (h a rfl) hkey

/-- **The part of a field that has been read** when these of its members have been. -/
def draft (f : FieldDescription) (done : List (String × Document)) : FieldDraft where
  name := met "name" f.name done
  type := met "type" f.type done
  required := met "required" f.required done
  nullable := met "nullable" f.nullable done
  pattern := met "pattern" f.pattern done
  minLength := met "min_length" f.minLength done
  nonEmpty := met "non_empty" f.nonEmpty done
  annotations := Keyed.ofList (unknownMembers done)
  keyed := true

/-- A member whose key is not known is an annotation, and nothing else. -/
theorem draft_append_unknown (h : key ∉ knownKeys) : f.draft (done ++ [(key, d)]) =
    { f.draft done with annotations := Keyed.insert key d (f.draft done).annotations } := by
  have hne : ∀ k ∈ knownKeys, ∀ {α : Type} {a : α}, met k a (done ++ [(key, d)]) = met k a done :=
    fun k hk => met_append_of_ne (ne_of_mem_of_not_mem hk h)
  simp only [knownKeys, List.forall_mem_cons] at hne
  obtain ⟨hname, htype, hrequired, hnullable, hpattern, hlength, hempty, -⟩ := hne
  simp only [draft, hname, htype, hrequired, hnullable, hpattern, hlength, hempty,
    unknownMembers_append_unknown h, Keyed.ofList, List.foldl_append, List.foldl_cons,
    List.foldl_nil]

/-- **The whole field has been read** when all of its members have been. -/
theorem Storable.draft_members (h : f.Storable) :
    (f.draft f.members).name = some f.name ∧ (f.draft f.members).type = some f.type ∧
      (f.draft f.members).required.join = f.required ∧
      (f.draft f.members).nullable.join = f.nullable ∧
      (f.draft f.members).pattern.join = f.pattern ∧
      (f.draft f.members).minLength.join = f.minLength ∧
      (f.draft f.members).nonEmpty.getD false = f.nonEmpty ∧
      (f.draft f.members).annotations = f.annotations := by
  have hwritten : ∀ (key : String) (d : Document), (key, d) ∈ f.knownMembers →
      key ∈ f.members.map (·.1) :=
    fun _ _ hknown => List.mem_map_of_mem (h.mem_members_iff.mpr (.inl hknown))
  have hname : "name" ∈ f.members.map (·.1) :=
    hwritten _ (.string f.name) (by simp [mem_knownMembers_iff])
  have htype : "type" ∈ f.members.map (·.1) :=
    hwritten _ (.string f.type.text) (by simp [mem_knownMembers_iff])
  have hrequired : (met "required" f.required f.members).join = f.required :=
    join_met fun b hb => hwritten _ (.bool b) (by simp [mem_knownMembers_iff, hb])
  have hnullable : (met "nullable" f.nullable f.members).join = f.nullable :=
    join_met fun b hb => hwritten _ (.bool b) (by simp [mem_knownMembers_iff, hb])
  have hpattern : (met "pattern" f.pattern f.members).join = f.pattern :=
    join_met fun p hp => hwritten _ (.string p) (by simp [mem_knownMembers_iff, hp])
  have hlength : (met "min_length" f.minLength f.members).join = f.minLength :=
    join_met fun n hn => hwritten _ (.ofCount n) (by simp [mem_knownMembers_iff, hn])
  have hempty : (met "non_empty" f.nonEmpty f.members).getD false = f.nonEmpty := by
    cases htrue : f.nonEmpty with
    | false =>
      unfold met
      split
      · rfl
      · rfl
    | true => rw [met_of_mem (hwritten _ (.bool true) (by simp [mem_knownMembers_iff, htrue]))]; rfl
  simp only [draft, met_of_mem hname, met_of_mem htype, hrequired, hnullable, hpattern, hlength,
    hempty, h.ofList_unknownMembers, and_self]

end FieldDescription

namespace SourceText

variable {t : SourceText} {f : FieldDescription} {depth : Nat}

/-! ### Leaves -/

theorem readString_string {s : String} : t.readString (.json (.string s)) = pure s := rfl

theorem readTypeExpr_text {e : TypeExpr} (h : e.WellFormed) :
    t.readTypeExpr (.json (.string e.text)) = pure e := by
  rw [readTypeExpr, readString_string, pure_bind, TypeExpr.parse_text h]

theorem readBool_bool {b : Bool} : t.readBool (.json (.bool b)) = pure b := rfl

theorem readCount_ofCount {n : Nat} (h : (n : Int) ≤ WordInt.max) :
    t.readCount (.ofJson (Document.ofCount n).toJson) = pure n := by
  rw [Document.ofCount, Number.ofNat_of_le h]
  simp [Document.toJson, Source.ofJson, readCount, follow]

theorem readOptional_leaf {α : Type} {read : Source → Reading α} {leaf : JsonLeaf} {a : α}
    (hnull : leaf ≠ .null) (h : read (.json leaf) = pure a) :
    t.readOptional read (.json leaf) = pure (some a) := by
  cases leaf with
  | null => exact absurd rfl hnull
  | _ => simp [readOptional, follow, h]

/-! ### Fields -/

@[simp]
theorem once_none {α : Type} {key : String} : once key (none : Option α) = pure () := rfl

open FieldDescription in
/-- **One more member of a field is read.** -/
theorem readFieldEntry_draft (ht : t.format = .json) (hf : f.Storable) {key : String} {d : Document}
    {done : List (String × Document)} (hmem : (key, d) ∈ f.members)
    (hnew : key ∉ done.map (·.1)) :
    t.readFieldEntry depth (f.draft done) (.json (.string key)) (.ofJson d.toJson) =
      nested d.nesting depth (f.draft (done ++ [(key, d)])) := by
  rw [readFieldEntry, readKey_string ht, pure_bind]
  have hmet : ∀ {α : Type} {a : α}, met key a done = none := met_of_not_mem hnew
  rcases hf.mem_members_iff.mp hmem with hknown | hannotation
  · have hkey : key ∈ knownKeys := f.sublist_knownKeys.subset (List.mem_map_of_mem hknown)
    have hrest : unknownMembers (done ++ [(key, d)]) = _ := unknownMembers_append_known hkey
    rw [nesting_of_mem_knownMembers hknown, nested_zero]
    rcases mem_knownMembers_iff.mp hknown with
      ⟨rfl, rfl⟩ | ⟨rfl, rfl⟩ | ⟨rfl, b, hb, rfl⟩ | ⟨rfl, b, hb, rfl⟩ | ⟨rfl, p, hp, rfl⟩ |
      ⟨rfl, n, hn, rfl⟩ | ⟨rfl, htrue, rfl⟩
    · simp [draft, hmet, hrest, Document.toJson, Source.ofJson, readString_string]
    · simp [draft, hmet, hrest, Document.toJson, Source.ofJson, readTypeExpr_text hf.type]
    · have hvalue : t.readOptional t.readBool (.json (.bool b)) = _ :=
        readOptional_leaf (by simp) readBool_bool
      simp [draft, hmet, hrest, Document.toJson, Source.ofJson, hvalue, hb]
    · have hvalue : t.readOptional t.readBool (.json (.bool b)) = _ :=
        readOptional_leaf (by simp) readBool_bool
      simp [draft, hmet, hrest, Document.toJson, Source.ofJson, hvalue, hb]
    · have hvalue : t.readOptional t.readString (.json (.string p)) = _ :=
        readOptional_leaf (by simp) readString_string
      simp [draft, hmet, hrest, Document.toJson, Source.ofJson, hvalue, hp]
    · have hvalue : t.readOptional t.readCount (.ofJson (Document.ofCount n).toJson) = _ :=
        readOptional_leaf (by simp) (readCount_ofCount (hf.word n hn))
      simp [draft, hmet, hrest, hvalue, hn]
    · simp [draft, hmet, hrest, Document.toJson, Source.ofJson, readBool_bool, htrue]
  · have hunknown : key ∉ knownKeys := hf.unknown _ hannotation
    have hvalue : t.readAnnotationValue depth (.ofJson d.toJson) =
        nested d.nesting depth (d, true) := by
      rw [readAnnotationValue_eq ht (Source.isJsonTree_ofJson _), readDocument_ofJson ht,
        Document.ofJson_toJson d (hf.values _ hannotation), nested_map]
      rfl
    have hne := hunknown
    simp only [knownKeys, List.mem_cons, List.not_mem_nil, or_false, not_or] at hne
    obtain ⟨hname, htype, hrequired, hnullable, hpattern, hlength, hempty⟩ := hne
    simp only [beq_iff_eq, hname, htype, hrequired, hnullable, hpattern, hlength, hempty,
      if_false, hvalue]
    exact nested_map.trans (by rw [draft_append_unknown hunknown]; rfl)

/-- **The members of a field are read** one after the other. -/
theorem foldlM_readFieldEntry (ht : t.format = .json) (hf : f.Storable) :
    ∀ {done rest : List (String × Document)}, done ++ rest = f.members →
      (Source.ofJsonMembers (Document.toJsonMembers rest)).foldlM
        (fun d e => t.readFieldEntry depth d e.1 e.2) (f.draft done) =
          nested (Json.membersNesting (Document.toJsonMembers rest)) depth (f.draft f.members)
  | done, [], h => by
    rw [List.append_nil] at h
    rw [h]
    exact nested_zero.symm
  | done, (key, d) :: rest, h => by
    have hmem : (key, d) ∈ f.members := by
      rw [← h]
      simp
    have hnew : key ∉ done.map (·.1) := by
      have hnodup : (f.members.map (·.1)).Nodup := (Keyed.ordered_ofList _).nodup_keys
      rw [← h, List.map_append, List.nodup_append] at hnodup
      exact fun hkey => hnodup.2.2 _ hkey _ List.mem_cons_self rfl
    have hrest : done ++ [(key, d)] ++ rest = f.members := by
      rw [← h]
      simp
    rw [Document.toJsonMembers, Source.ofJsonMembers, List.foldlM_cons,
      readFieldEntry_draft ht hf hmem hnew]
    exact nested_bind (foldlM_readFieldEntry ht hf hrest)

theorem readEntries_zero {entries : List (Source × Source)} :
    t.readEntries 0 (.map none entries) = throw .recursionLimit := rfl

theorem readEntries_succ {entries : List (Source × Source)} :
    t.readEntries (depth + 1) (.map none entries) = pure entries := rfl

open FieldDescription in
/-- **A field is read back.** -/
theorem readField_toDocument (ht : t.format = .json) (hf : f.Storable) :
    t.readField depth (.ofJson f.toDocument.toJson) = nested f.toDocument.nesting depth f := by
  have hjson : f.toDocument.toJson = .object (Document.toJsonMembers f.members) := by
    rw [toDocument, Document.ofMembers, Document.toJson]
    rfl
  have hnesting : f.toDocument.nesting =
      Json.membersNesting (Document.toJsonMembers f.members) + 1 := by
    rw [Document.nesting, hjson, Json.nesting]
  rw [hjson, hnesting, Source.ofJson, readField]
  cases depth with
  | zero =>
    rw [nested_of_gt (Nat.succ_pos _), readEntries_zero]
    rfl
  | succ depth =>
    rw [readEntries_succ, pure_bind, nested_succ]
    have hdraft : f.draft [] = ⟨none, none, none, none, none, none, none, [], true⟩ := rfl
    rw [Nat.add_sub_cancel, ← hdraft, foldlM_readFieldEntry ht hf (List.nil_append _)]
    refine nested_bind_pure ?_
    obtain ⟨hname, htype, hrequired, hnullable, hpattern, hlength, hempty, hannotations⟩ :=
      hf.draft_members
    have hkeyed : (f.draft f.members).keyed = true := rfl
    simp only [hname, htype, hrequired, hnullable, hpattern, hlength, hempty, hannotations, hkeyed,
      if_true]

/-! ### Types and files -/

/-- A list is read back if each of its elements is. -/
theorem mapM_toDocument {α : Type} {f : α → Document} {read : Nat → Source → Reading α} :
    ∀ {l : List α}, (∀ x ∈ l, read depth (.ofJson (f x).toJson) = nested (f x).nesting depth x) →
      (Source.ofJsonItems (Document.toJsonItems (l.map f))).mapM (read depth) =
        nested (Json.itemsNesting (Document.toJsonItems (l.map f))) depth l
  | [], _ => nested_zero.symm
  | x :: rest, h => by
    obtain ⟨hx, hrest⟩ := List.forall_mem_cons.mp h
    rw [List.map_cons, Document.toJsonItems, Source.ofJsonItems, List.mapM_cons, hx,
      mapM_toDocument hrest]
    exact nested_bind nested_map

/-- An array is read back if each of its items is. -/
theorem readItems_toDocument {α : Type} {f : α → Document} {read : Nat → Source → Reading α}
    {l : List α}
    (h : ∀ x ∈ l, ∀ depth, read depth (.ofJson (f x).toJson) = nested (f x).nesting depth x) :
    (t.readItems depth (.ofJson (Document.array (l.map f)).toJson) >>= fun items =>
      items.mapM (read (depth - 1))) = nested (Document.array (l.map f)).nesting depth l := by
  have hnesting : (Document.array (l.map f)).nesting =
      Json.itemsNesting (Document.toJsonItems (l.map f)) + 1 := by
    rw [Document.nesting, Document.toJson, Json.nesting]
  rw [hnesting, Document.toJson, Source.ofJson]
  cases depth with
  | zero =>
    rw [nested_of_gt (Nat.succ_pos _)]
    rfl
  | succ depth =>
    rw [nested_succ, ← mapM_toDocument fun x hx => h x hx depth]
    rfl

theorem positional?_map {entries : List (Source × Source)} :
    t.positional? depth (.map none entries) = pure none := by
  cases hformat : t.format <;> simp [positional?, follow, hformat]

theorem readFields_toDocument (ht : t.format = .json) {fields : List FieldDescription}
    (h : ∀ f ∈ fields, f.Storable) :
    t.readFields depth (.ofJson (Document.array (fields.map (·.toDocument))).toJson) =
      nested (Document.array (fields.map (·.toDocument))).nesting depth fields :=
  readItems_toDocument fun f hf _ => readField_toDocument ht (h f hf)

/-- The fields of a type are written before its name. -/
theorem toDocument_type (type : ObjectType) : type.toDocument =
    .object [("fields", .array (type.fields.map (·.toDocument))), ("name", .string type.name)] := by
  have hbefore : Text.before "fields" "name" = true := by decide
  simp [ObjectType.toDocument, Document.ofMembers, Keyed.ofList, Keyed.insert, hbefore]

theorem readTypeEntry_fields (ht : t.format = .json) {name : Option String} {v : Source} :
    t.readTypeEntry depth (name, none) (.json (.string "fields")) v =
      t.readFields depth v >>= fun fields => pure (name, some fields) := by
  simp [readTypeEntry, readKey_string ht]

theorem readTypeEntry_name (ht : t.format = .json) {fields : Option (List FieldDescription)}
    {name : String} :
    t.readTypeEntry depth (none, fields) (.json (.string "name")) (.json (.string name)) =
      pure (some name, fields) := by
  simp [readTypeEntry, readKey_string ht, readString_string]

/-- **A type is read back.** -/
theorem readType_toDocument (ht : t.format = .json) {type : ObjectType}
    (h : ∀ f ∈ type.fields, f.Storable) :
    t.readType depth (.ofJson type.toDocument.toJson) =
      nested type.toDocument.nesting depth type := by
  have hnesting : type.toDocument.nesting =
      (Document.array (type.fields.map (·.toDocument))).nesting + 1 := by
    rw [toDocument_type]
    simp [Document.nesting, Document.toJson, Document.toJsonMembers, Json.nesting,
      Json.membersNesting]
  rw [hnesting, toDocument_type, Document.toJson, Source.ofJson, readType, positional?_map,
    pure_bind]
  cases depth with
  | zero =>
    rw [nested_of_gt (Nat.succ_pos _)]
    rfl
  | succ depth =>
    rw [nested_succ, readEntries_succ, pure_bind, Nat.add_sub_cancel]
    have hname : (nested (Document.array (type.fields.map (·.toDocument))).nesting depth
        (none, some type.fields) >>= fun d => t.readTypeEntry depth d (.json (.string "name"))
          (.ofJson (Document.string type.name).toJson)) = nested _ depth _ :=
      nested_bind_pure (readTypeEntry_name ht)
    simp only [Document.toJsonMembers, Source.ofJsonMembers, List.foldlM_cons, List.foldlM_nil,
      readTypeEntry_fields ht, readFields_toDocument ht h, nested_map, bind_pure, hname]
    exact nested_bind_pure rfl

/-! ### Whole files -/

theorem readFileEntry_types (ht : t.format = .json) {v : Source} :
    t.readFileEntry depth none (.json (.string "types")) v =
      t.readTypeList depth v >>= fun types => pure (some types) := by
  simp [readFileEntry, readKey_string ht]

/-- **The types of a file are read back**, if they are not nested too deeply. -/
theorem readTypes_describe (ht : t.format = .json) {types : List ObjectType}
    (h : ∀ type ∈ types, ∀ f ∈ type.fields, f.Storable) :
    t.readTypes depth (.ofJson (describe types).toJson) =
      nested (describe types).nesting depth types := by
  have hnesting : (describe types).nesting =
      (Document.array (types.map (·.toDocument))).nesting + 1 := by
    simp [describe, Document.nesting, Document.toJson, Document.toJsonMembers, Json.nesting,
      Json.membersNesting]
  have hlist : t.readTypeList (depth - 1)
      (.ofJson (Document.array (types.map (·.toDocument))).toJson) =
        nested (Document.array (types.map (·.toDocument))).nesting (depth - 1) types :=
    readItems_toDocument fun type htype _ => readType_toDocument ht (h type htype)
  rw [hnesting, describe, Document.toJson, Source.ofJson, readTypes, positional?_map, pure_bind]
  cases depth with
  | zero =>
    rw [nested_of_gt (Nat.succ_pos _)]
    rfl
  | succ depth =>
    rw [Nat.add_sub_cancel] at hlist
    rw [nested_succ, readEntries_succ, pure_bind, Nat.add_sub_cancel]
    simp only [Document.toJsonMembers, Source.ofJsonMembers, List.foldlM_cons, List.foldlM_nil,
      readFileEntry_types ht, hlist, nested_map, bind_pure]
    rfl

end SourceText

/-! ### How deep a file is -/

namespace Registry

variable {types : List ObjectType}

/-- **The annotations of types are all of a kind.** -/
def AllAnnotations (P : Document → Prop) (types : List ObjectType) : Prop :=
  ∀ type ∈ types, ∀ f ∈ type.fields, ∀ e ∈ f.annotations, P e.2

/-- **An annotation stands five levels inside of its file.** What is true of an array or an object
as soon as it is of everything one level inside is true of a file as soon as it is of its
annotations, and of the leaves that it has besides. -/
theorem describe_iff {P : Nat → Document → Prop} {n : Nat}
    (harray : ∀ n items, P (n + 1) (.array items) ↔ ∀ d ∈ items, P n d)
    (hobject : ∀ n members, P (n + 1) (.object members) ↔ ∀ e ∈ members, P n e.2)
    (hstring : ∀ n s, P n (.string s)) (h : ∀ type ∈ types, ∀ f ∈ type.fields, f.Storable)
    (hknown : ∀ f : FieldDescription, f.Storable → ∀ e ∈ f.knownMembers, P n e.2) :
    P (n + 5) (describe types) ↔ AllAnnotations (P n) types := by
  rw [describe, hobject, List.forall_mem_singleton, harray, List.forall_mem_map]
  refine forall₂_congr fun type htype => ?_
  rw [SourceText.toDocument_type, hobject, List.forall_mem_cons, List.forall_mem_singleton,
    and_iff_left (hstring _ _), harray, List.forall_mem_map]
  refine forall₂_congr fun f hf => ?_
  have hstorable : f.Storable := h type htype f hf
  rw [FieldDescription.toDocument, Document.ofMembers, hobject]
  refine ⟨fun hall e he => hall e (hstorable.mem_members_iff.mpr (.inr he)), fun hall e he => ?_⟩
  rcases hstorable.mem_members_iff.mp he with he | he
  · exact hknown f hstorable e he
  · exact hall e he

/-- Besides the annotations no number in a file is a double. -/
theorem integersOnly_describe_iff (h : ∀ type ∈ types, ∀ f ∈ type.fields, f.Storable) :
    (describe types).IntegersOnly ↔ AllAnnotations Document.IntegersOnly types :=
  describe_iff (P := fun _ d => d.IntegersOnly) (n := 0)
    (fun _ _ => Document.integersOnly_array_iff) (fun _ _ => Document.integersOnly_object_iff)
    (fun _ _ => trivial) h fun _ hf _ he => hf.integersOnly_of_mem_knownMembers he

/-- An annotation meets the limit of nesting five levels earlier than its file. -/
theorem nesting_describe_le_nestingLimit_iff
    (h : ∀ type ∈ types, ∀ f ∈ type.fields, f.Storable) :
    (describe types).nesting ≤ nestingLimit ↔ AllAnnotations (·.nesting ≤ nestingLimit - 5) types :=
  describe_iff (P := fun n d => d.nesting ≤ n) (n := nestingLimit - 5)
    (fun _ _ => Document.nesting_array_le_iff) (fun _ _ => Document.nesting_object_le_iff)
    (fun n _ => Nat.zero_le n) h fun f _ e he => by
      rw [FieldDescription.nesting_of_mem_knownMembers he]
      exact Nat.zero_le _

/-- The types of a description file are read, as those of a whole text. -/
theorem decode_describe (h : ∀ type ∈ types, ∀ f ∈ type.fields, f.Storable)
    (hwithin : AllAnnotations (·.nesting ≤ nestingLimit - 5) types) :
    (SourceText.ofJson (describe types).toJson).decode
      (SourceText.ofJson (describe types).toJson).readTypes = .ok types := by
  have hread : (SourceText.ofJson (describe types).toJson).readTypes nestingLimit
      (SourceText.ofJson (describe types).toJson).root = _ := readTypes_describe rfl h
  rw [nested, if_pos ((nesting_describe_le_nestingLimit_iff h).mpr hwithin)] at hread
  rw [decode, show Format.levels (SourceText.ofJson _).format = nestingLimit from rfl, hread]
  rfl

/-- **A description file is loaded** into the registry of the types it was written from. -/
theorem ofSource_describe (hnames : (namesOf types).Nodup)
    (h : ∀ type ∈ types, ∀ f ∈ type.fields, f.Storable)
    (hwithin : AllAnnotations (·.nesting ≤ nestingLimit - 5) types) (origin : String) :
    ofSource (.ofJson (describe types).toJson) origin = .ok (registered types) :=
  ofSource_eq_ok_iff.mpr ⟨types, decode_describe h hwithin, hnames, rfl⟩

/-- A file whose annotations are nested too deeply is refused. -/
theorem ofSource_describe_of_not (h : ∀ type ∈ types, ∀ f ∈ type.fields, f.Storable)
    (hwithin : ¬AllAnnotations (·.nesting ≤ nestingLimit - 5) types) (origin : String) :
    ofSource (.ofJson (describe types).toJson) origin =
      .error (.notLoaded origin (.malformed .recursionLimit)) := by
  have hread : (SourceText.ofJson (describe types).toJson).readTypes nestingLimit
      (SourceText.ofJson (describe types).toJson).root = _ := readTypes_describe rfl h
  rw [nested, if_neg (mt (nesting_describe_le_nestingLimit_iff h).mp hwithin)] at hread
  rw [ofSource, decode, show Format.levels (SourceText.ofJson _).format = nestingLimit from rfl,
    hread]
  rfl

/-- The text of a file is read as the file, if no number in an annotation is a double. -/
theorem ofText_describe (h : ∀ type ∈ types, ∀ f ∈ type.fields, f.Storable)
    (hints : AllAnnotations Document.IntegersOnly types) :
    SourceText.ofText .json (describe types).text = .ofJson (describe types).toJson := by
  rw [SourceText.ofText, Document.readText_text ((integersOnly_describe_iff h).mpr hints)]

end Registry

end Conformance

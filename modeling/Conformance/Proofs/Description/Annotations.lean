import Conformance.Proofs.Description.WrittenForm

/-!
# No key of a field is lost

A JSON description that was loaded held a description of each field, and this was a JSON object:
none of its parts can be one that denotes nothing, since all of them were decoded. Those of its keys
that have no meaning are the annotations of the field (`Conformance.FieldDescription.Keeps`), and so
a constraint that is not recognized is still there when a schema is derived.

Types and files, unlike fields, pass over what they do not know. So it is told first where in the
tree of a text the descriptions of the fields stand, in both forms in which a type and a file may be
written.

* `Conformance.Source.typeNodes`, `Conformance.Source.fieldNodes` – where descriptions stand;
* `Conformance.SourceText.exists_of_readFieldEntry` – what one member of a field amounts to;
* `Conformance.SourceText.keeps_of_readField` – a field that was read;
* `Conformance.Registry.exists_of_parse` – a text that was loaded.
-/

namespace Conformance

open Source (IsJsonTree)

open SourceText (Yields not_yields_throw)

/-! ### The parts of a description -/

namespace Source

/-- Whether a name in quotes is this key. -/
def isKey (key : String) : Source → Bool
  | .json (.string k) => k == key
  | _ => false

theorem isKey_string {key k : String} : isKey key (.json (.string k)) = (k == key) := rfl

/-- The value of the first member of a name. -/
def member? (key : String) (entries : List (Source × Source)) : Option Source :=
  (entries.find? fun e => isKey key e.1).map (·.2)

/-- The items of an array; nothing has none. -/
def items : Source → List Source
  | .seq _ items => items
  | _ => []

/-- The items of an array that may be missing. -/
def itemsOf (s : Option Source) : List Source := (s.map items).getD []

/-- **The types in a description file**, which is an object with a list of types, or an array that
holds just this list. -/
def typeNodes : Source → List Source
  | .map _ entries => itemsOf (member? "types" entries)
  | .seq _ (types :: _) => types.items
  | _ => []

/-- **The fields in the description of a type**, which is an object with a list of fields, or an
array of a name and this list. -/
def fieldNodes : Source → List Source
  | .map _ entries => itemsOf (member? "fields" entries)
  | .seq _ (_ :: fields :: _) => fields.items
  | _ => []

end Source

/-- **A field keeps all that its description says besides the known keys**: the description is a
JSON object, and its other members are the annotations of the field. -/
def FieldDescription.Keeps (f : FieldDescription) (node : Source) : Prop :=
  ∃ members : List (String × Json), node = .ofJson (.object members) ∧
    f.annotations = Keyed.ofList (Document.ofJsonMembers (unknownMembers members))

theorem map_fst_ofJsonMembers (members : List (String × Json)) :
    (Document.ofJsonMembers members).map (·.1) = members.map (·.1) := by
  induction members with
  | nil => rfl
  | cons m rest ih => rw [Document.ofJsonMembers, List.map_cons, List.map_cons, ih]

/-- So the annotations have the other keys, and no more. -/
theorem FieldDescription.Keeps.exists_mem_keys_iff {node : Source} {f : FieldDescription}
    (h : f.Keeps node) : ∃ members : List (String × Json), node = .ofJson (.object members) ∧
      ∀ key, key ∈ Keyed.keys f.annotations ↔ key ∈ members.map (·.1) ∧ key ∉ knownKeys := by
  obtain ⟨members, hnode, hannotations⟩ := h
  refine ⟨members, hnode, fun key => ?_⟩
  rw [hannotations, Keyed.mem_keys_ofList_iff, map_fst_ofJsonMembers]
  simp only [List.mem_map, mem_unknownMembers_iff]
  constructor
  · rintro ⟨m, ⟨hm, hunknown⟩, rfl⟩
    exact ⟨⟨m, hm, rfl⟩, hunknown⟩
  · rintro ⟨⟨m, hm, rfl⟩, hunknown⟩
    exact ⟨m, ⟨hm, hunknown⟩, rfl⟩

/-- **A type keeps all that the descriptions of its fields say.** -/
def ObjectType.Keeps (type : ObjectType) (node : Source) : Prop :=
  List.Forall₂ (fun node f => f.Keeps node) node.fieldNodes type.fields

namespace SourceText

variable {α β : Type} {t : SourceText} {s k v : Source} {depth : Nat}

/-! ### Decoders of values -/

/-- **A decoder of values**: what it decodes in a JSON text is the tree of a JSON value. -/
def OfValues (read : Source → Reading α) : Prop :=
  ∀ ⦃s : Source⦄ ⦃a : α⦄, s.IsJsonTree → Yields (read s) a → ∃ v : Json, s = .ofJson v

/-- A decoder that refuses all else decodes leaves only. -/
theorem ofValues_of_leaf {read : Source → Reading α} (hvoid : ∀ a, ¬Yields (read (.json .void)) a)
    (hseq : ∀ items a, ¬Yields (read (.seq none items)) a)
    (hmap : ∀ entries a, ¬Yields (read (.map none entries)) a)
    (hbroken : ∀ a, ¬Yields (read .broken) a) : OfValues read := by
  intro s a hs h
  cases hs with
  | leaf leaf =>
    cases leaf with
    | null => exact ⟨.null, rfl⟩
    | bool b => exact ⟨.bool b, rfl⟩
    | number n => exact ⟨.number n, rfl⟩
    | string text => exact ⟨.string text, rfl⟩
    | void => exact absurd h (hvoid a)
  | seq => exact absurd h (hseq _ a)
  | map => exact absurd h (hmap _ a)
  | broken => exact absurd h (hbroken a)

theorem ofValues_readString : OfValues t.readString :=
  ofValues_of_leaf (fun _ => not_yields_throw) (fun _ _ => not_yields_throw)
    (fun _ _ => not_yields_throw) fun _ => not_yields_throw

theorem ofValues_readBool : OfValues t.readBool :=
  ofValues_of_leaf (fun _ => not_yields_throw) (fun _ _ => not_yields_throw)
    (fun _ _ => not_yields_throw) fun _ => not_yields_throw

theorem ofValues_readCount : OfValues t.readCount :=
  ofValues_of_leaf (fun _ => not_yields_throw) (fun _ _ => not_yields_throw)
    (fun _ _ => not_yields_throw) fun _ => not_yields_throw

theorem ofValues_readTypeExpr : OfValues t.readTypeExpr := by
  intro s a hs h
  obtain ⟨text, htext, -⟩ := h.bind
  exact ofValues_readString hs htext

theorem ofValues_readOptional {read : Source → Reading α} (hread : OfValues read) :
    OfValues (t.readOptional read) := by
  intro s a hs h
  rw [readOptional, follow_of_isJsonTree hs, pure_bind] at h
  split at h
  · exact ⟨.null, rfl⟩
  · cases hs
  · cases hs
  · obtain ⟨a, ha, -⟩ := h.bind
    exact hread hs ha

/-! ### Fields -/

/-- The value of a known key was read, and the annotations were left alone. -/
theorem exists_of_known {key : String} {o : Option β} {read : Source → Reading α}
    (hread : OfValues read) (hv : v.IsJsonTree) {d d' : FieldDraft} {g : α → FieldDraft}
    (h : Yields (once key o >>= fun _ => read v >>= fun a => pure (g a)) d')
    (hg : ∀ a, (g a).annotations = d.annotations) :
    ∃ w : Json, v = .ofJson w ∧ d'.annotations = d.annotations := by
  obtain ⟨-, -, h⟩ := h.bind
  obtain ⟨a, ha, rfl⟩ := h.map
  obtain ⟨w, hw⟩ := hread hv ha
  exact ⟨w, hw, hg a⟩

open FieldDescription in
/-- **One entry of a field was read**: it is a member of a JSON object, and an annotation unless its
key is known. -/
theorem exists_of_readFieldEntry (ht : t.format = .json) (hv : v.IsJsonTree) {d d' : FieldDraft}
    (h : Yields (t.readFieldEntry depth d k v) d') :
    ∃ (key : String) (w : Json), k = .json (.string key) ∧ v = .ofJson w ∧
      d'.annotations = if key ∈ knownKeys then d.annotations
        else Keyed.insert key (.ofJson w) d.annotations := by
  obtain ⟨key, hkey, hentry⟩ := h.bind
  refine ⟨key, ?_⟩
  by_cases hknown : key ∈ knownKeys
  · have hvalue : ∃ w : Json, v = .ofJson w ∧ d'.annotations = d.annotations := by
      simp only [knownKeys, List.mem_cons, List.not_mem_nil, or_false] at hknown
      rcases hknown with rfl | rfl | rfl | rfl | rfl | rfl | rfl
      all_goals
        simp only [String.reduceBEq, Bool.false_eq_true, if_true, if_false] at hentry
      · exact exists_of_known ofValues_readString hv hentry fun _ => rfl
      · exact exists_of_known ofValues_readTypeExpr hv hentry fun _ => rfl
      · exact exists_of_known (ofValues_readOptional ofValues_readBool) hv hentry fun _ => rfl
      · exact exists_of_known (ofValues_readOptional ofValues_readBool) hv hentry fun _ => rfl
      · exact exists_of_known (ofValues_readOptional ofValues_readString) hv hentry fun _ => rfl
      · exact exists_of_known (ofValues_readOptional ofValues_readCount) hv hentry fun _ => rfl
      · exact exists_of_known ofValues_readBool hv hentry fun _ => rfl
    obtain ⟨w, hw, hd⟩ := hvalue
    exact ⟨w, eq_of_readKey ht hkey, hw, hd.trans (if_pos hknown).symm⟩
  · have hne := hknown
    simp only [knownKeys, List.mem_cons, List.not_mem_nil, or_false, not_or] at hne
    obtain ⟨hname, htype, hrequired, hnullable, hpattern, hlength, hempty⟩ := hne
    simp only [beq_iff_eq, hname, htype, hrequired, hnullable, hpattern, hlength, hempty,
      if_false, readAnnotationValue_eq ht hv, bind_assoc, pure_bind] at hentry
    obtain ⟨value, hvalue, rfl⟩ := hentry.map
    obtain ⟨w, hw, rfl⟩ := exists_of_readDocument ht hv hvalue
    exact ⟨w, eq_of_readKey ht hkey, hw, (if_neg hknown).symm⟩

theorem isJsonTree_items (hs : s.IsJsonTree) : ∀ item ∈ s.items, item.IsJsonTree := by
  cases hs with
  | seq h => exact h
  | _ => exact fun _ hitem => absurd hitem List.not_mem_nil

theorem isJsonTree_values {entries : List (Source × Source)}
    (hs : (Source.map none entries).IsJsonTree) : ∀ e ∈ entries, e.2.IsJsonTree := by
  cases hs with
  | map _ hvalues => exact hvalues

/-- Entries were read from an object. -/
theorem eq_of_readEntries {entries : List (Source × Source)} (hs : s.IsJsonTree)
    (h : Yields (t.readEntries depth s) entries) : s = .map none entries := by
  rw [readEntries, follow_of_isJsonTree hs, pure_bind] at h
  cases hs with
  | map =>
    simp only at h
    split at h
    · exact absurd h not_yields_throw
    · rw [h.of_pure]
  | _ => exact absurd h not_yields_throw

/-- Items were read from an array. -/
theorem eq_of_readItems {items : List Source} (hs : s.IsJsonTree)
    (h : Yields (t.readItems depth s) items) : s = .seq none items := by
  rw [readItems, follow_of_isJsonTree hs, pure_bind] at h
  cases hs with
  | seq =>
    simp only at h
    split at h
    · exact absurd h not_yields_throw
    · rw [h.of_pure]
  | _ => exact absurd h not_yields_throw

theorem ofJsonMembers_append {ms ms' : List (String × Json)} :
    Source.ofJsonMembers (ms ++ ms') = Source.ofJsonMembers ms ++ Source.ofJsonMembers ms' := by
  induction ms with
  | nil => rfl
  | cons m rest ih => rw [List.cons_append, Source.ofJsonMembers, ih]; rfl

theorem documents_append {ms ms' : List (String × Json)} :
    Document.ofJsonMembers (ms ++ ms') =
      Document.ofJsonMembers ms ++ Document.ofJsonMembers ms' := by
  induction ms with
  | nil => rfl
  | cons m rest ih => rw [List.cons_append, Document.ofJsonMembers, ih]; rfl

open FieldDescription in
/-- **A field that was read keeps all keys.** -/
theorem keeps_of_readField (ht : t.format = .json) (hs : s.IsJsonTree) {f : FieldDescription}
    (h : Yields (t.readField depth s) f) : f.Keeps s := by
  obtain ⟨entries, hentries, hbody⟩ := h.bind
  obtain rfl := eq_of_readEntries hs hentries
  obtain ⟨draft, hdraft, hend⟩ := hbody.bind
  have hannotations : f.annotations = draft.annotations := by
    split at hend
    · exact absurd hend not_yields_throw
    · exact absurd hend not_yields_throw
    · split at hend
      · rw [hend.of_pure]
      · exact absurd hend not_yields_throw
  have hmembers : ∃ members : List (String × Json), entries = Source.ofJsonMembers members ∧
      draft.annotations = Keyed.ofList (Document.ofJsonMembers (unknownMembers members)) := by
    refine hdraft.foldlM (fun done d => ∃ members : List (String × Json),
      done = Source.ofJsonMembers members ∧
        d.annotations = Keyed.ofList (Document.ofJsonMembers (unknownMembers members)))
      ⟨[], rfl, rfl⟩ ?_
    rintro _ e d d' he ⟨members, rfl, hd⟩ hentry
    obtain ⟨key, w, hk, hv, hd'⟩ :=
      exists_of_readFieldEntry ht (isJsonTree_values hs e he) hentry
    refine ⟨members ++ [(key, w)], ?_, ?_⟩
    · rw [ofJsonMembers_append, ← Prod.mk.eta (p := e), hk, hv]
      rfl
    · rw [hd']
      split
      · next hknown => rw [unknownMembers_append_known hknown, hd]
      · next hunknown =>
        rw [unknownMembers_append_unknown hunknown, documents_append, hd, Keyed.ofList,
          Keyed.ofList, List.foldl_append]
        rfl
  obtain ⟨members, rfl, hmembers⟩ := hmembers
  exact ⟨members, rfl, hannotations.trans hmembers⟩

/-! ### Types and files -/

/-- What was read under a key of an object, if the key was met. -/
def Holds (key : String) (R : Source → α → Prop) (entries : List (Source × Source)) :
    Option (List α) → Prop
  | none => Source.member? key entries = none
  | some values => ∃ s, Source.member? key entries = some s ∧ List.Forall₂ R s.items values

section Holds

variable {key : String} {R : Source → α → Prop} {entries : List (Source × Source)}
  {o : Option (List α)} {values : List α}

theorem holds_nil : Holds key R [] none := rfl

/-- Another key makes no difference. -/
theorem Holds.skip {k : String} (h : Holds key R entries o) (hk : k ≠ key) :
    Holds key R (entries ++ [(.json (.string k), v)]) o := by
  have hmember : Source.member? key (entries ++ [(.json (.string k), v)]) =
      Source.member? key entries := by
    simp [Source.member?, List.find?_append, Source.isKey_string, hk]
  cases o with
  | none => exact hmember.trans h
  | some values =>
    obtain ⟨s, hs, hvalues⟩ := h
    exact ⟨s, hmember.trans hs, hvalues⟩

/-- The key is met for the first time. -/
theorem Holds.read (h : Holds key R entries none) (hvalues : List.Forall₂ R v.items values) :
    Holds key R (entries ++ [(.json (.string key), v)]) (some values) := by
  have hnone : entries.find? (fun e => Source.isKey key e.1) = none := Option.map_eq_none_iff.mp h
  refine ⟨v, ?_, hvalues⟩
  simp [Source.member?, List.find?_append, hnone, Source.isKey_string]

theorem Holds.forall₂ (h : Holds key R entries o) :
    List.Forall₂ R (Source.itemsOf (Source.member? key entries)) (o.getD []) := by
  cases o with
  | none =>
    rw [show Source.member? key entries = none from h]
    exact .nil
  | some values =>
    obtain ⟨s, hs, hvalues⟩ := h
    rwa [hs]

end Holds

/-- **The fields of a type keep all keys.** -/
theorem keeps_of_readFields (ht : t.format = .json) (hs : s.IsJsonTree)
    {fields : List FieldDescription} (h : Yields (t.readFields depth s) fields) :
    List.Forall₂ (fun node f => f.Keeps node) s.items fields := by
  obtain ⟨items, hitems, hfields⟩ := h.bind
  obtain rfl := eq_of_readItems hs hitems
  exact hfields.mapM fun node hnode _ hf =>
    keeps_of_readField ht (isJsonTree_items hs node hnode) hf

theorem eq_none_of_once {key : String} {o : Option α} (h : Yields (once key o) ()) : o = none := by
  cases o with
  | none => rfl
  | some a => exact absurd h not_yields_throw

/-- A record that is written as an array is one. -/
theorem eq_of_positional? {items : List Source} (hs : s.IsJsonTree)
    (h : Yields (t.positional? depth s) (some items)) : s = .seq none items := by
  rw [positional?, follow_of_isJsonTree hs, pure_bind] at h
  cases hformat : t.format with
  | yaml =>
    rw [hformat] at h
    cases Yields.of_pure (a := none) h
  | json =>
    rw [hformat] at h
    cases s with
    | seq tag entries =>
      obtain ⟨items', hitems, heq⟩ := h.map
      obtain rfl := Option.some.inj heq
      exact eq_of_readItems hs hitems
    | _ => cases Yields.of_pure (a := none) h

/-- One entry of a type was read. -/
theorem holds_of_readTypeEntry (ht : t.format = .json) (hv : v.IsJsonTree)
    {entries : List (Source × Source)} {d d' : Option String × Option (List FieldDescription)}
    (hd : Holds "fields" (fun node f => f.Keeps node) entries d.2)
    (h : Yields (t.readTypeEntry depth d k v) d') :
    Holds "fields" (fun node f => f.Keeps node) (entries ++ [(k, v)]) d'.2 := by
  obtain ⟨key, hkey, hentry⟩ := h.bind
  obtain rfl := eq_of_readKey ht hkey
  split at hentry
  · next hname =>
    obtain rfl := eq_of_beq hname
    obtain ⟨-, -, hvalue⟩ := hentry.bind
    obtain ⟨name, -, rfl⟩ := hvalue.map
    exact hd.skip (by decide)
  · split at hentry
    · next hfields =>
      obtain rfl := eq_of_beq hfields
      obtain ⟨_, honce, hvalue⟩ := hentry.bind
      obtain ⟨fields, hread, rfl⟩ := hvalue.map
      rw [eq_none_of_once honce] at hd
      exact hd.read (keeps_of_readFields ht hv hread)
    · next hother =>
      obtain ⟨-, -, hend⟩ := hentry.bind
      rw [hend.of_pure]
      exact hd.skip (by simpa using hother)

/-- **A type that was read keeps all keys of its fields.** -/
theorem keeps_of_readType (ht : t.format = .json) (hs : s.IsJsonTree) {type : ObjectType}
    (h : Yields (t.readType depth s) type) : type.Keeps s := by
  obtain ⟨items?, hitems?, hbody⟩ := h.bind
  cases items? with
  | some items =>
    obtain rfl := eq_of_positional? hs hitems?
    match items, hbody with
    | [], hbody => exact absurd hbody not_yields_throw
    | [name], hbody =>
      obtain ⟨name, -, rfl⟩ := hbody.map
      exact .nil
    | name :: fields :: rest, hbody =>
      obtain ⟨name, -, hrest⟩ := hbody.bind
      obtain ⟨fields', hfields, hend⟩ := hrest.bind
      have htype : type.fields = fields' := by
        split at hend
        · rw [hend.of_pure]
        · exact absurd hend not_yields_throw
      rw [ObjectType.Keeps, htype]
      exact keeps_of_readFields ht (isJsonTree_items hs _ (by simp [Source.items])) hfields
  | none =>
    obtain ⟨entries, hentries, hrest⟩ := hbody.bind
    obtain rfl := eq_of_readEntries hs hentries
    obtain ⟨⟨name, fields⟩, hfold, hend⟩ := hrest.bind
    have hholds : Holds "fields" (fun node (f : FieldDescription) => f.Keeps node) entries fields :=
      hfold.foldlM (fun done d => Holds "fields" (fun node f => f.Keeps node) done d.2) holds_nil
        fun done e d d' he hdone hentry =>
          holds_of_readTypeEntry ht (isJsonTree_values hs e he) hdone hentry
    have hfields : type.fields = fields.getD [] := by
      cases name with
      | none => exact absurd hend not_yields_throw
      | some name => rw [hend.of_pure]
    rw [ObjectType.Keeps, hfields]
    exact hholds.forall₂

/-- **The types of a list that was read keep all keys of their fields.** -/
theorem keeps_of_readTypeList (ht : t.format = .json) (hs : s.IsJsonTree) {types : List ObjectType}
    (h : Yields (t.readTypeList depth s) types) :
    List.Forall₂ (fun node type => type.Keeps node) s.items types := by
  obtain ⟨items, hitems, htypes⟩ := h.bind
  obtain rfl := eq_of_readItems hs hitems
  exact htypes.mapM fun node hnode type htype =>
    keeps_of_readType ht (isJsonTree_items hs node hnode) htype

/-- One entry of a file was read. -/
theorem holds_of_readFileEntry (ht : t.format = .json) (hv : v.IsJsonTree)
    {entries : List (Source × Source)} {d d' : Option (List ObjectType)}
    (hd : Holds "types" (fun node type => type.Keeps node) entries d)
    (h : Yields (t.readFileEntry depth d k v) d') :
    Holds "types" (fun node type => type.Keeps node) (entries ++ [(k, v)]) d' := by
  obtain ⟨key, hkey, hentry⟩ := h.bind
  obtain rfl := eq_of_readKey ht hkey
  split at hentry
  · next htypes =>
    obtain rfl := eq_of_beq htypes
    obtain ⟨_, honce, hvalue⟩ := hentry.bind
    obtain ⟨types, hread, rfl⟩ := hvalue.map
    rw [eq_none_of_once honce] at hd
    exact hd.read (keeps_of_readTypeList ht hv hread)
  · next hother =>
    obtain ⟨-, -, hend⟩ := hentry.bind
    rw [hend.of_pure]
    exact hd.skip (by simpa using hother)

/-- **The types of a file that was read keep all keys of their fields.** -/
theorem keeps_of_readTypes (ht : t.format = .json) (hs : s.IsJsonTree) {types : List ObjectType}
    (h : Yields (t.readTypes depth s) types) :
    List.Forall₂ (fun node type => type.Keeps node) s.typeNodes types := by
  obtain ⟨items?, hitems?, hbody⟩ := h.bind
  cases items? with
  | some items =>
    obtain rfl := eq_of_positional? hs hitems?
    match items, hbody with
    | [], hbody =>
      rw [hbody.of_pure]
      exact .nil
    | [list], hbody =>
      exact keeps_of_readTypeList ht (isJsonTree_items hs _ (by simp [Source.items])) hbody
    | list :: next :: rest, hbody =>
      obtain ⟨-, -, hend⟩ := hbody.bind
      exact absurd hend not_yields_throw
  | none =>
    obtain ⟨entries, hentries, hrest⟩ := hbody.bind
    obtain rfl := eq_of_readEntries hs hentries
    obtain ⟨types', hfold, hend⟩ := hrest.bind
    have hholds : Holds "types" (fun node (type : ObjectType) => type.Keeps node) entries types' :=
      hfold.foldlM (fun done d => Holds "types" (fun node type => type.Keeps node) done d) holds_nil
        fun done e d d' he hdone hentry =>
          holds_of_readFileEntry ht (isJsonTree_values hs e he) hdone hentry
    rw [hend.of_pure]
    exact hholds.forall₂

end SourceText

/-- **A description that is loaded from a JSON text keeps all keys of its fields.** -/
theorem Registry.exists_of_parse {text origin : String} {r : Registry}
    (h : parse .json text origin = .ok r) :
    ∃ types, (namesOf types).Nodup ∧ r = registered types ∧
      List.Forall₂ (fun node type => type.Keeps node)
        (Json.readText text).root.typeNodes types := by
  obtain ⟨types, hdecode, hnames, hr⟩ := ofSource_eq_ok_iff.mp h
  exact ⟨types, hnames, hr, SourceText.keeps_of_readTypes rfl (Json.isJsonTree_readText text)
    (.of_decode hdecode)⟩

end Conformance

import Conformance.Proofs.JsonSchema.Definitions
import Conformance.Proofs.JsonSchema.Meaning
import Conformance.TypeExpr.Reading

/-!
# What a rendering asserts

The rendering of a schema, part by part, and which documents satisfy each of them. A reference leads
to the definition of its object if the name of the object is an identifier, since then no character
of it means anything in a pointer.

* `Conformance.JsonSchema.valid_orNull_iff` – a choice with null;
* `Conformance.SchemaSet.valid_object_iff`, `Conformance.SchemaSet.valid_array_iff`,
  `Conformance.SchemaSet.valid_scalar_iff` – the schema of a node;
* `Conformance.SchemaSet.valid_objectBody_iff` – the schema of an object type;
* `Conformance.Schema.valid_toJsonSchema_iff` – the whole;
* `Conformance.Schema.follow?_definition` – where a definition is found;
* `Conformance.Schema.resolve?_reference` – what a reference refers to.
-/

namespace Conformance

namespace JsonSchema

variable {root d schema : Document} {name : String}

/-- A schema that asks for a type. -/
theorem valid_ofType_iff : Valid root (.ofMembers (ofType name)) d ↔ HasType name d := by
  rw [valid_ofMembers_iff (by simp [ofType])]
  constructor
  · intro h
    cases h .type _ List.mem_cons_self with
    | type htype => exact htype
  · intro h k value hmem
    cases k <;> simp [ofType, Keyword.key] at hmem
    rw [hmem]
    exact .type h

/-- **A choice with null**: the schema is satisfied, or null is allowed and there. -/
theorem valid_orNull_iff {nullable : Bool} :
    Valid root (orNull schema nullable) d ↔
      d = .null ∧ nullable = true ∨ Valid root schema d := by
  cases nullable with
  | false => simp [orNull]
  | true =>
    have hnull : Valid root (.ofMembers (ofType "null")) d ↔ d = .null := by
      rw [valid_ofType_iff]
      cases d <;> simp [HasType]
    have hchoice : Valid root (orNull schema true) d ↔ ∀ (k : Keyword) (value : Document),
        (k.key, value) ∈ [("anyOf", Document.array [schema, .ofMembers (ofType "null")])] →
          Holds root k value d :=
      valid_ofMembers_iff (by simp)
    rw [hchoice, ← hnull]
    constructor
    · intro h
      cases h .anyOf _ List.mem_cons_self with
      | anyOf mem hvalid =>
        rcases List.mem_cons.mp mem with rfl | mem
        · exact Or.inr hvalid
        · rw [List.mem_singleton.mp mem] at hvalid
          exact Or.inl ⟨hvalid, rfl⟩
    · intro h k value hmem
      cases k <;> simp [Keyword.key] at hmem
      subst hmem
      rcases h with ⟨h, -⟩ | h
      · exact .anyOf (List.mem_cons_of_mem _ List.mem_cons_self) h
      · exact .anyOf List.mem_cons_self h

/-! ### References -/

/-- A step without a tilde is written as it is. -/
theorem unescape_of_not_mem {cs : List Char} (h : '~' ∉ cs) : unescape cs = cs := by
  induction cs with
  | nil => rfl
  | cons c rest ih =>
    rw [List.mem_cons, not_or] at h
    obtain ⟨hc, hrest⟩ := h
    rw [unescape, ih hrest]
    · rintro _ rfl
      exact absurd rfl hc
    · rintro _ rfl
      exact absurd rfl hc

/-- An identifier has no character that means anything in a pointer. -/
theorem not_mem_of_isTypeName {cs : List Char} (h : TypeExpr.isTypeName cs = true) :
    '/' ∉ cs ∧ '~' ∉ cs := by
  cases cs with
  | nil => exact ⟨List.not_mem_nil, List.not_mem_nil⟩
  | cons c rest =>
    obtain ⟨hc, hrest⟩ := Bool.and_eq_true_iff.mp h
    have hnot : ∀ x, TypeExpr.isNameChar x = false → TypeExpr.isLetter x = false → x ≠ '_' →
        x ∉ c :: rest := by
      intro x hname hletter hne hmem
      rcases List.mem_cons.mp hmem with rfl | hmem
      · simp [hletter, hne] at hc
      · simp [List.all_eq_true.mp hrest x hmem] at hname
    constructor
    · exact hnot '/' (by decide) (by decide) (by decide)
    · exact hnot '~' (by decide) (by decide) (by decide)

/-- The steps of a reference to the object type of an identifier. -/
theorem steps?_reference (h : TypeExpr.isTypeName name.toList = true) :
    steps? ("/$defs/".toList ++ name.toList) = some ["$defs", name] := by
  obtain ⟨hslash, htilde⟩ := not_mem_of_isTypeName h
  have hsplit : ("$defs".toList ++ '/' :: name.toList).splitOn '/' =
      ["$defs".toList, name.toList] := by
    rw [List.splitOn_append_cons_self_of_not_mem (by decide), List.splitOn_eq_singleton hslash]
  change some ((("$defs".toList ++ '/' :: name.toList).splitOn '/').map _) = _
  rw [hsplit, List.map_cons, List.map_cons, List.map_nil, unescape_of_not_mem (by decide),
    unescape_of_not_mem htilde, String.ofList_toList, String.ofList_toList]

end JsonSchema

namespace SchemaSet

open JsonSchema

variable {set : SchemaSet} {id : NodeId} {o : ObjectSchema} {root d : Document}
variable {r : Registry} {m : Mode} {members : List (String × Document)} {f : FieldSchema}

/-! ### The schema of a node -/

theorem nodeMembers_scalar {s : ScalarSchema} (h : set.node? id = some (.scalar s)) :
    set.nodeMembers id = ofScalar s := by
  rw [nodeMembers]
  simp only [h]

theorem nodeMembers_none (h : set.node? id = none) : set.nodeMembers id = [] := by
  rw [nodeMembers]
  simp only [h]

theorem nodeMembers_object (h : set.node? id = some (.object o)) :
    set.nodeMembers id = reference o.name := by
  rw [nodeMembers]
  simp only [h]

theorem nodeMembers_array {a : ArraySchema} (h : set.node? id = some (.array a))
    (hlt : a.element < id) :
    set.nodeMembers id = ofType "array" ++
      [("items", orNull (set.nodeSchema a.element) a.nullableElements)]
        ++ (a.minLength.map fun n => ("minItems", Document.ofCount n)).toList := by
  rw [nodeMembers]
  simp only [h, dif_pos hlt]
  rfl

/-- The keys in the schema of a node, in the order in which they are written. -/
theorem keys_nodeMembers :
    ((set.nodeMembers id).map (·.1)).Sublist ["$ref", "type", "pattern", "items", "minItems"] := by
  rw [nodeMembers]
  split
  · exact List.nil_sublist _
  · rename_i s _
    unfold ofScalar
    split
    · simp [ofType]
    · split
      · exact List.nil_sublist _
      · simp [ofType]
  · simp [reference]
  · rename_i a _
    cases a.minLength with
    | none => simp [ofType]
    | some n => simp [ofType]

/-- The schema of a node is satisfied if its keywords are. -/
theorem valid_nodeSchema_iff :
    Valid root (set.nodeSchema id) d ↔ ∀ (k : Keyword) (value : Document),
      (k.key, value) ∈ set.nodeMembers id → Holds root k value d :=
  valid_ofMembers_iff (keys_nodeMembers.nodup (by decide))

/-- **The schema of an object node** refers to the schema of its type. -/
theorem valid_object_iff (h : set.node? id = some (.object o)) :
    Valid root (set.nodeSchema id) d ↔ ∃ target,
      resolve? root (definitionsPointer ++ o.name) = some target ∧ Valid root target d := by
  rw [valid_nodeSchema_iff, nodeMembers_object h]
  constructor
  · intro hall
    cases hall .ref _ List.mem_cons_self with
    | ref resolves hvalid => exact ⟨_, resolves, hvalid⟩
  · rintro ⟨target, resolves, hvalid⟩ k value hmem
    cases k <;> simp [reference, Keyword.key] at hmem
    rw [hmem]
    exact .ref resolves hvalid

/-- **The schema of an array node** asks for an array, for its elements and for their number. -/
theorem valid_array_iff {a : ArraySchema} (h : set.node? id = some (.array a))
    (hlt : a.element < id) :
    Valid root (set.nodeSchema id) d ↔ ∃ items, d = .array items ∧
      (∀ v ∈ items, Valid root (orNull (set.nodeSchema a.element) a.nullableElements) v) ∧
      ∀ n, a.minLength = some n → (Number.ofNat n).AtMost items.length := by
  rw [valid_nodeSchema_iff, nodeMembers_array h hlt]
  constructor
  · intro hall
    have htype := hall .type (.string "array") (by simp [ofType, Keyword.key])
    have hitems := hall .items (orNull (set.nodeSchema a.element) a.nullableElements)
      (by simp [ofType, Keyword.key])
    cases htype with
    | type htype =>
      cases hitems with
      | items hitems =>
        cases d with
        | array items =>
          refine ⟨items, rfl, fun v hv => hitems items v rfl hv, fun n hn => ?_⟩
          have hmin := hall .minItems (.number (.ofNat n))
            (by simp [hn, Keyword.key, Document.ofCount])
          cases hmin with
          | minItems hmin => exact hmin items rfl
        | _ => exact absurd htype (by simp [HasType])
  · rintro ⟨items, rfl, hitems, hmin⟩ k value hmem
    cases k <;> simp [ofType, Keyword.key] at hmem
    · rw [hmem]
      exact .type rfl
    · rw [hmem]
      exact .items fun elements v heq hv => hitems v (by rwa [Document.array.inj heq])
    · obtain ⟨n, hn, rfl⟩ := hmem
      refine .minItems fun elements heq => ?_
      rw [← Document.array.inj heq]
      exact hmin n hn

/-- **The schema of a scalar node** asks for a text that matches, if there is a pattern, and for the
type of the kind otherwise. -/
theorem valid_scalar_iff {s : ScalarSchema} (h : set.node? id = some (.scalar s)) :
    Valid root (set.nodeSchema id) d ↔
      (∀ p, s.pattern = some p → ∃ text, d = .string text ∧ p.isMatch text = true) ∧
        (s.pattern = none → s.kind = .any ∨ HasType s.kind.keyword d) := by
  obtain ⟨kind, pattern⟩ := s
  cases pattern with
  | some p =>
    rw [valid_nodeSchema_iff, nodeMembers_scalar h]
    constructor
    · intro hall
      have htype := hall .type (.string "string") (by simp [ofScalar, ofType, Keyword.key])
      have hpattern := hall .pattern (.string p.anchored)
        (by simp [ofScalar, ofType, Keyword.key])
      refine ⟨fun p' hp' => ?_, fun hnone => absurd hnone (by simp)⟩
      obtain rfl := Option.some.inj hp'
      cases htype with
      | type htype =>
        cases hpattern with
        | pattern hpattern =>
          cases d with
          | string text =>
            obtain ⟨regex, hregex, hoccurs⟩ := hpattern text rfl
            obtain rfl : p.regex = regex := Option.some.inj (p.compiles.symm.trans hregex)
            exact ⟨text, rfl, hoccurs⟩
          | _ => exact absurd htype (by simp [HasType])
    · rintro ⟨hall, -⟩ k value hmem
      obtain ⟨text, rfl, hmatch⟩ := hall p rfl
      cases k <;> simp [ofScalar, ofType, Keyword.key] at hmem
      · rw [hmem]
        exact .type rfl
      · rw [hmem]
        refine .pattern fun text' heq => ⟨p.regex, p.compiles, ?_⟩
        rwa [← Document.string.inj heq]
  | none =>
    by_cases hany : kind = .any
    · subst hany
      rw [valid_nodeSchema_iff, nodeMembers_scalar h]
      simp [ofScalar]
    · have hmembers : set.nodeMembers id = ofType kind.keyword := by
        rw [nodeMembers_scalar h]
        simp [ofScalar, hany]
      rw [nodeSchema, hmembers, valid_ofType_iff]
      simp [hany]

/-! ### The schema of an object type -/

/-- **The schema of an object type** asks for an object, for the values of its fields and for the
keys of the required ones. -/
theorem valid_objectBody_iff (hnodup : (o.fields.map (·.name)).Nodup) :
    Valid root (set.objectBody o) d ↔ ∃ members, d = .object members ∧
      (∀ f ∈ o.fields, ∀ v, Keyed.find? f.name members = some v →
        Valid root (orNull (set.nodeSchema f.schema) f.nullable) v) ∧
      ∀ f ∈ o.fields, f.required = true → Keyed.contains f.name members = true := by
  have hbody : Valid root (set.objectBody o) d ↔ ∀ (k : Keyword) (value : Document),
      (k.key, value) ∈ [("type", Document.string "object"),
        ("properties", .ofMembers (o.fields.map fun f =>
          (f.name, orNull (set.nodeSchema f.schema) f.nullable))),
        ("required", .array (o.requiredFields.map .string))] → Holds root k value d :=
    valid_ofMembers_iff (by simp)
  have hkeys : ((o.fields.map fun f =>
      (f.name, orNull (set.nodeSchema f.schema) f.nullable)).map (·.1)).Nodup := by
    rwa [List.map_map]
  rw [hbody]
  constructor
  · intro hall
    have htype := hall .type _ List.mem_cons_self
    have hproperties := hall .properties _ (List.mem_cons_of_mem _ List.mem_cons_self)
    have hrequired := hall .required _
      (List.mem_cons_of_mem _ (List.mem_cons_of_mem _ List.mem_cons_self))
    cases htype with
    | type htype =>
      cases hproperties with
      | properties hproperties =>
        cases hrequired with
        | required hrequired =>
          cases d with
          | object members =>
            refine ⟨members, rfl, fun f hf v hv => ?_, fun f hf hreq => ?_⟩
            · refine hproperties members f.name _ v rfl ((Keyed.find?_ofList hkeys).mpr ?_) hv
              exact List.mem_map_of_mem (f := fun f =>
                (f.name, orNull (set.nodeSchema f.schema) f.nullable)) hf
            · refine hrequired members f.name rfl (List.mem_map_of_mem ?_)
              exact List.mem_map_of_mem (List.mem_filter.mpr ⟨hf, hreq⟩)
          | _ => exact absurd htype (by simp [HasType])
  · rintro ⟨members, rfl, hvalues, hpresent⟩ k value hmem
    cases k <;> simp [Keyword.key] at hmem
    · rw [hmem]
      exact .type rfl
    · rw [hmem]
      refine .properties fun members' key schema v heq hschema hv => ?_
      obtain ⟨f, hf, hentry⟩ := List.mem_map.mp ((Keyed.find?_ofList hkeys).mp hschema)
      obtain ⟨rfl, rfl⟩ := Prod.mk.inj hentry
      exact hvalues f hf v (by rwa [Document.object.inj heq])
    · rw [hmem]
      refine .required fun members' name heq hname => ?_
      obtain ⟨name', hname', hsame⟩ := List.mem_map.mp hname
      obtain rfl := Document.string.inj hsame
      obtain ⟨f, hf, rfl⟩ := List.mem_map.mp hname'
      rw [← Document.object.inj heq]
      exact hpresent f (List.mem_filter.mp hf).1 (List.mem_filter.mp hf).2

end SchemaSet

/-! ### The whole -/

namespace Schema

open JsonSchema SchemaSet

variable {s : Schema} {o : ObjectSchema} {root d : Document} {r : Registry} {m : Mode}

/-- The members of the rendering of a schema. -/
def renderedMembers (s : Schema) : List (String × Document) :=
  s.set.nodeMembers s.root ++ [("$schema", .string dialect)] ++
    if (s.set.definitionsOf s.root).isEmpty then []
    else [("$defs", .ofMembers (s.set.definitionsOf s.root))]

theorem toJsonSchema_eq : s.toJsonSchema = .ofMembers s.renderedMembers := by
  unfold renderedMembers
  change Document.ofMembers (if (s.set.definitionsOf s.root).isEmpty then _ else _) = _
  cases (s.set.definitionsOf s.root).isEmpty with
  | true => rw [if_pos rfl, if_pos rfl, List.append_nil]
  | false => rfl

theorem nodup_renderedMembers : (s.renderedMembers.map (·.1)).Nodup := by
  have hkeys : (s.renderedMembers.map (·.1)).Sublist
      (["$ref", "type", "pattern", "items", "minItems"] ++ ["$schema"] ++ ["$defs"]) := by
    unfold renderedMembers
    rw [List.map_append, List.map_append]
    refine (keys_nodeMembers.append (List.Sublist.refl _)).append ?_
    split
    · exact List.nil_sublist _
    · exact List.Sublist.refl _
  exact hkeys.nodup (by decide)

/-- **The rendering asks for what the schema of the root asks for**; its other members assert
nothing. -/
theorem valid_toJsonSchema_iff :
    Valid root s.toJsonSchema d ↔ Valid root (s.set.nodeSchema s.root) d := by
  rw [toJsonSchema_eq, valid_ofMembers_iff nodup_renderedMembers, valid_nodeSchema_iff]
  constructor
  · exact fun h k value hmem => h k value (List.mem_append_left _ (List.mem_append_left _ hmem))
  · intro h k value hmem
    rcases List.mem_append.mp hmem with hmem | hmem
    · rcases List.mem_append.mp hmem with hmem | hmem
      · exact h k value hmem
      · cases k <;> simp [Keyword.key] at hmem
    · split at hmem
      · exact absurd hmem List.not_mem_nil
      · cases k <;> simp [Keyword.key] at hmem

/-- **Where a definition is found**: under its name, under the key of the definitions. -/
theorem follow?_definition (hs : s.set.Sound r m) (ho : s.set.Defines s.root o) :
    follow? ["$defs", o.name] s.toJsonSchema = some (s.set.objectBody o) := by
  have hne : (s.set.definitionsOf s.root).isEmpty = false := by
    cases hdefinitions : s.set.definitionsOf s.root with
    | nil =>
      rw [Defines, hdefinitions] at ho
      exact absurd ho List.not_mem_nil
    | cons => rfl
  have hdefs : Keyed.find? "$defs" (Keyed.ofList s.renderedMembers) =
      some (.ofMembers (s.set.definitionsOf s.root)) := by
    refine (Keyed.find?_ofList nodup_renderedMembers).mpr (List.mem_append_right _ ?_)
    rw [hne]
    exact List.mem_cons_self
  rw [toJsonSchema_eq, Document.ofMembers, follow?, hdefs, Option.bind_some, Document.ofMembers,
    follow?, ho.find? hs, Option.bind_some, follow?]

/-- **What a reference refers to**: the schema of its object type, if that is defined and its name
is an identifier. -/
theorem resolve?_reference (hs : s.set.Sound r m) (hname : TypeExpr.isTypeName o.name.toList = true)
    (ho : s.set.Defines s.root o) :
    resolve? s.toJsonSchema (definitionsPointer ++ o.name) = some (s.set.objectBody o) := by
  -- the pointer leads to the definitions, and from there to the one of this name
  have hsteps : steps? ("/$defs/".toList ++ o.name.toList) = some ["$defs", o.name] :=
    steps?_reference hname
  rw [resolve?, String.toList_append]
  change (steps? ("/$defs/".toList ++ o.name.toList)).bind _ = _
  rw [hsteps, Option.bind_some, follow?_definition hs ho]

end Schema

end Conformance

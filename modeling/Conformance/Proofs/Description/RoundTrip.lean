import Conformance.Proofs.Description.Annotations

/-!
# Type descriptions survive their file format

What a list of types is written as is loaded again as the registry of these types, and nothing that
a description says about a field is lost when it is loaded: what has no meaning of its own is kept
as an annotation, so that it can still be refused.

A file may be nested as deeply as any JSON text. The annotations of a field stand five levels inside
of the file, and so a value that can be read on its own may be too deep for an annotation
(`Conformance.Registry.deep_annotation_refused`).

* `Conformance.Registry.descriptions_survive` – types that are written, and descriptions that are
  loaded.
-/

namespace Conformance

namespace Registry

open SourceText (nested)

/-- **Type descriptions survive their file format.** Types with different names, all of whose fields
can be held, are read back from the JSON value that they are written as, with as many levels as it
is nested. They are loaded again if no annotation is nested more deeply than five levels below the
limit, and refused otherwise; the text of the value is loaded like the value, as long as no number
in it is a double.

A description that was loaded from a JSON text is the registry of types each of whose fields keeps
all that its own description says. This is a JSON object, and the keys of the annotations of the
field are the keys of the object that are not known, and no others. -/
theorem descriptions_survive :
    (∀ types, (namesOf types).Nodup → (∀ type ∈ types, ∀ f ∈ type.fields, f.Storable) →
      (∀ (t : SourceText) (depth : Nat), t.format = .json →
        t.readTypes depth (.ofJson (describe types).toJson) =
          nested (describe types).nesting depth types) ∧
      ∀ origin,
        (AllAnnotations (·.nesting ≤ nestingLimit - 5) types →
          ofSource (.ofJson (describe types).toJson) origin = .ok (registered types)) ∧
        (¬AllAnnotations (·.nesting ≤ nestingLimit - 5) types →
          ofSource (.ofJson (describe types).toJson) origin =
            .error (.notLoaded origin (.malformed .recursionLimit))) ∧
        (AllAnnotations Document.IntegersOnly types → parse .json (describe types).text origin =
          ofSource (.ofJson (describe types).toJson) origin)) ∧
    (∀ text origin r, parse .json text origin = .ok r →
      ∃ types, (namesOf types).Nodup ∧ r = registered types ∧
        List.Forall₂ (fun node type => type.Keeps node)
          (Json.readText text).root.typeNodes types) ∧
    ∀ (f : FieldDescription) (node : Source), f.Keeps node →
      ∃ members : List (String × Json), node = .ofJson (.object members) ∧
        ∀ key, key ∈ Keyed.keys f.annotations ↔ key ∈ members.map (·.1) ∧
          key ∉ ["name", "type", "required", "nullable", "pattern", "min_length", "non_empty"] := by
  refine ⟨fun types hnames h => ⟨fun t depth ht => SourceText.readTypes_describe ht h, fun origin =>
    ⟨fun hwithin => ?_, fun hwithin => ?_, fun hints => ?_⟩⟩, fun text origin r hload => ?_,
    fun f node hkeeps => hkeeps.exists_mem_keys_iff⟩
  · exact ofSource_describe hnames h hwithin origin
  · exact ofSource_describe_of_not h hwithin origin
  · rw [parse, ofText_describe h hints]
  · exact exists_of_parse hload

/-- Two types, of which one has a field with all constraints and two annotations. -/
def mailTypes : List ObjectType := [
  ⟨"Mail", [⟨"to", .array (.named "Contact"), some true, some false, none,
    some 18446744073709551615, true,
    [("format", .string "list"), ("since", .object [("year", .ofCount 1998)])]⟩,
    ⟨"body", .scalar .string, none, none, some "[a-z]+", none, false, []⟩]⟩,
  ⟨"Contact", []⟩]

theorem allAnnotations_mailTypes {P : Document → Prop} (hformat : P (.string "list"))
    (hsince : P (.object [("year", .ofCount 1998)])) : AllAnnotations P mailTypes := by
  simp only [AllAnnotations, mailTypes, List.forall_mem_cons, List.not_mem_nil, false_imp_iff,
    implies_true, and_true]
  exact ⟨hformat, hsince⟩

theorem storable_mailTypes : ∀ type ∈ mailTypes, ∀ f ∈ type.fields, f.Storable := by
  have hcontact : TypeExpr.WellFormed (.array (.named "Contact")) :=
    ⟨by decide, fun kind => by cases kind <;> decide⟩
  simp only [mailTypes, List.forall_mem_cons, List.not_mem_nil, false_imp_iff, implies_true,
    and_true]
  refine ⟨⟨hcontact, by decide, ?_, ?_, ?_⟩, ⟨trivial, by decide, ?_, .nil, by simp⟩⟩
  · simp [WordInt.max]
  · have hlt : "format" < "since" := by decide
    simpa [Keyed.Ordered] using hlt
  · simp [Document.InOrder, Document.membersInOrder, Keyed.Ordered, Document.ofCount]
  · simp

theorem descriptions_survive_mailTypes :
    (namesOf mailTypes).Nodup ∧ (∀ type ∈ mailTypes, ∀ f ∈ type.fields, f.Storable) ∧
      ofSource (.ofJson (describe mailTypes).toJson) inlineOrigin = .ok (registered mailTypes) ∧
      parse .json (describe mailTypes).text inlineOrigin = .ok (registered mailTypes) ∧
      ∃ types, (namesOf types).Nodup ∧ registered mailTypes = registered types ∧
        List.Forall₂ (fun node type => type.Keeps node)
          (Json.readText (describe mailTypes).text).root.typeNodes types := by
  have hnames : (namesOf mailTypes).Nodup := by decide
  have hwithin : AllAnnotations (·.nesting ≤ nestingLimit - 5) mailTypes := by
    refine allAnnotations_mailTypes (Nat.zero_le _) ?_
    decide
  have hints : AllAnnotations Document.IntegersOnly mailTypes := by
    refine allAnnotations_mailTypes trivial (Document.integersOnly_object_iff.mpr ?_)
    rw [List.forall_mem_singleton, Document.ofCount, Number.ofNat_of_le (by decide)]
    trivial
  obtain ⟨hwritten, hloaded, -⟩ := descriptions_survive
  obtain ⟨-, horigin⟩ := hwritten mailTypes hnames storable_mailTypes
  obtain ⟨hvalue, -, htext⟩ := horigin inlineOrigin
  have hparse := (htext hints).trans (hvalue hwithin)
  exact ⟨hnames, storable_mailTypes, hvalue hwithin, hparse, hloaded _ _ _ hparse⟩

/-! ### Annotations that are too deep -/

/-- Arrays inside of each other, around an empty one. -/
def layers : Nat → Document
  | 0 => .array []
  | n + 1 => .array [layers n]

theorem nesting_layers (n : Nat) : (layers n).nesting = n + 1 := by
  induction n with
  | zero => rfl
  | succ n ih =>
    have h : (layers (n + 1)).nesting = max (layers n).nesting 0 + 1 := rfl
    rw [h, ih, Nat.max_zero]

theorem inOrder_layers (n : Nat) : (layers n).InOrder := by
  induction n with
  | zero => trivial
  | succ n ih => exact ⟨ih, trivial⟩

/-- A type with an annotation of 123 arrays. -/
def deepTypes : List ObjectType :=
  [⟨"T", [⟨"x", .scalar .any, none, none, none, none, false, [("a", layers 122)]⟩]⟩]

/-- **Not every annotation survives**: one that can be read on its own may be too deep inside of its
file. -/
theorem deep_annotation_refused :
    (namesOf deepTypes).Nodup ∧ (∀ type ∈ deepTypes, ∀ f ∈ type.fields, f.Storable) ∧
      (layers 122).nesting ≤ nestingLimit ∧
      ofSource (.ofJson (describe deepTypes).toJson) inlineOrigin =
        .error (.notLoaded inlineOrigin (.malformed .recursionLimit)) := by
  have hstorable : ∀ type ∈ deepTypes, ∀ f ∈ type.fields, f.Storable := by
    simp only [deepTypes, List.forall_mem_cons, List.not_mem_nil, false_imp_iff, implies_true,
      and_true]
    exact ⟨trivial, by simp [FieldDescription.knownKeys], by simp, List.pairwise_singleton _ _,
      by simpa using inOrder_layers 122⟩
  refine ⟨by decide, hstorable, ?_, ofSource_describe_of_not hstorable (fun hall => ?_) _⟩
  · rw [nesting_layers]
    decide
  · have hle := hall _ List.mem_cons_self _ List.mem_cons_self _ List.mem_cons_self
    simp only [nesting_layers] at hle
    exact absurd hle (by decide)

end Registry

end Conformance

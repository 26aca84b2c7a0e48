import Conformance.Proofs.Generation.History

/-!
# The strict mode only tightens

The two modes differ where a description is silent. In the strict one a field may be null, or be
left out, only if its description allows it; in the lenient one, unless its description forbids it.
So what the lenient mode finds in a document is found by the strict mode too, except that the
strict mode may find more fields missing in an object and more values of the wrong kind. What is
checked by a pattern or a least number of elements is the same in both.

The two lists of violations are related by leaving out (`Conformance.Violation.Thins`): a violation
may be left out if it is about missing fields or about a wrong kind, and the list of missing fields
may itself be shortened.

* `Conformance.Violation.Thins.filter_eq` – no other violation is left out;
* `Conformance.Registry.violations_thins` – the descriptions, read in both modes;
* `Conformance.Generator.lenient_thins_strict` – the schemas of a type expression in both modes.
-/

namespace Conformance

/-! ### Leaving out -/

namespace Violation

/-- Whether a violation is of a constraint of a field: of a pattern or of a least number of
elements. -/
def ofConstraint (v : Violation) : Bool := v.kind == .pattern || v.kind == .minLength

/-- **The first list of violations is what remains of the second** when violations about missing
fields or a wrong kind are left out, and names of missing fields. The order is kept. -/
inductive Thins : List Violation → List Violation → Prop where
  /-- Nothing remains of nothing. -/
  | nil : Thins [] []
  /-- A violation stays. -/
  | keep (v : Violation) {l s : List Violation} (h : Thins l s) : Thins (v :: l) (v :: s)
  /-- A violation is left out. -/
  | drop {v : Violation} (hv : v.kind = .required ∨ v.kind = .typeMismatch) {l s : List Violation}
    (h : Thins l s) : Thins l (v :: s)
  /-- Names of missing fields are left out, and some stay. -/
  | shorten (path : String) {names names' : List String} (hne : names ≠ [])
    (hsub : names.Sublist names') {l s : List Violation} (h : Thins l s) :
    Thins (required path names :: l) (required path names' :: s)

namespace Thins

variable {l l' s s' : List Violation}

@[refl] theorem refl (l : List Violation) : Thins l l := by
  induction l with
  | nil => exact .nil
  | cons v rest ih => exact .keep v ih

theorem append (h : Thins l s) (h' : Thins l' s') : Thins (l ++ l') (s ++ s') := by
  induction h with
  | nil => exact h'
  | keep v _ ih => exact .keep v ih
  | drop hv _ ih => exact .drop hv ih
  | shorten path hne hsub _ ih => exact .shorten path hne hsub ih

theorem flatMap {α : Type} {as : List α} {f g : α → List Violation}
    (h : ∀ a ∈ as, Thins (f a) (g a)) : Thins (as.flatMap f) (as.flatMap g) := by
  induction as with
  | nil => exact .nil
  | cons a rest ih =>
    rw [List.flatMap_cons, List.flatMap_cons]
    exact (h a List.mem_cons_self).append (ih fun b hb => h b (List.mem_cons_of_mem _ hb))

/-- Violations of a wrong kind may all be left out. -/
theorem of_nil (h : ∀ v ∈ s, v.kind = .typeMismatch) : Thins [] s := by
  induction s with
  | nil => exact .nil
  | cons v rest ih =>
    exact .drop (Or.inr (h v List.mem_cons_self)) (ih fun w hw => h w (List.mem_cons_of_mem _ hw))

/-- What remains of nothing is nothing. -/
theorem eq_nil (h : Thins l []) : l = [] := by
  cases h
  rfl

/-- **The violations of constraints stay**, all of them and in their order. -/
theorem filter_eq (h : Thins l s) : l.filter ofConstraint = s.filter ofConstraint := by
  have hrequired : ∀ path names, ¬(required path names).ofConstraint = true :=
    fun _ _ => Bool.false_ne_true
  induction h with
  | nil => rfl
  | keep v _ ih => rw [List.filter_cons, List.filter_cons, ih]
  | drop hv _ ih =>
    rw [ih, List.filter_cons_of_neg]
    rcases hv with hv | hv
    · simp [ofConstraint, hv]
    · simp [ofConstraint, hv]
  | shorten path _ _ _ ih =>
    rw [List.filter_cons_of_neg (hrequired _ _), List.filter_cons_of_neg (hrequired _ _), ih]

end Thins

end Violation

/-! ### The modes -/

namespace Mode

variable {f : FieldDescription}

/-- What may be null in the strict mode may be null in the lenient one. -/
theorem nullable_explicitOnly (h : allNonNullable.nullable f = true) :
    explicitOnly.nullable f = true := by
  cases hf : f.nullable with
  | none => simp [nullable, hf]
  | some b => simpa [nullable, hf] using h

/-- What is required in the lenient mode is required in the strict one. -/
theorem required_allNonNullable (h : explicitOnly.required f = true) :
    allNonNullable.required f = true := by
  cases hf : f.required with
  | none => simp [required, hf] at h
  | some b => simpa [required, hf] using h

end Mode

/-! ### The descriptions in both modes -/

namespace Registry

open Violation (Thins)

variable {r : Registry} {e : TypeExpr} {least : Option Nat} {pattern : Option String}
variable {path name : String} {t : ObjectType} {d : Document}

theorem violations_unknown {m : Mode} (ht : r.find? name = none) :
    r.violations m (.named name) least pattern path d = [] := by
  rw [violations.eq_def]
  simp only [ht]

/-- A null that is not constrained can only have the wrong kind. -/
theorem kind_of_mem_violations_null {m : Mode} {v : Violation}
    (hv : v ∈ r.violations m e none none path .null) : v.kind = .typeMismatch := by
  have hmismatch : v ∈ [Violation.typeMismatch path .null] → v.kind = .typeMismatch := by
    intro h
    rw [List.mem_singleton.mp h]
    rfl
  cases e with
  | scalar kind =>
    rw [violations_scalar] at hv
    change v ∈ if kind.accepts .null then [] else _ at hv
    split at hv
    · exact absurd hv List.not_mem_nil
    · exact hmismatch hv
  | array element =>
    rw [violations_array_of_ne (by simp)] at hv
    exact hmismatch hv
  | named name =>
    cases ht : r.find? name with
    | none =>
      rw [violations_unknown ht] at hv
      exact absurd hv List.not_mem_nil
    | some t =>
      rw [violations_named_of_ne ht (by simp)] at hv
      exact hmismatch hv

/-- The fewer fields are missing, the less is reported. -/
theorem missing_thins {missing missing' : List FieldDescription} (h : missing.Sublist missing') :
    Thins (if missing.isEmpty then [] else [.required path (missing.map (·.name))])
      (if missing'.isEmpty then [] else [.required path (missing'.map (·.name))]) := by
  cases missing' with
  | nil =>
    rw [List.sublist_nil.mp h]
  | cons f' rest' =>
    cases missing with
    | nil => exact .drop (Or.inl rfl) .nil
    | cons f rest => exact .shorten path (by simp) (h.map _) .nil

/-- Fewer fields are missing in the lenient mode. -/
theorem requiredViolations_thins {members : List (String × Document)} :
    Thins (requiredViolations .explicitOnly t path members)
      (requiredViolations .allNonNullable t path members) := by
  refine missing_thins (List.monotone_filter_right _ fun f hf => ?_)
  obtain ⟨hrequired, habsent⟩ := Bool.and_eq_true_iff.mp hf
  exact Bool.and_eq_true_iff.mpr ⟨Mode.required_allNonNullable hrequired, habsent⟩

/-- A null that the lenient mode reports in a field is reported by the strict one. -/
theorem valueViolations_null_thins {f : FieldDescription} :
    Thins (r.valueViolations .explicitOnly f path (some .null))
      (r.valueViolations .allNonNullable f path (some .null)) := by
  rw [valueViolations, valueViolations]
  cases hstrict : Mode.allNonNullable.nullable f with
  | true => rw [if_pos (Mode.nullable_explicitOnly hstrict), if_pos rfl]
  | false =>
    rw [if_neg Bool.false_ne_true]
    split
    · exact .drop (Or.inr rfl) .nil
    · exact .refl _

/-- The lenient mode passes over an element that is null, and the strict one looks at it. -/
theorem item_thins (h : Thins (r.violations .explicitOnly e none none path d)
      (r.violations .allNonNullable e none none path d)) :
    Thins
      (if d.isNull && Mode.explicitOnly.nullableElements then []
        else r.violations .explicitOnly e none none path d)
      (if d.isNull && Mode.allNonNullable.nullableElements then []
        else r.violations .allNonNullable e none none path d) := by
  by_cases hnull : d = .null
  · subst hnull
    exact Thins.of_nil fun v hv => kind_of_mem_violations_null hv
  · rw [d.isNull_eq_false hnull]
    exact h

/-- **The lenient reading of a description leaves out violations of the strict one.** -/
theorem violations_thins :
    Thins (r.violations .explicitOnly e least pattern path d)
      (r.violations .allNonNullable e least pattern path d) := by
  induction d using Document.induction_children generalizing e least pattern path with
  | step d ih =>
  cases e with
  | scalar kind => rw [violations_scalar, violations_scalar]
  | array element =>
    rcases d.eq_array_or with ⟨items, rfl⟩ | hne
    · rw [violations_array, violations_array, elementViolations_eq_flatMap,
        elementViolations_eq_flatMap]
      refine (Thins.refl _).append (Thins.flatMap fun p hp => ?_)
      exact item_thins (ih p.1 (.item (List.fst_mem_of_mem_zipIdx hp)))
    · rw [violations_array_of_ne hne, violations_array_of_ne hne]
  | named name =>
    cases ht : r.find? name with
    | none => rw [violations_unknown ht, violations_unknown ht]
    | some t =>
      rcases d.eq_object_or with ⟨members, rfl⟩ | hne
      · rw [violations_named ht, violations_named ht]
        refine (Thins.flatMap fun f _ => ?_).append requiredViolations_thins
        cases hv : Keyed.find? f.name members with
        | none => exact .nil
        | some v =>
          by_cases hnull : v = .null
          · subst hnull
            exact valueViolations_null_thins
          · rw [valueViolations_of_ne hnull, valueViolations_of_ne hnull]
            exact ih v (.value hv)
      · rw [violations_named_of_ne ht hne, violations_named_of_ne ht hne]

end Registry

/-! ### The schemas in both modes -/

namespace Generator

open Violation (Thins)

/-- **The strict mode only tightens.** A type expression has a schema in both modes or in none. What
the lenient schema finds in a document is what the strict one finds, but for some violations about
missing fields or wrong kinds, and some names of missing fields; the violations of patterns and of
least numbers of elements are the same. So what the strict schema accepts, the lenient one accepts.
-/
theorem lenient_thins_strict (r : Registry) (calls calls' : List Call) (e : TypeExpr)
    (later later' : List Call) :
    (∃ error, ((new r .explicitOnly).run calls).2.schemaOf e later = .error error ∧
      ((new r .allNonNullable).run calls').2.schemaOf e later' = .error error) ∨
    ∃ lenient strict, ((new r .explicitOnly).run calls).2.schemaOf e later = .ok lenient ∧
      ((new r .allNonNullable).run calls').2.schemaOf e later' = .ok strict ∧
      ∀ d, Thins (lenient.validate d) (strict.validate d) ∧
        (lenient.validate d).filter Violation.ofConstraint =
          (strict.validate d).filter Violation.ofConstraint ∧
        (strict.validate d = [] → lenient.validate d = []) := by
  rcases schemaOf_both r .explicitOnly .allNonNullable calls calls' e later later' with
    hfail | ⟨lenient, strict, hs, hs', ⟨hsound, hstands⟩, hsound', hstands'⟩
  · exact Or.inl hfail
  · refine Or.inr ⟨lenient, strict, hs, hs', fun d => ?_⟩
    have hthins : Thins (lenient.validate d) (strict.validate d) := by
      unfold Schema.validate Schema.findings
      rw [SchemaSet.map_findings_eq_violations hsound hstands,
        SchemaSet.map_findings_eq_violations hsound' hstands']
      exact Registry.violations_thins
    refine ⟨hthins, hthins.filter_eq, fun haccepted => ?_⟩
    rw [haccepted] at hthins
    exact hthins.eq_nil

end Generator

end Conformance

import Mathlib.Logic.Relation
import Conformance.Proofs.Entries
import Conformance.Proofs.Generation.Steps

/-!
# Which types have a schema

A description is supported if its fields have different names and each of them passes the checks of
its constraints (`Conformance.ObjectType.Supported`). A type has a schema if every type that it
leads to is described and supported; which these are is read off the names in the types of fields
(`Conformance.Registry.Links`).

Which of several faults is met first is a matter of order. The survey of a type expression
(`Conformance.Registry.survey`) looks at the types it leads to, each once and in the order in which
their names occur, and knows nothing but the names it has met: it has no nodes, and it does not
remember arrays. Its answer is the first fault, or all the names met.

* `Conformance.Registry.survey_surveyed` – what a survey that finds no fault has seen;
* `Conformance.Registry.survey_eq_ok` – a survey of supported types finds no fault;
* `Conformance.Registry.survey_ok_iff` – both, as one equivalence;
* `Conformance.Registry.mem_survey_iff` – which names such a survey has met.
-/

namespace Conformance

open Relation (ReflTransGen)

/-! ### Supported descriptions -/

/-- A field that has a node, whatever its type refers to. -/
structure FieldDescription.Supported (f : FieldDescription) : Prop where
  /-- It has no annotation. -/
  annotations : f.annotations = []
  /-- Only an array has a least number of elements. -/
  minLength : f.effectiveMinLength ≠ none → ∃ element, f.type = .array element
  /-- Only a text or anything has a pattern. -/
  pattern : f.pattern ≠ none → f.type = .scalar .string ∨ f.type = .scalar .any
  /-- A pattern compiles. -/
  compiles : ∀ source, f.pattern = some source → ∃ p, Pattern.compile? source = some p

/-- A type whose own description has no fault. -/
structure ObjectType.Supported (t : ObjectType) : Prop where
  /-- The names of its fields differ. -/
  distinct : (t.fields.map (·.name)).Nodup
  /-- Its fields are supported. -/
  fields : ∀ f ∈ t.fields, f.Supported

/-- The object type that a type expression leads to: itself, or that of its innermost elements. -/
def TypeExpr.objectName? : TypeExpr → Option String
  | .scalar _ => none
  | .array element => element.objectName?
  | .named name => some name

namespace Registry

/-- The names of a registry are those that are described. -/
theorem mem_names_iff {r : Registry} {name : String} :
    name ∈ r.names ↔ ∃ t, r.find? name = some t :=
  Keyed.mem_keys_iff

/-- A type of this name is described, and its description has no fault. -/
def Supports (r : Registry) (name : String) : Prop :=
  ∃ t, r.find? name = some t ∧ t.Supported

/-- **One type links to another**: the type of one of its fields leads there. -/
def Links (r : Registry) (name name' : String) : Prop :=
  ∃ t f, r.find? name = some t ∧ f ∈ t.fields ∧ f.type.objectName? = some name'

/-- **The types that a type expression reaches**, by their names: the one it leads to, and those
that this one links to in any number of steps. -/
def Reaches (r : Registry) (e : TypeExpr) (name : String) : Prop :=
  ∃ start, e.objectName? = some start ∧ ReflTransGen r.Links start name

/-- A set of names of supported types that holds everything they link to. -/
def Closed (r : Registry) (names : String → Prop) : Prop :=
  ∀ name, names name → r.Supports name ∧ ∀ name', r.Links name name' → names name'

end Registry

namespace Generating

variable {owner : String} {f : FieldDescription}

/-- The checks of a field pass if it is supported, and in no other case. -/
theorem exists_constraintOf_iff : (∃ c, constraintOf owner f = .ok c) ↔ f.Supported := by
  constructor
  · rintro ⟨c, hc⟩
    obtain ⟨hannotations, hof⟩ := constraintOf_eq_ok hc
    cases c with
    | none =>
      obtain ⟨hlength, hpattern⟩ := hof
      exact ⟨hannotations, absurd hlength, absurd hpattern, by simp [hpattern]⟩
    | minLength element n =>
      obtain ⟨htype, -, hpattern⟩ := hof
      exact ⟨hannotations, fun _ => ⟨element, htype⟩, absurd hpattern, by simp [hpattern]⟩
    | pattern kind p =>
      obtain ⟨htype, hlength, hpattern, hkind⟩ := hof
      refine ⟨hannotations, absurd hlength, fun _ => ?_, fun source hsource => ?_⟩
      · rw [htype]
        exact hkind.imp (congrArg _) (congrArg _)
      · obtain rfl := Option.some.inj (hpattern.symm.trans hsource)
        exact ⟨p, p.compile?_source⟩
  · rintro ⟨hannotations, hlength, hpattern, hcompiles⟩
    have hpasses : ¬((f.effectiveMinLength.isSome && !f.type.isArray) = true) := by
      intro h
      obtain ⟨hsome, hnoArray⟩ := Bool.and_eq_true_iff.mp h
      obtain ⟨element, htype⟩ := hlength (Option.isSome_iff_ne_none.mp hsome)
      simp [htype, TypeExpr.isArray] at hnoArray
    unfold constraintOf
    rw [hannotations]
    dsimp only
    rw [if_neg hpasses]
    split
    · split
      · exact ⟨_, rfl⟩
      · exact ⟨_, rfl⟩
    · exact ⟨_, rfl⟩
    · rename_i source kind hsource htype
      obtain ⟨p, hp⟩ := hcompiles source hsource
      have hkind : (kind == .string || kind == .any) = true := by
        simpa [htype] using hpattern (by simp [hsource])
      rw [if_pos hkind, hp]
      exact ⟨_, rfl⟩
    · rename_i source hsource htype
      rcases hpattern (by simp [hsource]) with h | h
      · exact (htype _ h).elim
      · exact (htype _ h).elim

end Generating

/-! ### The survey -/

namespace Registry

mutual

/-- **The survey of a type expression**: the names met so far and those that it leads to, or the
first fault. Named types are looked up in the registry given. -/
def survey (r : Registry) (known : List String) (e : TypeExpr) (referencedFrom : String) :
    Except GenerationError (List String) :=
  match e with
  | .scalar _ => .ok known
  | .array element => survey r known element referencedFrom
  | .named name =>
    if name ∈ known then .ok known
    else
      match _h : r.find? name with
      | none => .error (.unknownType name referencedFrom)
      | some t => surveyFields (r.erase name) (name :: known) name [] t.fields
termination_by (r.size, 0, sizeOf e)
decreasing_by
  · exact Prod.Lex.right _ (Prod.Lex.right _ (by simp +arith))
  · exact Prod.Lex.left _ _ (size_erase_lt _h)

/-- The survey of the fields of a type, in order; `seen` holds the names of the fields before
them. -/
def surveyFields (r : Registry) (known : List String) (owner : String) (seen : List String)
    (fields : List FieldDescription) : Except GenerationError (List String) :=
  match fields with
  | [] => .ok known
  | f :: rest =>
    if f.name ∈ seen then .error (.duplicateField owner f.name)
    else
      match Generating.constraintOf owner f with
      | .error e => .error e
      | .ok _ =>
        match survey r known f.type (owner ++ "." ++ f.name) with
        | .error e => .error e
        | .ok known => surveyFields r known owner (f.name :: seen) rest
termination_by (r.size, 1, sizeOf fields)
decreasing_by
  · exact Prod.Lex.right _ (Prod.Lex.left _ _ Nat.zero_lt_one)
  · exact Prod.Lex.right _ (Prod.Lex.right _ (by simp +arith))

end

variable {r r₀ : Registry} {known known' : List String} {e : TypeExpr} {referencedFrom : String}
variable {name owner : String} {seen : List String} {fields : List FieldDescription}

/-! ### One step of the survey -/

@[simp] theorem survey_scalar {kind : ScalarKind} :
    r.survey known (.scalar kind) referencedFrom = .ok known := by
  rw [survey]

@[simp] theorem survey_array {element : TypeExpr} :
    r.survey known (.array element) referencedFrom = r.survey known element referencedFrom := by
  rw [survey]

theorem survey_of_mem (h : name ∈ known) :
    r.survey known (.named name) referencedFrom = .ok known := by
  rw [survey, if_pos h]

theorem survey_unknown (h : name ∉ known) (hr : r.find? name = none) :
    r.survey known (.named name) referencedFrom = .error (.unknownType name referencedFrom) := by
  rw [survey, if_neg h]
  split
  · rfl
  · rename_i ht
    exact absurd (hr.symm.trans ht) (by simp)

theorem survey_named {t : ObjectType} (h : name ∉ known) (hr : r.find? name = some t) :
    r.survey known (.named name) referencedFrom =
      (r.erase name).surveyFields (name :: known) name [] t.fields := by
  rw [survey, if_neg h]
  split
  · rename_i ht
    exact absurd (hr.symm.trans ht) (by simp)
  · rename_i t' ht
    obtain rfl : t = t' := Option.some.inj (hr.symm.trans ht)
    rfl

@[simp] theorem surveyFields_nil : r.surveyFields known owner seen [] = .ok known := by
  rw [surveyFields]

theorem surveyFields_cons {f : FieldDescription} {rest : List FieldDescription} :
    r.surveyFields known owner seen (f :: rest) =
      if f.name ∈ seen then .error (.duplicateField owner f.name)
      else
        match Generating.constraintOf owner f with
        | .error e => .error e
        | .ok _ =>
          match r.survey known f.type (owner ++ "." ++ f.name) with
          | .error e => .error e
          | .ok known => r.surveyFields known owner (f.name :: seen) rest := by
  rw [surveyFields]

/-- A survey of fields that finds no fault finds none in the first field, and goes on behind it. -/
theorem surveyFields_cons_eq_ok {f : FieldDescription} {rest : List FieldDescription} :
    r.surveyFields known owner seen (f :: rest) = .ok known' ↔
      f.name ∉ seen ∧ f.Supported ∧
        ∃ met, r.survey known f.type (owner ++ "." ++ f.name) = .ok met ∧
          r.surveyFields met owner (f.name :: seen) rest = .ok known' := by
  have hsupported : (∃ c, Generating.constraintOf owner f = .ok c) ↔ f.Supported :=
    Generating.exists_constraintOf_iff
  rw [surveyFields_cons, ← hsupported]
  by_cases hseen : f.name ∈ seen
  · simp [hseen]
  rw [if_neg hseen]
  cases Generating.constraintOf owner f with
  | error error => simp
  | ok c => cases r.survey known f.type (owner ++ "." ++ f.name) <;> simp [hseen]

/-! ### What a survey without a fault has seen -/

/-- The part of a registry that is passed on has the types that were not met yet. -/
def Leaves (r r₀ : Registry) (known : List String) : Prop :=
  ∀ name, name ∉ known → r.find? name = r₀.find? name

theorem Leaves.mono (h : r.Leaves r₀ known) (hsub : known ⊆ known') : r.Leaves r₀ known' :=
  fun name hname => h name fun hmem => hname (hsub hmem)

/-- A type that is met may be taken out of the part that is passed on. -/
theorem Leaves.erase (h : r.Leaves r₀ known) : (r.erase name).Leaves r₀ (name :: known) := by
  intro name' hname'
  obtain ⟨hne, hnot⟩ := not_or.mp (mt List.mem_cons.mpr hname')
  rw [← h name' hnot]
  exact Keyed.find?_erase_of_ne hne

/-- **What was seen between two points of a survey**: the types met since then are supported, and
whatever they link to was met. -/
structure Surveyed (r₀ : Registry) (known known' : List String) : Prop where
  /-- What was met stays met. -/
  subset : known ⊆ known'
  /-- The new types are supported. -/
  supports : ∀ name ∈ known', name ∉ known → r₀.Supports name
  /-- What the new types link to was met. -/
  links : ∀ name ∈ known', name ∉ known → ∀ name', r₀.Links name name' → name' ∈ known'

theorem Surveyed.refl (r₀ : Registry) (known : List String) : r₀.Surveyed known known :=
  ⟨fun _ h => h, fun _ h hnot => absurd h hnot, fun _ h hnot => absurd h hnot⟩

theorem Surveyed.trans {known'' : List String} (h : r₀.Surveyed known known')
    (h' : r₀.Surveyed known' known'') : r₀.Surveyed known known'' := by
  refine ⟨fun _ hmem => h'.subset (h.subset hmem), fun name hmem hnot => ?_,
    fun name hmem hnot name' hlink => ?_⟩
  · by_cases hmet : name ∈ known'
    · exact h.supports name hmet hnot
    · exact h'.supports name hmem hmet
  · by_cases hmet : name ∈ known'
    · exact h'.subset (h.links name hmet hnot name' hlink)
    · exact h'.links name hmem hmet name' hlink

mutual

/-- **A survey that finds no fault** has met the type that the expression leads to, supported types
only, and everything they link to. -/
theorem survey_surveyed (r : Registry) (e : TypeExpr) (referencedFrom : String)
    {known known' : List String} (hr : r.Leaves r₀ known)
    (h : r.survey known e referencedFrom = .ok known') :
    r₀.Surveyed known known' ∧ ∀ name, e.objectName? = some name → name ∈ known' := by
  match e, h with
  | .scalar kind, h =>
    obtain rfl : known = known' := by simpa using h
    exact ⟨.refl _ _, fun name hname => absurd hname (by simp [TypeExpr.objectName?])⟩
  | .array element, h =>
    rw [survey_array] at h
    exact survey_surveyed r element referencedFrom hr h
  | .named name, h =>
    by_cases hmem : name ∈ known
    · obtain rfl : known = known' := by simpa [survey_of_mem hmem] using h
      refine ⟨.refl _ _, fun name' hname' => ?_⟩
      obtain rfl : name = name' := Option.some.inj hname'
      exact hmem
    cases ht : r.find? name with
    | none =>
      rw [survey_unknown hmem ht] at h
      exact absurd h (by simp)
    | some t =>
      rw [survey_named hmem ht] at h
      obtain ⟨hseen, hfields, hdistinct⟩ :=
        surveyFields_surveyed (r.erase name) name [] t.fields hr.erase h
      have ht₀ : r₀.find? name = some t := by rw [← hr name hmem, ht]
      have hname : name ∈ known' := hseen.subset List.mem_cons_self
      refine ⟨⟨fun _ h => hseen.subset (List.mem_cons_of_mem _ h), fun name' hmem' hnot => ?_,
        fun name' hmem' hnot name'' hlink => ?_⟩, fun name' hname' => ?_⟩
      · by_cases heq : name' = name
        · subst heq
          exact ⟨t, ht₀, hdistinct, fun f hf => (hfields f hf).1⟩
        · exact hseen.supports name' hmem' (by simp [heq, hnot])
      · by_cases heq : name' = name
        · subst heq
          obtain ⟨t', f, ht', hf, hlink⟩ := hlink
          obtain rfl : t = t' := Option.some.inj (ht₀.symm.trans ht')
          exact (hfields f hf).2.2 name'' hlink
        · exact hseen.links name' hmem' (by simp [heq, hnot]) name'' hlink
      · obtain rfl : name = name' := Option.some.inj hname'
        exact hname
termination_by (r.size, 0, sizeOf e)
decreasing_by
  · exact Prod.Lex.right _ (Prod.Lex.right _ (by simp +arith))
  · exact Prod.Lex.left _ _ (size_erase_lt ht)

/-- A survey of fields that finds no fault has found each of them supported, and no name twice. -/
theorem surveyFields_surveyed (r : Registry) (owner : String) (seen : List String)
    (fields : List FieldDescription) {known known' : List String} (hr : r.Leaves r₀ known)
    (h : r.surveyFields known owner seen fields = .ok known') :
    r₀.Surveyed known known' ∧
      (∀ f ∈ fields, f.Supported ∧ f.name ∉ seen ∧
        ∀ name, f.type.objectName? = some name → name ∈ known') ∧
      (fields.map (·.name)).Nodup := by
  match fields, h with
  | [], h =>
    obtain rfl : known = known' := by simpa using h
    exact ⟨.refl _ _, by simp, List.nodup_nil⟩
  | f :: rest, h =>
    obtain ⟨hnew, hsupported, met, hfirst, hrest⟩ := surveyFields_cons_eq_ok.mp h
    obtain ⟨hseen, hname⟩ := survey_surveyed r f.type (owner ++ "." ++ f.name) hr hfirst
    obtain ⟨hseen', hfields, hdistinct⟩ :=
      surveyFields_surveyed r owner (f.name :: seen) rest (hr.mono hseen.subset) hrest
    refine ⟨hseen.trans hseen', fun f' hf' => ?_, List.nodup_cons.mpr ⟨fun hmem => ?_, hdistinct⟩⟩
    · rcases List.mem_cons.mp hf' with rfl | hf'
      · exact ⟨hsupported, hnew, fun name h => hseen'.subset (hname name h)⟩
      · obtain ⟨hs, hnot, hmet⟩ := hfields f' hf'
        exact ⟨hs, fun h => hnot (List.mem_cons_of_mem _ h), hmet⟩
    · obtain ⟨f', hf', heq⟩ := List.mem_map.mp hmem
      exact (hfields f' hf').2.1 (heq ▸ List.mem_cons_self)
termination_by (r.size, 1, sizeOf fields)
decreasing_by
  · exact Prod.Lex.right _ (Prod.Lex.left _ _ Nat.zero_lt_one)
  · exact Prod.Lex.right _ (Prod.Lex.right _ (by simp +arith))

end

/-! ### Supported types -/

mutual

/-- **A survey of supported types finds no fault**, and meets no others. -/
theorem survey_eq_ok {names : String → Prop} (hnames : r₀.Closed names) (r : Registry)
    (e : TypeExpr) (referencedFrom : String) {known : List String} (hr : r.Leaves r₀ known)
    (he : ∀ name, e.objectName? = some name → name ∈ known ∨ names name) :
    ∃ known', r.survey known e referencedFrom = .ok known' ∧
      ∀ name ∈ known', name ∈ known ∨ names name := by
  match e, he with
  | .scalar kind, _ => exact ⟨known, survey_scalar, fun _ => Or.inl⟩
  | .array element, he =>
    rw [survey_array]
    exact survey_eq_ok hnames r element referencedFrom hr he
  | .named name, he =>
    by_cases hmem : name ∈ known
    · exact ⟨known, survey_of_mem hmem, fun _ => Or.inl⟩
    have hname : names name := (he name rfl).resolve_left hmem
    obtain ⟨⟨t, ht₀, hdistinct, hfields⟩, hlinks⟩ := hnames name hname
    have ht : r.find? name = some t := by rw [hr name hmem, ht₀]
    rw [survey_named hmem ht]
    have heach : ∀ f ∈ t.fields, f.Supported ∧ f.name ∉ [] ∧
        ∀ name', f.type.objectName? = some name' → name' ∈ name :: known ∨ names name' :=
      fun f hf => ⟨hfields f hf, List.not_mem_nil, fun name' h =>
        Or.inr (hlinks name' ⟨t, f, ht₀, hf, h⟩)⟩
    obtain ⟨known', hok, hmet⟩ :=
      surveyFields_eq_ok hnames (r.erase name) name [] t.fields hr.erase heach hdistinct
    refine ⟨known', hok, fun name' hname' => ?_⟩
    rcases hmet name' hname' with h | h
    · rcases List.mem_cons.mp h with rfl | h
      · exact Or.inr hname
      · exact Or.inl h
    · exact Or.inr h
termination_by (r.size, 0, sizeOf e)
decreasing_by
  · exact Prod.Lex.right _ (Prod.Lex.right _ (by simp +arith))
  · exact Prod.Lex.left _ _ (size_erase_lt ht)

/-- A survey of supported fields with different names finds no fault, if the types that they lead
to are supported. -/
theorem surveyFields_eq_ok {names : String → Prop} (hnames : r₀.Closed names) (r : Registry)
    (owner : String) (seen : List String) (fields : List FieldDescription) {known : List String}
    (hr : r.Leaves r₀ known)
    (hfields : ∀ f ∈ fields, f.Supported ∧ f.name ∉ seen ∧
      ∀ name, f.type.objectName? = some name → name ∈ known ∨ names name)
    (hdistinct : (fields.map (·.name)).Nodup) :
    ∃ known', r.surveyFields known owner seen fields = .ok known' ∧
      ∀ name ∈ known', name ∈ known ∨ names name := by
  match fields, hfields, hdistinct with
  | [], _, _ => exact ⟨known, surveyFields_nil, fun _ => Or.inl⟩
  | f :: rest, hfields, hdistinct =>
    obtain ⟨hsupported, hnew, hf⟩ := hfields f List.mem_cons_self
    obtain ⟨hnot, hdistinct⟩ := List.nodup_cons.mp hdistinct
    obtain ⟨met, hfirst, hmet⟩ :=
      survey_eq_ok hnames r f.type (owner ++ "." ++ f.name) hr hf
    have hsub : known ⊆ met := (survey_surveyed r f.type _ hr hfirst).1.subset
    have hothers : ∀ f' ∈ rest, f'.Supported ∧ f'.name ∉ f.name :: seen ∧
        ∀ name, f'.type.objectName? = some name → name ∈ met ∨ names name := by
      intro f' hf'
      obtain ⟨hs, hunseen, hlinks⟩ := hfields f' (List.mem_cons_of_mem _ hf')
      refine ⟨hs, fun h => ?_, fun name h => (hlinks name h).imp_left fun h => hsub h⟩
      rcases List.mem_cons.mp h with heq | h
      · exact hnot (List.mem_map.mpr ⟨f', hf', heq⟩)
      · exact hunseen h
    obtain ⟨known', hrest, hmet'⟩ :=
      surveyFields_eq_ok hnames r owner (f.name :: seen) rest (hr.mono hsub) hothers hdistinct
    exact ⟨known', surveyFields_cons_eq_ok.mpr ⟨hnew, hsupported, met, hfirst, hrest⟩,
      fun name hname => (hmet' name hname).elim (hmet name) Or.inr⟩
termination_by (r.size, 1, sizeOf fields)
decreasing_by
  · exact Prod.Lex.right _ (Prod.Lex.left _ _ Nat.zero_lt_one)
  · exact Prod.Lex.right _ (Prod.Lex.right _ (by simp +arith))

end

/-- A survey without a fault has met what is reached. -/
theorem mem_of_reaches (h : r.survey [] e referencedFrom = .ok known) (hname : r.Reaches e name) :
    name ∈ known := by
  obtain ⟨start, hstart, hreaches⟩ := hname
  obtain ⟨hseen, hmet⟩ := survey_surveyed r e referencedFrom (fun _ _ => rfl) h
  induction hreaches with
  | refl => exact hmet start hstart
  | tail _ hlink ih => exact hseen.links _ ih List.not_mem_nil _ hlink

/-- What is reached holds everything it links to. -/
theorem closed_reaches (h : ∀ name, r.Reaches e name → r.Supports name) :
    r.Closed (r.Reaches e) := by
  rintro name ⟨start, hstart, hreaches⟩
  exact ⟨h name ⟨start, hstart, hreaches⟩, fun name' hlink => ⟨start, hstart, hreaches.tail hlink⟩⟩

/-- **A survey finds no fault if every type that is reached is supported**, and in no other
case. -/
theorem survey_ok_iff (referencedFrom : String) :
    (∃ known, r.survey [] e referencedFrom = .ok known) ↔
      ∀ name, r.Reaches e name → r.Supports name := by
  have hr : r.Leaves r [] := fun _ _ => rfl
  constructor
  · rintro ⟨known, hok⟩ name hname
    obtain ⟨hseen, -⟩ := survey_surveyed r e referencedFrom hr hok
    exact hseen.supports name (mem_of_reaches hok hname) List.not_mem_nil
  · intro h
    obtain ⟨known, hok, -⟩ := survey_eq_ok (closed_reaches h) r e referencedFrom hr
      fun name hname => Or.inr ⟨name, hname, .refl⟩
    exact ⟨known, hok⟩

/-- **A survey without a fault has met what is reached**, and no other type. -/
theorem mem_survey_iff (h : r.survey [] e referencedFrom = .ok known) :
    name ∈ known ↔ r.Reaches e name := by
  refine ⟨fun hmem => ?_, mem_of_reaches h⟩
  have hclosed := closed_reaches ((survey_ok_iff referencedFrom).mp ⟨known, h⟩)
  obtain ⟨known', hok, hmet⟩ := survey_eq_ok hclosed r e referencedFrom (fun _ _ => rfl)
    fun name hname => Or.inr ⟨name, hname, .refl⟩
  obtain rfl : known = known' := by simpa using h.symm.trans hok
  exact (hmet name hmem).resolve_left List.not_mem_nil

end Registry

end Conformance

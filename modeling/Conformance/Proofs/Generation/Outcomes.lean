import Conformance.Proofs.Generation.Runs
import Conformance.Proofs.Generation.Survey

/-!
# How calls end

A generator passes over every type expression that it knows: types of earlier calls, and types that
are being generated. The survey (`Conformance.Registry.survey`) starts with nothing known at each
call. So a generator is ahead of the survey (`Conformance.Arena.Ahead`): it knows what the survey
has met so far, and more. What it knows in addition is complete, and so the survey finds no fault
there either; where neither knows a type, both look at it in the same way. Both therefore end alike.

* `Conformance.Generating.exprNode_survey` – the node of a type expression is made if the survey
  finds no fault, and otherwise the first fault is the error;
* `Conformance.Generator.generateExpr_survey` – the same for calls;
* `Conformance.Generator.generates_iff_supports` – calls succeed if every type reached is supported.
-/

namespace Conformance

open Relation (ReflTransGen)

namespace Arena

variable {a b : Arena} {e : TypeExpr} {id : NodeId} {n : Node} {name : String}
variable {names : String → Prop} {known known' : List String}

/-- The object type of this name was met. -/
def Knows (a : Arena) (name : String) : Prop := ∃ id, a.cached? (.named name) = some id

/-- **An arena is ahead of a survey**: it knows the types that the survey has met, and some others.
-/
structure Ahead (a : Arena) (names : String → Prop) (known : List String) : Prop where
  /-- It knows these, and no more. -/
  knows : ∀ name, a.Knows name ↔ name ∈ known ∨ names name
  /-- What is known leads to a type that is known. -/
  cached : ∀ e id, a.cached? e = some id → ∀ name, e.objectName? = some name → a.Knows name

/-! ### The operations on an arena -/

theorem knows_remember_named {name' : String} :
    (a.remember (.named name) id).Knows name' ↔ name' = name ∨ a.Knows name' := by
  unfold Knows
  by_cases heq : name' = name
  · subst heq
    simp
  · rw [cached?_remember_of_ne (by simpa using heq)]
    simp [heq]

theorem knows_remember_of_ne (h : ∀ name, e ≠ .named name) :
    (a.remember e id).Knows name ↔ a.Knows name := by
  unfold Knows
  rw [cached?_remember_of_ne fun heq => h name heq.symm]

namespace Ahead

theorem push (h : a.Ahead names known) : (a.push n).2.Ahead names known := ⟨h.knows, h.cached⟩

theorem fill (h : a.Ahead names known) : (a.fill id n).Ahead names known := ⟨h.knows, h.cached⟩

/-- A type expression other than a name may be remembered if it leads to a type that is known. -/
theorem remember (h : a.Ahead names known) (he : ∀ name, e ≠ .named name)
    (hname : ∀ name, e.objectName? = some name → a.Knows name) :
    (a.remember e id).Ahead names known := by
  refine ⟨fun name => (knows_remember_of_ne he).trans (h.knows name), fun e' id' hc name hn => ?_⟩
  rw [knows_remember_of_ne he]
  by_cases heq : e' = e
  · subst heq
    exact hname name hn
  · rw [cached?_remember_of_ne heq] at hc
    exact h.cached e' id' hc name hn

/-- A type is met by both. -/
theorem reserve (h : a.Ahead names known) :
    ((a.push n).2.remember (.named name) id).Ahead names (name :: known) := by
  refine ⟨fun name' => ?_, fun e' id' hc name' hn => ?_⟩
  · rw [knows_remember_named, List.mem_cons, or_assoc]
    exact or_congr_right (h.knows name')
  · rw [knows_remember_named]
    by_cases heq : e' = .named name
    · subst heq
      exact Or.inl (Option.some.inj hn).symm
    · rw [cached?_remember_of_ne heq] at hc
      exact Or.inr (h.cached e' id' hc name' hn)

/-- The survey may catch up with what the arena knows. -/
theorem catchUp (h : a.Ahead names known) (hsub : known ⊆ known')
    (hmet : ∀ name ∈ known', name ∈ known ∨ names name) : a.Ahead names known' := by
  refine ⟨fun name => (h.knows name).trans ⟨fun hn => ?_, fun hn => ?_⟩, h.cached⟩
  · exact hn.imp_left fun hmem => hsub hmem
  · exact hn.elim (hmet name) Or.inr

end Ahead

end Arena

/-! ### The steps of generation -/

namespace Generating

variable {r₀ : Registry} {m : Mode} {names : String → Prop}

mutual

/-- **The node of a type expression and its survey end alike**, if the arena is ahead of the survey
by complete types. -/
theorem exprNode_survey (hnames : r₀.Closed names) (r : Registry) (e : TypeExpr)
    (referencedFrom : String) (a : Arena) (known : List String) (hr : r.Leaves r₀ known)
    (ha : a.Ahead names known) :
    (exprNode m r e referencedFrom).Ensures a
      (fun _ b => ∃ known', r.survey known e referencedFrom = .ok known' ∧ b.Ahead names known')
      fun error _ => r.survey known e referencedFrom = .error error := by
  cases hcached : a.cached? e with
  | some id =>
    -- the survey may still have to look at types that are known here, and are complete
    rw [ensures_exprNode_cached hcached]
    obtain ⟨known', hok, hmet⟩ := Registry.survey_eq_ok hnames r e referencedFrom hr
      fun name hname => (ha.knows name).mp (ha.cached e id hcached name hname)
    have hseen := (Registry.survey_surveyed r e referencedFrom hr hok).1
    exact ⟨known', hok, ha.catchUp hseen.subset hmet⟩
  | none =>
    cases e with
    | scalar kind =>
      rw [ensures_exprNode_scalar hcached, Registry.survey_scalar]
      exact ⟨known, rfl, ha.push.remember (by simp) (by simp [TypeExpr.objectName?])⟩
    | array element =>
      rw [ensures_exprNode_array hcached, Registry.survey_array]
      refine ((exprNode_survey hnames r element referencedFrom a known hr ha).and
        (exprNode_grows r element referencedFrom a)).mono ?_ fun _ _ h => h.1
      rintro id b ⟨⟨known', hok, hb⟩, -, helement⟩
      exact ⟨known', hok, hb.push.remember (by simp) (hb.cached element id helement)⟩
    | named name =>
      have hnew : name ∉ known := fun hmem => by
        obtain ⟨id, hid⟩ := (ha.knows name).mpr (Or.inl hmem)
        exact absurd (hcached.symm.trans hid) (by simp)
      cases ht : r.find? name with
      | none =>
        rw [ensures_exprNode_unknown hcached ht, Registry.survey_unknown hnew ht]
      | some t =>
        rw [ensures_exprNode_named hcached ht, Registry.survey_named hnew ht]
        refine (fieldNodes_survey hnames (r.erase name) name [] t.fields _ (name :: known) hr.erase
          ha.reserve).mono ?_ fun _ _ h => h
        rintro fields b ⟨known', hok, hb⟩
        exact ⟨known', hok, hb.fill⟩
termination_by (r.size, 0, sizeOf e)
decreasing_by
  · exact Prod.Lex.right _ (Prod.Lex.right _ (by simp +arith))
  · exact Prod.Lex.left _ _ (Registry.size_erase_lt ht)

/-- The nodes of fields and their survey end alike. -/
theorem fieldNodes_survey (hnames : r₀.Closed names) (r : Registry) (owner : String)
    (seen : List String) (fields : List FieldDescription) (a : Arena) (known : List String)
    (hr : r.Leaves r₀ known) (ha : a.Ahead names known) :
    (fieldNodes m r owner seen fields).Ensures a
      (fun _ b => ∃ known', r.surveyFields known owner seen fields = .ok known' ∧
        b.Ahead names known')
      fun error _ => r.surveyFields known owner seen fields = .error error := by
  cases fields with
  | nil =>
    rw [ensures_fieldNodes_nil, Registry.surveyFields_nil]
    exact ⟨known, rfl, ha⟩
  | cons f rest =>
    rw [ensures_fieldNodes_cons, Registry.surveyFields_cons]
    by_cases hseen : f.name ∈ seen
    · rw [ensures_fieldNode, if_pos hseen, if_pos hseen]
    rw [if_neg hseen]
    cases hc : constraintOf owner f with
    | error error => rw [ensures_fieldNode, if_neg hseen, hc]
    | ok c =>
      dsimp only
      -- the node of the first field and the survey of its type end alike
      have hfield : (fieldNode m (exprNode m r) owner seen f).Ensures a
          (fun _ b => ∃ met, r.survey known f.type (owner ++ "." ++ f.name) = .ok met ∧
            b.Ahead names met)
          fun error _ => r.survey known f.type (owner ++ "." ++ f.name) = .error error := by
        rw [ensures_fieldNode, if_neg hseen, hc]
        have hof := (constraintOf_eq_ok hc).2
        cases c with
        | none => exact exprNode_survey hnames r f.type _ a known hr ha
        | minLength element n =>
          rw [hof.1, Registry.survey_array]
          refine (exprNode_survey hnames r element _ a known hr ha).mono ?_ fun _ _ h => h
          rintro id b ⟨met, hok, hb⟩
          exact ⟨met, hok, hb.push⟩
        | pattern kind p =>
          rw [hof.1, Registry.survey_scalar]
          exact ⟨known, rfl, ha.push⟩
      refine hfield.mono ?_ fun error b h => by rw [h]
      rintro id b ⟨met, hok, hb⟩
      rw [hok]
      have hsub : known ⊆ met := (Registry.survey_surveyed r f.type _ hr hok).1.subset
      exact fieldNodes_survey hnames r owner (f.name :: seen) rest b met (hr.mono hsub) hb
termination_by (r.size, 1, sizeOf fields)
decreasing_by
  · exact Prod.Lex.right _ (Prod.Lex.left _ _ Nat.zero_lt_one)
  · exact Prod.Lex.right _ (Prod.Lex.left _ _ Nat.zero_lt_one)
  · exact Prod.Lex.right _ (Prod.Lex.right _ (by simp +arith))

end

end Generating

namespace Generator

variable {g : Generator} {e : TypeExpr} {error : GenerationError}

/-! ### Calls -/

/-- **A settled generator** knows supported types only, and what they link to. -/
structure Settled (g : Generator) : Prop where
  /-- The types it knows are complete. -/
  closed : g.registry.Closed g.arena.Knows
  /-- What it knows leads to a type that it knows. -/
  cached : ∀ e id, g.arena.cached? e = some id → ∀ name, e.objectName? = some name →
    g.arena.Knows name

theorem settled_new (r : Registry) (m : Mode) : (new r m).Settled := by
  have hnone : ∀ e, (new r m).arena.cached? e = none := fun _ => rfl
  refine ⟨fun name hname => ?_, fun e id hc => ?_⟩
  · obtain ⟨id, hid⟩ := hname
    exact absurd ((hnone _).symm.trans hid) (by simp)
  · exact absurd ((hnone _).symm.trans hc) (by simp)

/-- **A call and the survey of its type expression end alike**: with a node, or with one error. -/
theorem generateExpr_survey (hg : g.Sound) (hs : g.Settled) (e : TypeExpr) :
    (∃ id b known, g.generateExpr e = (.ok id, { g with arena := b }) ∧
      g.registry.survey [] e "<root>" = .ok known ∧ b.Ahead g.arena.Knows known) ∨
    ∃ error, g.generateExpr e = (.error error, g) ∧
      g.registry.survey [] e "<root>" = .error error := by
  have hahead : g.arena.Ahead g.arena.Knows [] := ⟨fun name => by simp, hs.cached⟩
  rcases generateExpr_of_ensures hg (Generating.exprNode_survey (m := g.mode) hs.closed g.registry e
      "<root>" g.arena [] (fun _ _ => rfl) hahead) with
    ⟨id, b, hcall, known, hok, hb⟩ | ⟨error, b, hcall, hfault⟩
  · exact Or.inl ⟨id, b, known, hcall, hok, hb⟩
  · exact Or.inr ⟨error, hcall, hfault⟩

/-- A call keeps a generator settled. -/
theorem generateExpr_settled (hg : g.Sound) (hs : g.Settled) (e : TypeExpr) :
    (g.generateExpr e).2.Settled := by
  rcases generateExpr_survey hg hs e with ⟨id, b, known, hcall, hok, hb⟩ | ⟨error, hcall, -⟩
  · rw [hcall]
    obtain ⟨hseen, -⟩ := Registry.survey_surveyed g.registry e "<root>" (fun _ _ => rfl) hok
    refine ⟨fun name hname => ?_, hb.cached⟩
    -- a type is known since this call, and was surveyed, or it was known before
    rcases (hb.knows name).mp hname with hmem | hold
    · exact ⟨hseen.supports name hmem List.not_mem_nil, fun name' hlink =>
        (hb.knows name').mpr (Or.inl (hseen.links name hmem List.not_mem_nil name' hlink))⟩
    · obtain ⟨hsupports, hlinks⟩ := hs.closed name hold
      exact ⟨hsupports, fun name' hlink => (hb.knows name').mpr (Or.inr (hlinks name' hlink))⟩
  · rw [hcall]
    exact hs

/-- A run keeps a generator settled. -/
theorem settled_run_new (r : Registry) (m : Mode) (calls : List Call) :
    ((new r m).run calls).2.Settled := by
  have hrun := run_preserves (P := fun g => (new r m).Leads g ∧ g.Settled) (g := new r m)
    (fun g e h => ⟨h.1.generateExpr e, generateExpr_settled h.1.sound h.2 e⟩)
    ⟨.refl (sound_new r m), settled_new r m⟩ calls
  exact hrun.2

/-- A call succeeds if every type reached is supported, and in no other case. -/
theorem exists_generateExpr_iff (hg : g.Sound) (hs : g.Settled) :
    (∃ id, (g.generateExpr e).1 = .ok id) ↔
      ∀ name, g.registry.Reaches e name → g.registry.Supports name := by
  rw [← Registry.survey_ok_iff "<root>"]
  rcases generateExpr_survey hg hs e with ⟨id, b, known, hcall, hok, -⟩ | ⟨error, hcall, hfault⟩
  · exact ⟨fun _ => ⟨known, hok⟩, fun _ => ⟨id, by rw [hcall]⟩⟩
  · rw [hcall, hfault]
    simp

/-- **A call succeeds if every type that is reached is described and supported**, and in no other
case, whatever was called for before. A named type reaches itself. -/
theorem generates_iff_supports (r : Registry) (m : Mode) (calls : List Call) :
    let g := ((new r m).run calls).2
    (∀ name, (∃ id, (g.generate name).1 = .ok id) ↔
        ∀ name', ReflTransGen r.Links name name' → r.Supports name') ∧
      ∀ e, (∃ id, (g.generateExpr e).1 = .ok id) ↔
        ∀ name, r.Reaches e name → r.Supports name := by
  intro g
  have hleads : (new r m).Leads g := run_leads (sound_new r m) calls
  have hexpr : ∀ e, (∃ id, (g.generateExpr e).1 = .ok id) ↔
      ∀ name, r.Reaches e name → r.Supports name := by
    intro e
    rw [exists_generateExpr_iff hleads.sound (settled_run_new r m calls), hleads.registry]
    rfl
  refine ⟨fun name => (hexpr (.named name)).trans (forall_congr' fun name' => ?_), hexpr⟩
  have hreaches : r.Reaches (.named name) name' ↔ ReflTransGen r.Links name name' := by
    simp [Registry.Reaches, TypeExpr.objectName?]
  rw [hreaches]

end Generator

end Conformance

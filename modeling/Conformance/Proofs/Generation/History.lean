import Conformance.Proofs.Generation.Outcomes
import Conformance.Proofs.Interpretation
import Conformance.Proofs.JsonSchema.Agreement

/-!
# What a generator was asked before does not matter

A generator that has answered calls before knows types already, and does not look at them again.
So it may make fewer nodes than a new one, or number them differently, and it may stop a descent
early. None of this can be seen from outside: a call fails with the error that a new generator fails
with, and the schema of a type expression accepts the same documents, with the same violations, and
has the same rendering.

* `Conformance.Generator.schemaOf` – the schema of a type expression, after further calls;
* `Conformance.Generator.schemaOf_run` – its outcome is that of the survey, and a schema stands for
  the type expression;
* `Conformance.Generator.schemaOf_both` – two outcomes for one type expression;
* `Conformance.Generator.schemaOf_forgets` – it is that of a new generator.
-/

namespace Conformance

namespace Generator

/-- **The schema of a type expression**, at the end of the calls that come after. -/
def schemaOf (g : Generator) (e : TypeExpr) (later : List Call) : Except GenerationError Schema :=
  match g.generateExpr e with
  | (.ok id, g') => .ok ⟨(g'.run later).2.finish, id⟩
  | (.error error, _) => .error error

/-- **A schema stands for its type expression** if the survey finds no fault, and otherwise the
fault is the error. Neither the calls before nor those after have a part in it. -/
theorem schemaOf_run (r : Registry) (m : Mode) (calls : List Call) (e : TypeExpr)
    (later : List Call) :
    (∃ s known, ((new r m).run calls).2.schemaOf e later = .ok s ∧
      r.survey [] e "<root>" = .ok known ∧ s.set.Sound r m ∧
      StandsFor m s.set.nodes e none none s.root) ∨
    ∃ error, ((new r m).run calls).2.schemaOf e later = .error error ∧
      r.survey [] e "<root>" = .error error := by
  have hleads := run_leads (sound_new r m) calls
  have hsettled := settled_run_new r m calls
  generalize ((new r m).run calls).2 = g at hleads hsettled
  have hnext := hleads.generateExpr e
  have hsurvey := generateExpr_survey hleads.sound hsettled e
  rw [hleads.registry] at hsurvey
  unfold schemaOf
  rcases hsurvey with ⟨id, b, known, hcall, hok, -⟩ | ⟨error, hcall, hfault⟩
  · have hid : (g.generateExpr e).1 = .ok id := by rw [hcall]
    have hmakes := generateExpr_makes hleads.sound hid
    rw [hcall] at hnext hmakes ⊢
    -- the node is known at the end of the calls that come after
    have hend := run_leads hnext.sound later
    have hleadsEnd := hnext.trans hend
    exact Or.inl ⟨_, known, rfl, hok, hleadsEnd.sound_finish,
      hleadsEnd.sound_arena.cached e id (hend.grows.cached? hmakes.cached?_eq)⟩
  · rw [hcall]
    exact Or.inr ⟨error, rfl, hfault⟩

/-- Two generators of one registry, in whatever modes and after whatever calls, fail with one error
or have schemas that stand for the same type expression. -/
theorem schemaOf_both (r : Registry) (m m' : Mode) (calls calls' : List Call) (e : TypeExpr)
    (later later' : List Call) :
    (∃ error, ((new r m).run calls).2.schemaOf e later = .error error ∧
      ((new r m').run calls').2.schemaOf e later' = .error error) ∨
    ∃ s s', ((new r m).run calls).2.schemaOf e later = .ok s ∧
      ((new r m').run calls').2.schemaOf e later' = .ok s' ∧
      (s.set.Sound r m ∧ StandsFor m s.set.nodes e none none s.root) ∧
      s'.set.Sound r m' ∧ StandsFor m' s'.set.nodes e none none s'.root := by
  -- the survey knows neither the mode nor the calls
  rcases schemaOf_run r m calls e later with ⟨s, known, hs, hok, hstands⟩ | ⟨error, herror, hfault⟩
  · rcases schemaOf_run r m' calls' e later' with ⟨s', -, hs', -, hstands'⟩ | ⟨error, -, hfault⟩
    · exact Or.inr ⟨s, s', hs, hs', hstands, hstands'⟩
    · exact absurd (hok.symm.trans hfault) (by simp)
  · rcases schemaOf_run r m' calls' e later' with ⟨s', _, -, hok, -⟩ | ⟨error', herror', hfault'⟩
    · exact absurd (hok.symm.trans hfault) (by simp)
    · obtain rfl : error = error' := by simpa using hfault.symm.trans hfault'
      exact Or.inl ⟨error, herror, herror'⟩

/-- **A generator forgets what it was asked.** After any calls, failing or not, the schema of a type
expression is that of a new generator: both fail, with one error, or both schemas find the same
violations in every document and have the same rendering. Further calls do not change this. -/
theorem schemaOf_forgets (r : Registry) (m : Mode) (calls : List Call) (e : TypeExpr)
    (later later' : List Call) :
    (∃ error, ((new r m).run calls).2.schemaOf e later = .error error ∧
      (new r m).schemaOf e later' = .error error) ∨
    ∃ s s', ((new r m).run calls).2.schemaOf e later = .ok s ∧
      (new r m).schemaOf e later' = .ok s' ∧
      (∀ d, s.validate d = s'.validate d) ∧ s.toJsonSchema = s'.toJsonSchema := by
  rcases schemaOf_both r m m calls [] e later later' with
    hfail | ⟨s, s', hs, hs', ⟨hsound, hstands⟩, hsound', hstands'⟩
  · exact Or.inl hfail
  · refine Or.inr ⟨s, s', hs, hs', fun d => ?_,
      SchemaSet.toJsonSchema_eq_of_standsFor hsound hsound' hstands hstands'⟩
    exact (SchemaSet.map_findings_eq_violations hsound hstands).trans
      (SchemaSet.map_findings_eq_violations hsound' hstands').symm

end Generator

end Conformance

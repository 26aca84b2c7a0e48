import Conformance.Proofs.Checking.Order
import Conformance.Proofs.Checking.Shown

/-!
# What a check reports

What has been proved of sound tables (`Conformance.SchemaSet.Sound`), for the tables that the runs
of a generator end in. A check is against any node of such a table, and the calls of the run may
have failed.

* `Conformance.Generator.reports_violations` – a check reports the violations and nothing else, each
  with its path, its kind and what it is about;
* `Conformance.Generator.reports_in_order` – it reports them in order, and not more than there are
  nodes.
-/

namespace Conformance

namespace Generator

/-- **A check reports the violations and nothing else.** What it returns is what shows a violation,
by the path of its place, its kind, and the value, the count or the names that it is about. It is
returned in the order in which it is found, nothing is found at one place twice, and what is found
is just what is a violation. -/
theorem reports_violations (r : Registry) (m : Mode) (calls : List Call) (id : NodeId)
    (d : Document) :
    let s : Schema := ⟨((new r m).run calls).2.finish, id⟩
    (∀ v, v ∈ s.validate d ↔ ∃ x, s.set.Violates s.root d x ∧ x.ShownBy v) ∧
      List.Forall₂ Finding.ShownBy (s.findings d) (s.validate d) ∧
      ((s.findings d).map (·.location)).Nodup ∧
      ∀ x, x ∈ s.findings d ↔ s.set.Violates s.root d x := by
  intro s
  have hs : s.set.Sound r m := sound_finish_run r m calls
  have hfound : ∀ x, x ∈ s.findings d ↔ s.set.Violates s.root d x :=
    fun x => SchemaSet.mem_findings_iff hs
  refine ⟨fun v => ?_, Schema.forall₂_shownBy, SchemaSet.nodup_locations hs, hfound⟩
  rw [Schema.mem_validate_iff]
  exact exists_congr fun x => and_congr_left fun _ => hfound x

/-- **A check reports in order**: what it returns shows its findings one by one, each finding has a
position, they come in the order of `Conformance.SchemaSet.Precedes`, which is strict, no two are at
one place, there are no more of them than nodes of the document, and none is below one of a wrong
kind or a failing pattern. -/
theorem reports_in_order (r : Registry) (m : Mode) (calls : List Call) (id : NodeId)
    (d : Document) :
    let s : Schema := ⟨((new r m).run calls).2.finish, id⟩
    s.validate d = (s.findings d).map (·.toViolation) ∧
      List.Forall₂ Finding.ShownBy (s.findings d) (s.validate d) ∧
      (∀ x ∈ s.findings d, (s.set.positions s.root x.location).length = x.location.length) ∧
      (s.findings d).Pairwise (s.set.Precedes s.root) ∧
      (∀ x y, s.set.Precedes s.root x y → ¬s.set.Precedes s.root y x) ∧
      ((s.findings d).map (·.location)).Nodup ∧
      (s.validate d).length ≤ d.nodeCount ∧
      ∀ x ∈ s.findings d, ∀ y ∈ s.findings d,
        (∃ v, x.departure = .wrongKind v ∨ x.departure = .patternFailure v) →
          ∀ step rest, y.location ≠ x.location ++ step :: rest := by
  intro s
  have hs : s.set.Sound r m := sound_finish_run r m calls
  refine ⟨rfl, Schema.forall₂_shownBy, fun x hx => SchemaSet.length_positions hs hx,
    SchemaSet.pairwise_precedes hs, fun x y h => h.asymm, SchemaSet.nodup_locations hs, ?_,
    fun x hx y hy hkind step rest => ?_⟩
  · rw [Schema.validate, List.length_map]
    exact SchemaSet.length_findings_le hs
  · exact SchemaSet.not_below_of_mem hs hx hy hkind

end Generator

end Conformance

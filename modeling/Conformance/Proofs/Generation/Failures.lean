import Conformance.Proofs.Generation.Evaluation
import Conformance.Proofs.Generation.Runs

/-!
# Calls that fail

A call for one node may have made many nodes by the time it fails, and all of them are dropped again
by their places. Nothing else is lost by this, since a descent only adds to the arena
(`Conformance.Arena.Grows.rollback`). So a call that fails might as well not have been made: taken
out of a run (`Conformance.Generator.succeeding`), it leaves the answers of the other calls and the
generator at the end as they are. A call for all types is never taken out, since what it makes
before its first failure stays.

* `Conformance.Generator.call_of_isFailure` – a call for one node that fails changes nothing;
* `Conformance.Generator.run_succeeding` – a run without its calls that fail;
* `Conformance.Generator.run_without_failures` – both, for every run from the start.
-/

namespace Conformance

/-- Whether a call for one node has failed. -/
def Answer.isFailure : Answer → Bool
  | .node (.error _) => true
  | _ => false

namespace Generator

variable {g : Generator} {e : TypeExpr} {error : GenerationError}

/-- What is left of a run when the calls for one node that fail are taken out. -/
def succeeding (g : Generator) (calls : List Call) : List (Call × Answer) :=
  (g.run calls).1.filter fun p => !p.2.isFailure

/-! ### One call -/

theorem generateExpr_of_error (hg : g.Sound) (h : (g.generateExpr e).1 = .error error) :
    (g.generateExpr e).2 = g := by
  rcases generateExpr_cases hg e with ⟨id, b, heq, -⟩ | ⟨error', heq⟩
  · rw [heq] at h
    exact absurd h (by simp)
  · rw [heq]

/-- **A call for one node that fails changes nothing.** -/
theorem call_of_isFailure (hg : g.Sound) {c : Call} (h : (g.call c).1.isFailure = true) :
    (g.call c).2 = g := by
  -- an answer that is a failure holds an error
  have herror : ∀ result : Except GenerationError NodeId, (Answer.node result).isFailure = true →
      ∃ error, result = .error error := by
    rintro (error | id) hresult
    · exact ⟨error, rfl⟩
    · exact absurd hresult (by simp [Answer.isFailure])
  cases c with
  | generate name =>
    obtain ⟨error, hfails⟩ := herror _ h
    exact generateExpr_of_error hg hfails
  | generateExpr e =>
    obtain ⟨error, hfails⟩ := herror _ h
    exact generateExpr_of_error hg hfails
  | generateAll => exact absurd h (by simp [call, Answer.isFailure])

/-! ### A run -/

/-- **Without the calls that fail** a run gives the same answers to the others and ends in the same
generator. -/
theorem run_succeeding (hg : g.Sound) (calls : List Call) :
    g.run ((g.succeeding calls).map (·.1)) = (g.succeeding calls, (g.run calls).2) := by
  induction calls generalizing g with
  | nil => rfl
  | cons c rest ih =>
    by_cases hfails : (g.call c).1.isFailure = true
    · have hsame : (g.call c).2 = g := call_of_isFailure hg hfails
      have hrest : g.succeeding (c :: rest) = g.succeeding rest := by
        rw [succeeding, run, List.filter_cons_of_neg (by simpa using hfails), hsame]
        rfl
      rw [hrest, ih hg, run, hsame]
    · have hrest : g.succeeding (c :: rest) =
          (c, (g.call c).1) :: (g.call c).2.succeeding rest := by
        rw [succeeding, run, List.filter_cons_of_pos (by simpa using hfails)]
        rfl
      rw [hrest, List.map_cons, run, ih (call_leads hg c).sound, run]

/-- **Calls that fail leave no trace**: after any run a call for one node that fails changes
nothing, and a run without its calls that fail ends in the same generator, with the same answers. -/
theorem run_without_failures (r : Registry) (m : Mode) (calls : List Call) :
    let g := ((new r m).run calls).2
    (∀ e error, (g.generateExpr e).1 = .error error → (g.generateExpr e).2 = g) ∧
      (∀ name error, (g.generate name).1 = .error error → (g.generate name).2 = g) ∧
      (new r m).run (((new r m).succeeding calls).map (·.1)) =
        ((new r m).succeeding calls, g) := by
  intro g
  have hg : g.Sound := (run_leads (sound_new r m) calls).sound
  exact ⟨fun e error => generateExpr_of_error hg, fun name error => generateExpr_of_error hg,
    run_succeeding (sound_new r m) calls⟩

/-- Orders with lines, and a draft of an order that refers to a type that is missing. -/
def orders : Registry :=
  ⟨[("Draft", ⟨"Draft", [.plain "order" (.named "Order"), .plain "author" (.named "Person")]⟩),
    ("Line", ⟨"Line", [.plain "count" (.scalar .integer), .plain "part" (.array (.named "Line"))]⟩),
    ("Order", ⟨"Order", [{ FieldDescription.plain "lines" (.array (.named "Line")) with
      nonEmpty := true }]⟩)]⟩

/-- The calls for a draft fail, the first one after it has made six nodes. -/
theorem run_without_failures_orders :
    let g := ((new orders .explicitOnly).run [.generate "Draft", .generate "Line"]).2
    (g.generate "Draft").1 = .error (.unknownType "Person" "Draft.author") ∧
      (g.generate "Draft").2 = g ∧
      (new orders .explicitOnly).succeeding [.generate "Draft", .generate "Line"] =
        [(.generate "Line", .node (.ok 0))] ∧
      (new orders .explicitOnly).run [.generate "Line"] =
        ([(.generate "Line", .node (.ok 0))], g) := by
  have hfails : (((new orders .explicitOnly).run [.generate "Draft", .generate "Line"]).2.generate
      "Draft").1 = .error (.unknownType "Person" "Draft.author") := by
    simp only [run, call, generate, generateExpr, Generating.exprNode_eq_exprNodeWithin_size]
    rfl
  have hleft : (new orders .explicitOnly).succeeding [.generate "Draft", .generate "Line"] =
      [(.generate "Line", .node (.ok 0))] := by
    simp only [succeeding, run, call, generate, generateExpr,
      Generating.exprNode_eq_exprNodeWithin_size]
    rfl
  obtain ⟨-, hsame, hrun⟩ :=
    run_without_failures orders .explicitOnly [.generate "Draft", .generate "Line"]
  rw [hleft] at hrun
  exact ⟨hfails, hsame _ _ hfails, hleft, hrun⟩

end Generator

end Conformance

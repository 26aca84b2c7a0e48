import Conformance.Proofs.Generation.Failures

/-!
# What was generated stays

The place of a node is handed out as soon as it is known, and kept by whoever asked for it. A
generator goes on working meanwhile: it reserves nodes and fills them later, it may remember a type
expression a second time in the course of one descent, and it drops what it has made when a call
fails. None of this reaches what was there when a call began (`Conformance.Arena.Grows`), and so a
place that was answered once is answered for good.

* `Conformance.Generator.generateExpr_of_cached` – a type expression that is known is answered, and
  nothing changes;
* `Conformance.Generator.generated_ids_stay` – what was there at the end of a run is there at the
  end of every longer one.
-/

namespace Conformance

namespace Generator

variable {g : Generator} {e : TypeExpr} {id : NodeId}

/-- **A type expression that is known** is answered with its node, and nothing changes. -/
theorem generateExpr_of_cached (hg : g.Sound) (h : g.arena.cached? e = some id) :
    g.generateExpr e = (.ok id, g) := by
  have hstep : (Generating.exprNode g.mode g.registry e "<root>").Ensures g.arena
      (fun id' b => id' = id ∧ b = g.arena) fun _ _ => False :=
    (Generating.ensures_exprNode_cached h).mpr ⟨rfl, rfl⟩
  rcases generateExpr_of_ensures hg hstep with ⟨id', b, hcall, rfl, rfl⟩ | ⟨_, _, _, hfails⟩
  · exact hcall
  · exact hfails.elim

/-- **What was generated stays.** Whatever is called at the end of a run, and whether it fails, the
nodes are left at their places, and every type expression that is known keeps its node. A type
expression whose node was answered in the run is answered with the same node again, and this changes
nothing. -/
theorem generated_ids_stay (r : Registry) (m : Mode) (calls later : List Call) :
    let g := ((new r m).run calls).2
    let g' := (g.run later).2
    (∀ (i : NodeId) (n : Node), g.arena.nodes[i]? = some n → g'.arena.nodes[i]? = some n) ∧
      (∀ e id, g.arena.cached? e = some id → g'.arena.cached? e = some id) ∧
      ∀ c e id, c.expr? = some e → (c, Answer.node (.ok id)) ∈ ((new r m).run calls).1 →
        g'.generateExpr e = (.ok id, g') := by
  intro g g'
  have hg : g.Sound := (run_leads (sound_new r m) calls).sound
  have hlater : g.Leads g' := run_leads hg later
  refine ⟨fun i n hn => ?_, fun e id => hlater.grows.cached?, fun c e id he hanswer => ?_⟩
  · have hi : i < g.arena.nodes.length := (List.getElem?_eq_some_iff.mp hn).1
    rw [hlater.grows.getElem? hi, hn]
  · have hknown : g.arena.cached? e = some id := cached?_of_answered (sound_new r m) he hanswer
    exact generateExpr_of_cached hlater.sound (hlater.grows.cached? hknown)

/-- The array of lines is met inside a line too, and is remembered twice in its first call. The
place that is answered outlasts calls that fail on the way. -/
theorem generated_ids_stay_orders :
    let run := (new orders .explicitOnly).run [.generateExpr (.array (.named "Line"))]
    let g' := (run.2.run [.generate "Draft", .generate "Order", .generateAll]).2
    run.1 = [(.generateExpr (.array (.named "Line")), .node (.ok 3))] ∧
      g'.generateExpr (.array (.named "Line")) = (.ok 3, g') := by
  intro run g'
  have hanswers : run.1 = [(.generateExpr (.array (.named "Line")), .node (.ok 3))] := by
    simp only [run, Generator.run, call, generateExpr,
      Generating.exprNode_eq_exprNodeWithin_size]
    rfl
  have hmem : (.generateExpr (.array (.named "Line")), .node (.ok 3)) ∈ run.1 :=
    hanswers ▸ List.mem_singleton_self _
  obtain ⟨-, -, hagain⟩ := generated_ids_stay orders .explicitOnly
    [.generateExpr (.array (.named "Line"))] [.generate "Draft", .generate "Order", .generateAll]
  exact ⟨hanswers, hagain _ _ _ rfl hmem⟩

end Generator

end Conformance

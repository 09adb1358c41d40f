import ProfileGraph.Proofs.Registration

/-! Simplification keeps the call relation. Collapsing moves every node to a
member of its component, correcting changes no edge, and pruning puts edges in
place of paths through removed nodes. Nodes that all three passes leave
therefore reach each other as they did at first. -/
namespace ProfileGraph.CallGraph

variable {α : Type} [Quantity α] {graph middle : CallGraph α} {policy : RootPolicy}

theorem Linked.reaches_iff (linked : graph.Linked (fun _ _ => False) middle) {caller callee : Nat} :
    middle.Reaches caller callee ↔ graph.Reaches caller callee := by
  rw [Reaches, linked.calls_eq]

/-- Collapsing that succeeds is a contraction, with or without samples. -/
theorem Consistent.collapseAll_contracted (consistent : graph.Consistent)
    {report : CollapseReport α} (ended : graph.collapseAll.outcome = .ok report) :
    ∃ home, graph.Contracted graph.collapseAll.graph home ∧
      graph.collapseAll.graph.Consistent := by
  have run := consistent.collapseAll_run
  by_cases lack : graph.totalSamples = 0
  · rcases run.no_samples lack with ⟨unchanged, _⟩ | ⟨refused, _⟩
    · rw [unchanged]
      exact ⟨id, .refl graph, consistent⟩
    · rw [refused] at ended
      cases ended
  · obtain ⟨result, _, home, finished, kept, _, _, contracted⟩ := run.contracted consistent lack
    rw [finished]
    exact ⟨home, contracted, kept⟩

theorem Consistent.prune_pruned (consistent : graph.Consistent) (policy : RootPolicy) :
    ∃ removed, graph.Pruned removed (graph.prune policy).graph := by
  rw [CallGraph.prune]
  split
  next => exact ⟨[], .refl consistent⟩
  next order _ =>
    obtain ⟨removed, _, pruned, _⟩ :=
      (consistent.pruneAlong_run policy {} order).pruned (.refl consistent)
    exact ⟨removed, pruned⟩

/-- The three passes one after the other, when none of them fails. -/
theorem Consistent.simplify_stages (consistent : graph.Consistent)
    (ended : (graph.simplify policy).error = none) :
    ∃ collapsed corrected home removed, graph.Contracted collapsed home ∧
      collapsed.Linked (fun _ _ => False) corrected ∧
      corrected.Pruned removed (graph.simplify policy).graph := by
  revert ended
  rw [simplify]
  dsimp only
  split
  next =>
    intro ended
    cases ended
  next report collapsed =>
    obtain ⟨home, contracted, kept⟩ := consistent.collapseAll_contracted collapsed
    split
    next =>
      intro ended
      cases ended
    next =>
      split
      next =>
        intro ended
        cases ended
      next correction corrected ran =>
        have linked := kept.linked_fixSelfCoverage ran
        obtain ⟨removed, pruned⟩ := linked.consistent.prune_pruned policy
        intro _
        refine ⟨_, corrected, home, removed, contracted, linked, ?_⟩
        split <;> exact pruned

/-- When the three passes succeed on a reachable graph, every node that is left
has the id that it had, and of the nodes that are left one reaches another by
calls exactly if it did before. -/
theorem Reachable.simplify_reaches_iff (reachable : graph.Reachable)
    (ended : (graph.simplify policy).error = none) :
    (∀ handle id, (graph.simplify policy).graph.idAt? handle = some id →
      graph.idAt? handle = some id) ∧
    ∀ caller callee, (graph.simplify policy).graph.contains caller →
      (graph.simplify policy).graph.contains callee →
      ((graph.simplify policy).graph.Reaches caller callee ↔ graph.Reaches caller callee) := by
  have consistent := reachable.consistent
  refine ⟨fun handle id => (reworked_simplify policy).idAt_eq_of_some, ?_⟩
  intro caller callee callerLeft calleeLeft
  obtain ⟨collapsed, corrected, home, removed, contracted, linked, pruned⟩ :=
    consistent.simplify_stages ended
  obtain ⟨callerThere, callerKept⟩ := (pruned.contains_iff caller).mp callerLeft
  obtain ⟨calleeThere, calleeKept⟩ := (pruned.contains_iff callee).mp calleeLeft
  rw [linked.contains_eq] at callerThere calleeThere
  have callerHome := ((contracted.contains_iff caller).mp callerThere).2
  have calleeHome := ((contracted.contains_iff callee).mp calleeThere).2
  rw [pruned.reaches_iff callerKept calleeKept, linked.reaches_iff]
  constructor
  · exact contracted.reaches consistent
  · intro path
    have moved := contracted.reaches_home path
    rwa [callerHome, calleeHome] at moved

/-- The function at the start and the instrumented one stay connected, although
recursion is collapsed and two functions on the way are gone. -/
theorem recursive_simplify_reaches_iff :
    (recursive.simplify .retain).error = none ∧
      (recursive.simplify .retain).graph.contains 0 ∧
      (recursive.simplify .retain).graph.contains 3 ∧
      ¬ (recursive.simplify .retain).graph.contains 1 ∧
      (recursive.simplify .retain).graph.Reaches 0 3 := by
  have ended : (recursive.simplify .retain).error = none := by decide +kernel
  have first : (recursive.simplify .retain).graph.contains 0 := by decide +kernel
  have last : (recursive.simplify .retain).graph.contains 3 := by decide +kernel
  have gone : ¬ (recursive.simplify .retain).graph.contains 1 := by decide +kernel
  obtain ⟨_, reaches⟩ := reachable_recursive.simplify_reaches_iff ended
  refine ⟨ended, first, last, gone, (reaches 0 3 first last).mpr ?_⟩
  have called : recursive.Calls 0 1 := by decide +kernel
  have onward : recursive.Calls 1 2 := by decide +kernel
  have below : recursive.Calls 2 3 := by decide +kernel
  exact .tail (.tail (.single called) onward) below

end ProfileGraph.CallGraph

import ProfileGraph.Proofs.Histories

/-! Pruning keeps the connections between the nodes that it leaves: a call from
one to another stands for the paths that led there through removed nodes. -/
namespace ProfileGraph.CallGraph

variable {α : Type} {graph : CallGraph α}

/-- Some nodes are removed, and the others are connected as they were, by edges
in place of the paths through removed nodes. -/
structure KeepsConnections (graph : CallGraph α) (removed : List Nat) (result : CallGraph α) :
    Prop where
  /-- The nodes that were live and are not any more. -/
  mem_removed : ∀ handle, handle ∈ removed ↔ graph.contains handle ∧ ¬ result.contains handle
  live : ∀ handle, result.contains handle → graph.contains handle
  calls_iff : ∀ caller callee, result.contains caller → result.contains callee →
    (result.Calls caller callee ↔ ∃ between : List Nat, (∀ node ∈ between, node ∈ removed) ∧
      (caller :: (between ++ [callee])).IsChain graph.Calls)
  reaches_iff : ∀ caller callee, result.contains caller → result.contains callee →
    (result.Reaches caller callee ↔ graph.Reaches caller callee)

variable [Quantity α]

theorem Pruned.keepsConnections {removed : List Nat} {result : CallGraph α}
    (pruned : graph.Pruned removed result) : graph.KeepsConnections removed result where
  mem_removed handle := by
    rw [pruned.contains_iff]
    exact ⟨fun inside => ⟨pruned.live handle inside, fun left => left.2 inside⟩,
      fun ⟨live, gone⟩ => by_contra fun outside => gone ⟨live, outside⟩⟩
  live handle left := ((pruned.contains_iff handle).mp left).1
  calls_iff caller callee first last := by
    rw [pruned.calls_iff caller callee ((pruned.contains_iff caller).mp first).2
      ((pruned.contains_iff callee).mp last).2, bridged_iff_isChain]
  reaches_iff caller callee first last :=
    pruned.reaches_iff ((pruned.contains_iff caller).mp first).2
      ((pruned.contains_iff callee).mp last).2

/-- If pruning a reachable graph succeeds, by its own order of the nodes or by
any other topological order, then the nodes that are left call each other
exactly where a path led through removed nodes. -/
theorem Reachable.prune_keepsConnections (reachable : graph.Reachable) {policy : RootPolicy}
    {report : PruneReport} {result : CallGraph α}
    (ran : graph.prune policy = ⟨result, .ok report⟩ ∨ ∃ order, graph.IsTopological order ∧
      graph.pruneAlong policy {} order = ⟨result, .ok report⟩) :
    ∃ removed, report.removed = removed.map graph.profilerId ∧
      graph.KeepsConnections removed result := by
  have consistent := reachable.consistent
  obtain ⟨order, _, ran⟩ : ∃ order, graph.IsTopological order ∧
      graph.pruneAlong policy {} order = ⟨result, .ok report⟩ := by
    refine ran.elim (fun ran => ?_) id
    rw [prune] at ran
    split at ran
    next => cases ran
    next order ordered =>
      exact ⟨order, consistent.isTopological_of_topologicalOrder ordered, ran⟩
  have run := consistent.pruneAlong_run policy {} order
  rw [ran] at run
  obtain ⟨removed, _, pruned, reported⟩ := run.pruned (.refl consistent)
  exact ⟨removed, reported report rfl, pruned.keepsConnections⟩

/-- A graph with two functions on the way to an instrumented one. -/
def layered : CallGraph Binary64 :=
  (empty "!").performAll [
    .declare "N1" "main" (.ofNat 10) (.ofNat 100), .declare "N2" "parse" (.ofNat 20) (.ofNat 90),
    .declare "N3" "scan" (.ofNat 20) (.ofNat 60), .declare "N4" "leaf!" (.ofNat 50) (.ofNat 50),
    .sample 100, .connect "N1" "N2" 90, .connect "N2" "N3" 60, .connect "N3" "N4" 50]

theorem reachable_layered : layered.Reachable := (Reachable.fresh "!").performAll _

theorem layered_prune_keepsConnections : ∃ result removed,
    layered.prune .retain = ⟨result, .ok ⟨["N2", "N3"], ["N1"], 2⟩⟩ ∧
      ["N2", "N3"] = removed.map layered.profilerId ∧ layered.KeepsConnections removed result := by
  have ended : (layered.prune .retain).outcome = .ok ⟨["N2", "N3"], ["N1"], 2⟩ := by
    decide +kernel
  have ran := congrArg (PassResult.mk (layered.prune .retain).graph) ended
  obtain ⟨removed, reported, kept⟩ := reachable_layered.prune_keepsConnections (.inl ran)
  exact ⟨_, removed, ran, reported, kept⟩

end ProfileGraph.CallGraph

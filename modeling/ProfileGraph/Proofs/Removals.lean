import ProfileGraph.Proofs.Connections
import ProfileGraph.Proofs.Crediting

/-! Runs of pruning as sequences of removals. Along a topological order the callers
of a node come before it, so nodes that are still to be removed are not among those
that a removal changes. -/
namespace ProfileGraph.CallGraph

variable {α : Type} {graph : CallGraph α} {order later : List Nat} {handle : Nat}

/-- Along a list without repetitions the positions increase. -/
theorem pairwise_idxOf (distinct : order.Nodup) :
    order.Pairwise (order.idxOf · < order.idxOf ·) := by
  refine List.pairwise_iff_getElem.mpr fun i j first last ahead => ?_
  rwa [distinct.idxOf_getElem, distinct.idxOf_getElem]

/-- No node of the rest of a topological order calls the first one of them. -/
theorem Forward.uncalled_by_later (forward : graph.Forward order)
    (sorted : (handle :: later).Pairwise (order.idxOf · < order.idxOf ·)) :
    ∀ other ∈ handle :: later, ¬ graph.Calls other handle := by
  intro other member edge
  rcases List.mem_cons.mp member with rfl | member
  · exact forward.loopless other edge
  · exact Nat.lt_asymm ((List.pairwise_cons.mp sorted).1 other member) (forward other handle edge)

theorem length_le_nodeCount {handles : List Nat} (distinct : handles.Nodup)
    (live : ∀ handle ∈ handles, graph.contains handle) : handles.length ≤ graph.nodeCount :=
  (distinct.subperm fun handle member => mem_handles.mpr (live handle member)).length_le

variable [Quantity α]

/-- Nodes are removed one after the other, none of them a root at its turn. -/
inductive Removals : CallGraph α → List Nat → CallGraph α → Prop
  | done {graph : CallGraph α} : Removals graph [] graph
  | next {graph next result : CallGraph α} {handle : Nat} {later : List Nat} {node : Node α} :
      graph.node? handle = some node → ¬ graph.isRoot handle →
      graph.removeAndBridge handle node = ⟨next, .ok ()⟩ → graph.Eliminated handle next →
      Removals next later result → Removals graph (handle :: later) result

variable {start result : CallGraph α} {policy : RootPolicy} {report : PruneReport}
  {removed : List Nat} {ended : PassResult PruneReport α}

/-- A run of pruning removes some of the nodes that it visits, in their order,
and reports each of them. -/
theorem PruneRun.removals (run : PruneRun policy graph report later ended) :
    ∃ removed, removed.Sublist later ∧ graph.Removals removed ended.graph ∧
      ∀ final, ended.outcome = .ok final →
        final.removed.length = report.removed.length + removed.length := by
  induction run with
  | finished =>
    refine ⟨[], List.nil_sublist _, .done, fun final ended => ?_⟩
    cases ended
    rfl
  | absent _ _ ih | interest _ _ ih | retained _ _ _ _ _ ih =>
    obtain ⟨removed, visited, removals, reported⟩ := ih
    exact ⟨removed, visited.cons _, removals, reported⟩
  | forbidden => exact ⟨[], List.nil_sublist _, .done, fun final ended => by cases ended⟩
  | removed held _ inner ran eliminated _ ih =>
    obtain ⟨removed, visited, removals, reported⟩ := ih
    refine ⟨_ :: removed, visited.cons_cons _, .next held inner ran eliminated removals, ?_⟩
    intro final ended
    rw [reported final ended, List.length_append, List.length_singleton, List.length_cons]
    omega

theorem Removals.pruned (removals : graph.Removals removed result) {before : List Nat}
    (pruned : start.Pruned before graph) : start.Pruned (before ++ removed) result := by
  induction removals generalizing before with
  | done => rwa [List.append_nil]
  | next held _ _ eliminated _ ih =>
    rw [List.append_cons]
    exact ih (pruned.eliminate eliminated (contains_iff_node.mpr ⟨_, held⟩))

theorem Pruned.nodeCount_le (pruned : start.Pruned removed result) :
    result.nodeCount ≤ start.nodeCount :=
  length_le_nodeCount nodup_handles fun handle listed =>
    ((pruned.contains_iff handle).mp (mem_handles.mp listed)).1

/-- If pruning succeeds, it has removed nodes along a topological order, and reports
each of them. -/
theorem Consistent.prune_removals (consistent : graph.Consistent)
    (ran : graph.prune policy = ⟨result, .ok report⟩) :
    ∃ order removed, graph.Forward order ∧ removed.Pairwise (order.idxOf · < order.idxOf ·) ∧
      graph.Removals removed result ∧ removed.Nodup ∧ removed.length ≤ graph.nodeCount ∧
      report.removed.length = removed.length := by
  rw [CallGraph.prune] at ran
  split at ran
  next => cases congrArg PassResult.outcome ran
  next order ordered =>
    have topological := consistent.isTopological_of_topologicalOrder ordered
    have run := consistent.pruneAlong_run policy {} order
    rw [ran] at run
    obtain ⟨removed, visited, removals, reported⟩ := run.removals
    have distinct := topological.nodup.sublist visited
    exact ⟨order, removed, topological.forward, (pairwise_idxOf topological.nodup).sublist visited,
      removals, distinct, length_le_nodeCount distinct fun handle member =>
        (topological.mem_iff handle).mp (visited.subset member),
      (reported report rfl).trans (Nat.zero_add _)⟩

end ProfileGraph.CallGraph

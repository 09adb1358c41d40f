import ProfileGraph.Proofs.Connections
import ProfileGraph.Proofs.Countdown
import ProfileGraph.Proofs.Survival

/-! What pruning that keeps roots leaves. The plain nodes fall into those that are
removed and the roots that are retained. Removals lead no new edge into a node that
was visited, so a retained root receives no weight to the end, and a second pruning
finds nothing to do. -/
namespace ProfileGraph.CallGraph

variable {α : Type} [Quantity α] {start graph result : CallGraph α} {removed retained order : List Nat}

theorem Pruned.profilerId_eq (pruned : graph.Pruned removed result) {handle : Nat}
    (left : result.contains handle) : result.profilerId handle = graph.profilerId handle := by
  obtain ⟨after, held⟩ := contains_iff_node.mp left
  obtain ⟨before, first, same⟩ := pruned.node_before held
  rw [profilerId, held, profilerId, first]
  exact (congrArg (·.profilerId) same).symm

theorem Pruned.isInterest_before (pruned : graph.Pruned removed result) {handle : Nat}
    (interest : result.IsInterest handle) : graph.IsInterest handle := by
  obtain ⟨after, held, marked⟩ := interest
  obtain ⟨before, first, same⟩ := pruned.node_before held
  exact ⟨before, first, (congrArg (·.isInterestPoint) same).trans marked⟩

/-- A run on a graph in which every node is an interest point or a root only notes
the roots. -/
theorem PruneRun.idle {policy : RootPolicy} {report : PruneReport} {later : List Nat}
    {ended : PassResult PruneReport α} (run : PruneRun policy graph report later ended)
    (retain : policy = .retain) (kept : ∀ handle, graph.contains handle → graph.Kept handle) :
    ∃ retainedRoots, ended = ⟨graph, .ok { report with retainedRoots }⟩ := by
  induction run with
  | finished => exact ⟨_, rfl⟩
  | absent _ _ ih | interest _ _ ih => exact ih kept
  | retained _ _ _ _ _ ih => exact ih kept
  | forbidden _ _ _ forbid => cases retain.symm.trans forbid
  | removed held plain inner =>
    rcases kept _ (contains_iff_node.mpr ⟨_, held⟩) with ⟨node, again, marked⟩ | root
    · cases held.symm.trans again
      exact absurd marked plain
    · exact absurd root inner

/-- What becomes of a graph by pruning along an order of its nodes: which nodes are
removed and which are retained as roots, and what is left. -/
structure PruneSplit (graph : CallGraph α) (order removed retained : List Nat)
    (report : PruneReport) (result : CallGraph α) : Prop where
  removed_order : removed.Sublist order
  retained_order : retained.Sublist order
  mem_iff : ∀ handle, handle ∈ removed ++ retained ↔
    graph.contains handle ∧ ¬ graph.IsInterest handle
  removed_ids : report.removed = removed.map graph.profilerId
  retained_ids : report.retainedRoots = retained.map graph.profilerId
  distinct : (report.removed ++ report.retainedRoots).Nodup
  gone : ∀ handle ∈ removed, ¬ result.contains handle
  stays : ∀ handle ∈ retained, result.contains handle ∧ Quantity.isZero (result.inWeight handle)
  interest : ∀ handle, graph.IsInterest handle → result.IsInterest handle
  node_before : ∀ handle after, result.node? handle = some after →
    ∃ before selfCoverage, graph.node? handle = some before ∧ after = { before with selfCoverage }
  acyclic : result.Acyclic

/-- Pruning along a topological order splits the plain nodes. -/
theorem PruneRun.split {declared : List String} {report : PruneReport}
    (run : PruneRun .retain graph {} order ⟨result, .ok report⟩) (consistent : graph.Consistent)
    (registered : graph.Registered declared) (topological : graph.IsTopological order) :
    ∃ removed retained, graph.PruneSplit order removed retained report result := by
  obtain ⟨removed, removedOrder, pruned, reported⟩ := run.pruned (.refl consistent)
  obtain ⟨retained, retainedOrder, retainedReported, retains⟩ :=
    run.exists_retained consistent topological.nodup rfl
  obtain ⟨forward, kept⟩ := run.kept [] topological.nodup topological.forward (by simp)
  have interest {handle : Nat} (marked : graph.IsInterest handle) : result.IsInterest handle :=
    run.isInterest marked
  have gone {handle : Nat} (inside : handle ∈ removed) : ¬ result.contains handle := fun left =>
    ((pruned.contains_iff handle).mp left).2 inside
  have members (handle : Nat) : handle ∈ removed ++ retained ↔
      graph.contains handle ∧ ¬ graph.IsInterest handle := by
    rw [List.mem_append]
    constructor
    · rintro (inside | inside)
      · refine ⟨pruned.live handle inside, fun marked => gone inside ?_⟩
        obtain ⟨node, held, _⟩ := interest marked
        exact contains_iff_node.mpr ⟨node, held⟩
      · obtain ⟨listed, _, plain⟩ := (retains handle).mp inside
        exact ⟨(topological.mem_iff handle).mp listed, fun marked => plain (interest marked)⟩
    · rintro ⟨live, plain⟩
      by_cases inside : handle ∈ removed
      · exact .inl inside
      · refine .inr ((retains handle).mpr ⟨(topological.mem_iff handle).mpr live, ?_, ?_⟩)
        · exact (pruned.contains_iff handle).mpr ⟨live, inside⟩
        · exact fun marked => plain (pruned.isInterest_before marked)
  have distinct : (removed ++ retained).Nodup := by
    refine List.nodup_append.mpr ⟨topological.nodup.sublist removedOrder,
      topological.nodup.sublist retainedOrder, ?_⟩
    rintro handle inside _ stays rfl
    exact gone inside ((retains handle).mp stays).2.1
  have removedIds : report.removed = removed.map graph.profilerId := by
    simpa using reported report rfl
  have retainedIds : report.retainedRoots = retained.map graph.profilerId := by
    refine retainedReported.trans (List.map_congr_left fun handle inside => ?_)
    exact pruned.profilerId_eq ((retains handle).mp inside).2.1
  refine ⟨removed, retained,
    { removed_order := removedOrder
      retained_order := retainedOrder
      mem_iff := members
      removed_ids := removedIds
      retained_ids := retainedIds
      distinct := ?_
      gone := fun _ => gone
      stays := fun handle inside => ?_
      interest := fun _ => interest
      node_before := fun handle after left => ?_
      acyclic := forward.acyclic }⟩
  · rw [removedIds, retainedIds, ← List.map_append]
    refine List.Nodup.map_on (fun first here second there same => ?_) distinct
    exact registered.eq_of_profilerId ((members first).mp here).1 ((members second).mp there).1 same
  · obtain ⟨listed, left, plain⟩ := (retains handle).mp inside
    exact ⟨left, (kept report rfl handle listed left).resolve_left plain⟩
  · obtain ⟨before, held, same⟩ := pruned.node_before left
    have bare : (some after).map Node.bare = some before.bare := by rw [Option.map_some, same]
    obtain ⟨selfCoverage, kept⟩ := eq_of_bare bare
    exact ⟨before, selfCoverage, held, Option.some.inj kept⟩

/-- The ids of the retained roots are those of the plain nodes that are left, whatever
the order in which they were visited. -/
theorem PruneRun.perm_retainedRoots {other : List Nat} {before : CallGraph α}
    {report again : PruneReport} (run : PruneRun .retain before {} order ⟨result, .ok report⟩)
    (second : PruneRun .retain graph {} other ⟨result, .ok again⟩) (consistent : before.Consistent)
    (consistentToo : graph.Consistent) (distinct : order.Nodup) (distinctToo : other.Nodup)
    (listed : ∀ handle, result.contains handle → handle ∈ order ∧ handle ∈ other) :
    again.retainedRoots.Perm report.retainedRoots := by
  obtain ⟨first, firstOrder, firstReported, firsts⟩ := run.exists_retained consistent distinct rfl
  obtain ⟨later, laterOrder, laterReported, laters⟩ :=
    second.exists_retained consistentToo distinctToo rfl
  have same : later.Perm first := by
    refine (List.perm_ext_iff_of_nodup (distinctToo.sublist laterOrder)
      (distinct.sublist firstOrder)).mpr fun handle => ?_
    rw [firsts, laters]
    exact ⟨fun ⟨_, left, plain⟩ => ⟨(listed handle left).1, left, plain⟩,
      fun ⟨_, left, plain⟩ => ⟨(listed handle left).2, left, plain⟩⟩
  rw [laterReported, firstReported]
  exact same.map _

/-- Pruning a graph that has been pruned changes nothing and reports the same roots. -/
theorem PruneRun.again {report : PruneReport}
    (run : PruneRun .retain graph {} order ⟨result, .ok report⟩) (consistent : graph.Consistent)
    (topological : graph.IsTopological order) : ∃ retainedRoots,
      result.prune .retain = ⟨result, .ok ⟨[], retainedRoots, 0⟩⟩ ∧
        retainedRoots.Perm report.retainedRoots := by
  obtain ⟨_, _, pruned, _⟩ := run.pruned (.refl consistent)
  obtain ⟨forward, kept⟩ := run.kept [] topological.nodup topological.forward (by simp)
  have visited (handle : Nat) (left : result.contains handle) : handle ∈ order :=
    (topological.mem_iff handle).mpr ((pruned.contains_iff handle).mp left).1
  obtain ⟨other, again, left, secondTopological, ran, second⟩ :=
    pruned.consistent.prune_retain forward.acyclic
  obtain ⟨retainedRoots, same⟩ := second.idle rfl fun handle left =>
    kept report rfl handle (visited handle left) left
  cases same
  refine ⟨retainedRoots, ran, run.perm_retainedRoots second consistent pruned.consistent
    topological.nodup secondTopological.nodup fun handle left => ?_⟩
  exact ⟨visited handle left, (secondTopological.mem_iff handle).mpr left⟩

/-- Pruning a reachable graph without cycles, with roots retained, succeeds and leaves
no cycle. It splits the plain nodes into those that it removes, each reported once in
the order of the graph, and retained roots, which are left and receive no weight to
the end. Interest points stay, and no field of a node changes but its self coverage.
To prune once more removes and bridges nothing and leaves the very same graph. -/
theorem Reachable.prune_splits (reachable : graph.Reachable) (acyclic : graph.Acyclic) :
    ∃ order removed retained report result, graph.topologicalOrder = .ok order ∧
      graph.prune .retain = ⟨result, .ok report⟩ ∧
      graph.PruneSplit order removed retained report result ∧
      ∃ retainedRoots, result.prune .retain = ⟨result, .ok ⟨[], retainedRoots, 0⟩⟩ ∧
        retainedRoots.Perm report.retainedRoots := by
  have consistent := reachable.consistent
  obtain ⟨declared, registered⟩ := reachable.registered
  obtain ⟨order, ordered, topological⟩ := consistent.exists_topologicalOrder acyclic
  have run := consistent.pruneAlong_run .retain {} order
  have ran : graph.prune .retain = graph.pruneAlong .retain {} order := by rw [prune, ordered]
  rcases run.outcome with ⟨report, ended⟩ | ⟨forbid, _⟩
  · have whole : graph.pruneAlong .retain {} order =
        ⟨(graph.pruneAlong .retain {} order).graph, .ok report⟩ := by rw [← ended]
    rw [whole] at ran run
    obtain ⟨removed, retained, split⟩ := run.split consistent registered topological
    exact ⟨order, removed, retained, report, _, ordered, ran, split,
      run.again consistent topological⟩
  · cases forbid

/-- Of four functions that call one after the other, the first stays as a root and the
last as an interest point. -/
theorem layered_prune_splits : layered.Acyclic ∧ ∃ removed retained result,
    layered.prune .retain = ⟨result, .ok ⟨["N2", "N3"], ["N1"], 2⟩⟩ ∧
      layered.PruneSplit [0, 1, 2, 3] removed retained ⟨["N2", "N3"], ["N1"], 2⟩ result ∧
      ∃ retainedRoots, result.prune .retain = ⟨result, .ok ⟨[], retainedRoots, 0⟩⟩ := by
  have ordered : layered.topologicalOrder = .ok [0, 1, 2, 3] := by decide +kernel
  have ended : (layered.prune .retain).outcome = .ok ⟨["N2", "N3"], ["N1"], 2⟩ := by
    decide +kernel
  have acyclic := reachable_layered.consistent.topologicalOrder_ok_iff.mp ⟨_, ordered⟩
  obtain ⟨order, removed, retained, report, result, again, ran, split, roots, second, _⟩ :=
    reachable_layered.prune_splits acyclic
  cases ordered.symm.trans again
  rw [ran] at ended
  cases ended
  exact ⟨acyclic, removed, retained, result, ran, split, roots, second⟩

end ProfileGraph.CallGraph

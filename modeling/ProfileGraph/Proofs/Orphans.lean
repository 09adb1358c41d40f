import ProfileGraph.Proofs.Moments
import ProfileGraph.Proofs.OrderRanks

/-! Pruning that forbids plain roots. A node that nobody calls and that is no interest
point has no caller to take over its self coverage. The order of the nodes begins with
all those that nobody calls, in the order of declaration, so pruning meets the first
such node while all that it has visited are interest points. It is refused before the
first write, however many nodes behind it could have been removed. -/
namespace ProfileGraph.CallGraph

variable {α : Type} {graph result : CallGraph α}

/-- A node without callers that is no interest point. -/
def IsOrphan (graph : CallGraph α) (handle : Nat) : Prop :=
  graph.contains handle ∧ ¬ graph.IsInterest handle ∧ ∀ caller, ¬ graph.Calls caller handle

/-- Nobody calls the node of a handle. -/
def isUncalled (graph : CallGraph α) (handle : Nat) : Bool := (graph.predecessors handle).isEmpty

/-- The handle has no node that is an interest point. -/
def isPlain (graph : CallGraph α) (handle : Nat) : Bool :=
  !(graph.node? handle).any (·.isInterestPoint)

theorem isPlain_iff {handle : Nat} : graph.isPlain handle ↔ ¬ graph.IsInterest handle := by
  rw [isPlain, Bool.not_eq_true', ← Bool.not_eq_true, Option.any_eq_true]
  rfl

theorem Consistent.isOrphan_iff (consistent : graph.Consistent) {handle : Nat} :
    graph.IsOrphan handle ↔
      graph.contains handle ∧ graph.isUncalled handle ∧ graph.isPlain handle := by
  rw [IsOrphan, isPlain_iff, isUncalled, List.isEmpty_iff, consistent.predecessors_eq_nil_iff,
    and_comm (a := ¬ graph.IsInterest handle)]

/-- The order of the nodes begins with interest points up to the first orphan, which is
the orphan that was declared first. -/
theorem Consistent.exists_first_orphan (consistent : graph.Consistent) {order : List Nat}
    (ordered : graph.topologicalOrder = .ok order) (orphaned : ∃ handle, graph.IsOrphan handle) :
    ∃ before first later, order = before ++ first :: later ∧
      (∀ other ∈ before, graph.IsInterest other) ∧ IsLeast {handle | graph.IsOrphan handle} first := by
  obtain ⟨orphan, isOrphan⟩ := orphaned
  obtain ⟨live, passes⟩ := consistent.isOrphan_iff.mp isOrphan
  -- The nodes that nobody calls are in front, in the order of declaration.
  obtain ⟨behind, split⟩ := (consistent.queued_topologicalOrder ordered).2
  cases found : (graph.handles.filter graph.isUncalled).find? graph.isPlain with
  | none =>
    rw [List.find?_filter, List.find?_eq_none] at found
    exact absurd (decide_eq_true passes) (found orphan (mem_handles.mpr live))
  | some first =>
    obtain ⟨plain, before, later, front, settled⟩ := List.find?_eq_some_iff_append.mp found
    obtain ⟨listed, uncalled⟩ := List.mem_filter.mp (List.mem_of_find?_eq_some found)
    rw [List.find?_filter] at found
    refine ⟨before, first, later ++ behind, ?_, fun other member => ?_,
      consistent.isOrphan_iff.mpr ⟨mem_handles.mp listed, uncalled, plain⟩, fun other isOrphan => ?_⟩
    · exact split.symm.trans ((congrArg (· ++ behind) front).trans (List.append_assoc ..))
    · exact not_not.mp (isPlain_iff.not.mp (by simpa using settled other member))
    · obtain ⟨otherLive, otherPasses⟩ := consistent.isOrphan_iff.mp isOrphan
      exact le_of_find_handles found (mem_handles.mpr otherLive) (decide_eq_true otherPasses)

variable [Quantity α]

/-- Where a sum of nothing counts as zero, a node that nobody calls is a root. -/
theorem Consistent.isRoot_of_uncalled (consistent : graph.Consistent)
    (none : Quantity.isZero (Quantity.emptySum : α)) {handle : Nat}
    (uncalled : ∀ caller, ¬ graph.Calls caller handle) : graph.isRoot handle := by
  rw [isRoot, inWeight, consistent.predecessors_eq_nil_iff.mpr uncalled]
  exact none

/-- Behind interest points, pruning ends at the first plain root that it must not keep,
and nothing has been written by then. -/
theorem pruneAlong_forbid {before later : List Nat} {first : Nat}
    (settled : ∀ other ∈ before, graph.IsInterest other) (live : graph.contains first)
    (plain : ¬ graph.IsInterest first) (root : graph.isRoot first) (report : PruneReport) :
    graph.pruneAlong .forbid report (before ++ first :: later) =
        ⟨graph, .error (.unprunableRoot (graph.profilerId first))⟩ ∧
      graph.pruneAlongMoments .forbid (before ++ first :: later) = [] := by
  induction before with
  | nil =>
    obtain ⟨node, held⟩ := contains_iff_node.mp live
    have unmarked : ¬ node.isInterestPoint := fun marked => plain ⟨node, held, marked⟩
    rw [List.nil_append, pruneAlong, pruneAlongMoments, profilerId, held]
    simp only [if_neg unmarked, if_pos root, and_self]
  | cons other before ih =>
    obtain ⟨⟨node, held, marked⟩, settled⟩ := List.forall_mem_cons.mp settled
    rw [List.cons_append, pruneAlong, pruneAlongMoments, held]
    simp only [if_pos marked]
    exact ih settled

/-- What becomes of a run along the same nodes if roots are forbidden, in terms of the
roots that are retained otherwise: it is the same run if there are none, and else it ends
at the first of them. -/
theorem pruneAlong_forbid_of_retain (report : PruneReport) (order : List Nat)
    {final : PruneReport} (ended : (graph.pruneAlong .retain report order).outcome = .ok final) :
    ∃ ids, final.retainedRoots = report.retainedRoots ++ ids ∧
      (ids = [] → graph.pruneAlong .forbid report order = graph.pruneAlong .retain report order) ∧
      ∀ id ∈ ids.head?,
        (graph.pruneAlong .forbid report order).outcome = .error (.unprunableRoot id) := by
  induction order generalizing graph report with
  | nil =>
    cases ended
    exact ⟨[], by simp, fun _ => rfl, by simp⟩
  | cons handle later ih =>
    rw [pruneAlong] at ended ⊢
    rw [pruneAlong]
    cases held : graph.node? handle with
    | none =>
      rw [held] at ended
      exact ih report ended
    | some node =>
      rw [held] at ended
      dsimp only at ended ⊢
      by_cases interest : node.isInterestPoint
      · rw [if_pos interest] at ended ⊢
        rw [if_pos interest]
        exact ih report ended
      · rw [if_neg interest] at ended ⊢
        rw [if_neg interest]
        by_cases root : graph.isRoot handle
        · rw [if_pos root] at ended ⊢
          rw [if_pos root]
          obtain ⟨ids, reported, _⟩ := ih _ ended
          exact ⟨node.profilerId :: ids, by rw [reported, List.append_assoc]; rfl, by simp,
            by simp⟩
        · rw [if_neg root] at ended ⊢
          rw [if_neg root]
          cases removed : graph.removeAndBridge handle node with
          | mk next outcome =>
            rw [removed] at ended
            cases outcome with
            | error error => cases ended
            | ok _ => exact ih _ ended

theorem prune_forbid_of_retain {report : PruneReport}
    (ran : graph.prune .retain = ⟨result, .ok report⟩) :
    (report.retainedRoots = [] → graph.prune .forbid = ⟨result, .ok report⟩) ∧
      ∀ id, (graph.prune .forbid).outcome = .error (.unprunableRoot id) ↔
        report.retainedRoots.head? = some id := by
  rw [CallGraph.prune] at ran ⊢
  cases ordered : graph.topologicalOrder with
  | error error =>
    rw [ordered] at ran
    cases congrArg PassResult.outcome ran
  | ok order =>
    rw [ordered] at ran
    dsimp only at ran ⊢
    obtain ⟨ids, reported, unrooted, rooted⟩ :=
      pruneAlong_forbid_of_retain {} order (congrArg PassResult.outcome ran)
    rw [ran] at unrooted
    have same : report.retainedRoots = ids := reported
    refine ⟨fun none => unrooted (same ▸ none), fun id => ⟨fun failed => ?_, fun first => ?_⟩⟩
    · cases ids with
      | nil => rw [unrooted rfl] at failed; cases failed
      | cons head rest =>
        rw [rooted head rfl, Except.error.injEq, GraphError.unprunableRoot.injEq] at failed
        rw [same, failed]
        rfl
    · exact rooted id (same ▸ first)

/-- Where a sum of nothing counts as zero, pruning that forbids plain roots ends at the
first orphan, if there is one. -/
theorem Consistent.prune_forbid_of_orphan (consistent : graph.Consistent)
    (acyclic : graph.Acyclic) (none : Quantity.isZero (Quantity.emptySum : α))
    (orphaned : ∃ handle, graph.IsOrphan handle) :
    ∃ first, IsLeast {handle | graph.IsOrphan handle} first ∧
      graph.prune .forbid = ⟨graph, .error (.unprunableRoot (graph.profilerId first))⟩ ∧
      graph.pruneMoments .forbid = [] := by
  obtain ⟨order, ordered, _⟩ := consistent.exists_topologicalOrder acyclic
  obtain ⟨before, first, later, rfl, settled, least⟩ :=
    consistent.exists_first_orphan ordered orphaned
  obtain ⟨live, plain, uncalled⟩ := least.1
  have root := consistent.isRoot_of_uncalled none uncalled
  refine ⟨first, least, ?_⟩
  rw [CallGraph.prune, pruneMoments, ordered]
  exact pruneAlong_forbid settled live plain root {}

/-- If a reachable graph without cycles has nodes that nobody calls and that are no
interest points, pruning that forbids plain roots is refused with the id of the one
that was declared first. It leaves the very graph that it was given, and it has written
nothing before. -/
theorem Reachable.prune_forbids_orphans {graph : CallGraph Binary64} (reachable : graph.Reachable)
    (acyclic : graph.Acyclic) (orphaned : ∃ handle, graph.IsOrphan handle) :
    ∃ first, IsLeast {handle | graph.IsOrphan handle} first ∧
      graph.prune .forbid = ⟨graph, .error (.unprunableRoot (graph.profilerId first))⟩ ∧
      graph.pruneMoments .forbid = [] :=
  reachable.consistent.prune_forbid_of_orphan acyclic rfl orphaned

/-- Two functions that nobody calls, declared behind one that could be removed. -/
def entrances : CallGraph Binary64 :=
  (empty "!").performAll [
    .declare "N1" "parse" (.ofNat 20) (.ofNat 60), .declare "N2" "main!" (.ofNat 10) (.ofNat 70),
    .declare "N3" "start" (.ofNat 20) (.ofNat 30), .declare "N4" "exit" (.ofNat 10) (.ofNat 10),
    .declare "N5" "leaf!" (.ofNat 40) (.ofNat 40), .sample 100, .connect "N2" "N1" 60,
    .connect "N1" "N5" 40, .connect "N3" "N5" 10]

theorem entrances_prune_forbids_orphans : entrances.Acyclic ∧ entrances.IsOrphan 2 ∧
    entrances.prune .forbid = ⟨entrances, .error (.unprunableRoot "N3")⟩ ∧
      entrances.pruneMoments .forbid = [] ∧ (entrances.prune .retain).graph.contains 0 = false := by
  have reachable : entrances.Reachable := (Reachable.fresh "!").performAll _
  have consistent := reachable.consistent
  have acyclic : entrances.Acyclic := consistent.findCycle_eq_none_iff.mp (by decide +kernel)
  have ended : (entrances.prune .forbid).outcome = .error (.unprunableRoot "N3") := by
    decide +kernel
  have orphan : entrances.IsOrphan 2 := consistent.isOrphan_iff.mpr (by decide +kernel)
  obtain ⟨first, _, refused, unwritten⟩ := reachable.prune_forbids_orphans acyclic ⟨2, orphan⟩
  rw [refused, Except.error.injEq, GraphError.unprunableRoot.injEq] at ended
  rw [ended] at refused
  exact ⟨acyclic, orphan, refused, unwritten, by decide +kernel⟩

end ProfileGraph.CallGraph

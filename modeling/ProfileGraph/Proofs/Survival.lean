import ProfileGraph.Proofs.Ledger

/-! What becomes of instrumented regions. Collapsing creates edges and with them
cycles that were not there before, but never one through nodes that did not lie
on a common cycle at first. So a node outside of all cycles is a member of no
cycle that is found later on, and a node that only calls itself is a cycle of
its own; pruning does not remove either if it is an interest point. -/
namespace ProfileGraph.CallGraph
open Relation

variable {α : Type} {graph middle result : CallGraph α} {handle : Nat}

/-- No cycle leads through a node and another one. -/
def Alone (graph : CallGraph α) (handle : Nat) : Prop :=
  ∀ other, graph.SameComponent handle other → other = handle

/-- A node outside of all cycles is alone and does not call itself. -/
theorem alone_of_not_returns (outside : ¬ TransGen graph.Calls handle handle) :
    graph.Alone handle ∧ ¬ graph.Calls handle handle := by
  refine ⟨fun other ⟨there, back⟩ => ?_, fun loop => outside (.single loop)⟩
  rcases there.cases_head with same | ⟨next, edge, path⟩
  · exact same.symm
  · exact absurd (TransGen.head' edge (path.trans back)) outside

/-! Collapsing. -/

theorem Merged.calls_self {members : List Nat} {survivor : Nat}
    (left : graph.Merged members survivor result) (loop : result.Calls handle handle) :
    handle ∉ members ∧ graph.Calls handle handle := by
  rcases (left.calls_iff handle handle).mp loop with
    ⟨outside, _, loop⟩ | ⟨rfl, outside, _⟩ | ⟨rfl, outside, _⟩
  · exact ⟨outside, loop⟩
  · exact absurd left.inside outside
  · exact absurd left.inside outside

theorem Merged.alone {members : List Nat} {survivor : Nat}
    (left : graph.Merged members survivor result) (consistent : graph.Consistent)
    (cycle : graph.IsCycle members) (alone : graph.Alone handle) : result.Alone handle :=
  fun other together =>
    alone other ((left.contracted consistent cycle).sameComponent_of_result consistent together)

/-- Merging a cycle leaves a node that is alone as it was, unless the cycle is
that node alone. Then its coverage is found anew. -/
theorem Merged.node_of_alone {members : List Nat} {survivor : Nat}
    (left : graph.Merged members survivor result) (cycle : graph.IsCycle members)
    (alone : graph.Alone handle) {node : Node α} (held : graph.node? handle = some node) :
    ∃ coverage, result.node? handle = some { node with coverage } ∧
      (¬ graph.Calls handle handle → coverage = node.coverage) := by
  by_cases inside : handle ∈ members
  · have only : ∀ member ∈ members, member = handle := fun member other =>
      alone member ⟨cycle.reaches inside other, cycle.reaches other inside⟩
    rw [only survivor left.inside] at left
    obtain ⟨coverage, kept⟩ := left.survivor_eq node held
    exact ⟨coverage, kept, fun loopless => absurd (cycle.calls_self only) loopless⟩
  · exact ⟨node.coverage, (left.node_eq handle inside).trans held, fun _ => rfl⟩

section Passes
variable [Quantity α] {policy : RootPolicy}

/-- However many cycles are collapsed, a node that is alone stays. -/
theorem CollapseRun.node_of_alone {report : CollapseReport α}
    {ended : PassResult (CollapseReport α) α} (run : CollapseRun report graph ended)
    (consistent : graph.Consistent) (alone : graph.Alone handle) {node : Node α}
    (held : graph.node? handle = some node) :
    ∃ coverage, ended.graph.node? handle = some { node with coverage } ∧
      (¬ graph.Calls handle handle → coverage = node.coverage) := by
  induction run generalizing node with
  | finished => exact ⟨node.coverage, held, fun _ => rfl⟩
  | refused _ graph result members _ _ refused =>
    rcases consistent.collapse_spec members with ⟨_, same, _⟩ | ⟨_, _, _, collapsed, _⟩
    · cases refused.symm.trans same
      exact ⟨node.coverage, held, fun _ => rfl⟩
    · cases refused.symm.trans collapsed
  | again _ graph next members _ _ found collapsed _ ih =>
    rcases consistent.collapse_spec members with ⟨_, refused, _⟩ | ⟨_, _, _, same, left⟩
    · cases collapsed.symm.trans refused
    · cases collapsed.symm.trans same
      have cycle := consistent.isCycle_of_findCycle found
      obtain ⟨between, kept, unchanged⟩ := left.node_of_alone cycle alone held
      obtain ⟨coverage, stays, onward⟩ :=
        ih left.consistent (left.alone consistent cycle alone) kept
      refine ⟨coverage, stays, fun loopless => ?_⟩
      rw [onward fun loop => loopless (left.calls_self loop).2, ← unchanged loopless]

/-! Correcting and pruning. -/

/-- A node that is the same but for its self coverage. -/
theorem eq_of_bare {before : Node α} {after : Option (Node α)}
    (same : after.map Node.bare = some before.bare) :
    ∃ selfCoverage, after = some { before with selfCoverage } := by
  obtain ⟨node, rfl, bare⟩ := Option.map_eq_some_iff.mp same
  cases before
  cases node
  simp only [Node.bare, Node.mk.injEq] at bare
  obtain ⟨rfl, rfl, rfl, _, rfl, rfl⟩ := bare
  exact ⟨_, rfl⟩

/-- Pruning leaves an interest point as it was but for its self coverage. -/
theorem Consistent.prune_node_of_interest (consistent : graph.Consistent) (policy : RootPolicy)
    {node : Node α} (held : graph.node? handle = some node) (interest : node.isInterestPoint) :
    ∃ selfCoverage, (graph.prune policy).graph.node? handle = some { node with selfCoverage } := by
  rw [CallGraph.prune]
  split
  next => exact ⟨node.selfCoverage, held⟩
  next order _ =>
    have run := consistent.pruneAlong_run policy {} order
    obtain ⟨after, left, _⟩ := run.isInterest ⟨node, held, interest⟩
    obtain ⟨_, _, pruned, _⟩ := run.pruned (.refl consistent)
    obtain ⟨before, same, bare⟩ := pruned.node_before left
    cases held.symm.trans same
    exact eq_of_bare (by rw [left, Option.map_some, bare])

/-- The three passes leave an interest point that is alone as it was but for its
self coverage and, if it calls itself, its coverage. -/
theorem Consistent.simplify_node_of_interest (consistent : graph.Consistent)
    (ended : (graph.simplify policy).error = none) (alone : graph.Alone handle) {node : Node α}
    (held : graph.node? handle = some node) (interest : node.isInterestPoint) :
    ∃ coverage selfCoverage,
      (graph.simplify policy).graph.node? handle = some { node with coverage, selfCoverage } ∧
        (¬ graph.Calls handle handle → coverage = node.coverage) := by
  obtain ⟨collapsed, corrected, first, second, third⟩ := simplify_passes ended
  have run := consistent.collapseAll_run
  rw [first] at run
  obtain ⟨coverage, kept, unchanged⟩ := run.node_of_alone consistent alone held
  have linked := (run.consistent consistent).linked_fixSelfCoverage second
  obtain ⟨between, stays⟩ := eq_of_bare ((linked.bare_eq handle).trans (congrArg _ kept))
  obtain ⟨selfCoverage, left⟩ :=
    linked.consistent.prune_node_of_interest policy stays interest
  rw [third] at left
  exact ⟨coverage, selfCoverage, left, unchanged⟩

/-- No instrumented region outside of recursion is lost. When the three passes
succeed on a reachable graph, an interest point that lies on no cycle has kept
its handle and all its fields but its self coverage, and its id is not among
those that are reported as removed. One whose only cycle is the call of itself
may have a new coverage as well. -/
theorem Reachable.simplify_keeps_interest (reachable : graph.Reachable)
    (ended : (graph.simplify policy).error = none) {node : Node α}
    (held : graph.node? handle = some node) (interest : node.isInterestPoint) :
    let simplified := graph.simplify policy
    let removed := simplified.collapse.cycles.flatMap (·.removed) ++ simplified.prune.removed
    (¬ TransGen graph.Calls handle handle → node.profilerId ∉ removed ∧
      ∃ selfCoverage, simplified.graph.node? handle = some { node with selfCoverage }) ∧
    (graph.Alone handle → node.profilerId ∉ removed ∧
      ∃ coverage selfCoverage,
        simplified.graph.node? handle = some { node with coverage, selfCoverage }) := by
  intro simplified removed
  have consistent := reachable.consistent
  obtain ⟨declared, registered⟩ := reachable.registered
  obtain ⟨_, loses, _⟩ := consistent.simplify_accounts registered ended
  have unreported : ∀ {coverage selfCoverage},
      simplified.graph.node? handle = some { node with coverage, selfCoverage } →
      node.profilerId ∉ removed := by
    intro coverage selfCoverage left
    have there := mem_ids.mpr ⟨handle, idAt_eq_some_iff.mpr ⟨_, left, rfl⟩⟩
    exact ((loses.mem_ids node.profilerId).mp there).2
  constructor
  · intro outside
    obtain ⟨alone, loopless⟩ := alone_of_not_returns outside
    obtain ⟨coverage, selfCoverage, left, unchanged⟩ :=
      consistent.simplify_node_of_interest ended alone held interest
    rw [unchanged loopless] at left
    exact ⟨unreported left, selfCoverage, left⟩
  · intro alone
    obtain ⟨coverage, selfCoverage, left, _⟩ :=
      consistent.simplify_node_of_interest ended alone held interest
    exact ⟨unreported left, coverage, selfCoverage, left⟩

end Passes

/-- Recursion between two functions, with an instrumented region in front of it
and one behind it that calls itself. -/
def surrounded : CallGraph Binary64 :=
  (empty "!").performAll [
    .declare "N1" "main!" (.ofNat 10) (.ofNat 100), .declare "N2" "visit" (.ofNat 20) (.ofNat 90),
    .declare "N3" "descend" (.ofNat 20) (.ofNat 60), .declare "N4" "spin!" (.ofNat 50) (.ofNat 50),
    .sample 100, .connect "N1" "N2" 90, .connect "N2" "N3" 60, .connect "N3" "N2" 30,
    .connect "N2" "N4" 50, .connect "N4" "N4" 7]

theorem surrounded_simplify_keeps_interest : ∃ first last,
    surrounded.node? 0 = some first ∧ surrounded.node? 3 = some last ∧
    first.isInterestPoint ∧ ¬ TransGen surrounded.Calls 0 0 ∧
    last.isInterestPoint ∧ surrounded.Calls 3 3 ∧ surrounded.Alone 3 ∧
    (surrounded.simplify .retain).error = none ∧
    (∃ selfCoverage, (surrounded.simplify .retain).graph.node? 0 =
      some { first with selfCoverage }) ∧
    ∃ coverage selfCoverage, (surrounded.simplify .retain).graph.node? 3 =
      some { last with coverage, selfCoverage } := by
  have reachable : surrounded.Reachable := (Reachable.fresh "!").performAll _
  have ended : (surrounded.simplify .retain).error = none := by decide +kernel
  obtain ⟨first, firstHeld⟩ := contains_iff_node.mp (by decide +kernel : surrounded.contains 0)
  obtain ⟨last, lastHeld⟩ := contains_iff_node.mp (by decide +kernel : surrounded.contains 3)
  have firstMarked : first.isInterestPoint := by
    have marked : (surrounded.node? 0).all (·.isInterestPoint) := by decide +kernel
    rwa [firstHeld] at marked
  have lastMarked : last.isInterestPoint := by
    have marked : (surrounded.node? 3).all (·.isInterestPoint) := by decide +kernel
    rwa [lastHeld] at marked
  have uncalled : ¬ TransGen surrounded.Calls 0 0 := by
    intro returns
    obtain ⟨caller, _, edge⟩ := TransGen.tail'_iff.mp returns
    have called := reachable.consistent.mem_callers.mpr edge
    have none : surrounded.predecessors 0 = [] := by decide +kernel
    simp [none] at called
  have alone : surrounded.Alone 3 := by
    rintro other ⟨there, -⟩
    induction there with
    | refl => rfl
    | tail _ edge ih =>
      have called := mem_callees.mpr (ih ▸ edge)
      have itself : (surrounded.successors 3).map (·.1) = [3] := by decide +kernel
      simpa [itself] using called
  obtain ⟨outside, _⟩ := reachable.simplify_keeps_interest ended firstHeld firstMarked
  obtain ⟨_, spinning⟩ := reachable.simplify_keeps_interest ended lastHeld lastMarked
  exact ⟨first, last, firstHeld, lastHeld, firstMarked, uncalled, lastMarked, by decide +kernel,
    alone, ended, (outside uncalled).2, (spinning alone).2⟩

end ProfileGraph.CallGraph

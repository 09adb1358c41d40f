import ProfileGraph.Proofs.Histories

/-! Collapsing computes the condensation. Its nodes are the strongly connected
components of the graph, each stood for by one of its members, and its edges
are the edges between components. -/
namespace ProfileGraph.CallGraph

variable {α : Type} {graph result : CallGraph α} {home : Nat → Nat}

/-- One graph is the condensation of another. -/
structure IsCondensation (graph result : CallGraph α) : Prop where
  /-- No node is new. -/
  live : ∀ handle, result.contains handle → graph.contains handle
  /-- Of each component exactly one member is left. -/
  survivor : ∀ handle, graph.contains handle →
    ∃! left, result.contains left ∧ graph.SameComponent handle left
  /-- Different survivors call each other exactly if members of their
  components did. -/
  calls_iff : ∀ caller callee, result.contains caller → result.contains callee → caller ≠ callee →
    (result.Calls caller callee ↔
      ∃ a b, graph.SameComponent a caller ∧ graph.SameComponent b callee ∧ graph.Calls a b)
  loopless : ∀ handle, ¬ result.Calls handle handle
  acyclic : result.Acyclic

/-- In an acyclic graph that is left, a component has only one home. -/
theorem Contracted.eq_of_sameComponent (contracted : graph.Contracted result home)
    (acyclic : result.Acyclic) {a b : Nat} (aLeft : result.contains a) (bLeft : result.contains b)
    (together : graph.SameComponent a b) : a = b := by
  have there := contracted.reaches_home together.1
  have back := contracted.reaches_home together.2
  rw [((contracted.contains_iff a).mp aLeft).2, ((contracted.contains_iff b).mp bLeft).2]
    at there back
  rcases there.cases_head with same | ⟨_, edge, path⟩
  · exact same
  · exact absurd (Relation.TransGen.head' edge (path.trans back)) (acyclic a)

theorem Contracted.isCondensation (contracted : graph.Contracted result home)
    (consistent : graph.Consistent) (acyclic : result.Acyclic) : graph.IsCondensation result where
  live handle left := ((contracted.contains_iff handle).mp left).1
  survivor handle live := by
    have together := contracted.together handle live
    refine ⟨home handle, ⟨contracted.settled handle live, together⟩, fun other ⟨left, same⟩ => ?_⟩
    exact contracted.eq_of_sameComponent acyclic left (contracted.settled handle live)
      (same.symm.trans together)
  calls_iff caller callee callerLeft calleeLeft different := by
    rw [contracted.calls_iff caller callee different]
    constructor
    · rintro ⟨a, b, rfl, rfl, edge⟩
      exact ⟨a, b, contracted.together a (contains_caller edge),
        contracted.together b (consistent.contains_callee edge), edge⟩
    · rintro ⟨a, b, first, last, edge⟩
      have aLive := contains_caller edge
      have bLive := consistent.contains_callee edge
      refine ⟨a, b, ?_, ?_, edge⟩
      · exact contracted.eq_of_sameComponent acyclic (contracted.settled a aLive) callerLeft
          ((contracted.together a aLive).symm.trans first)
      · exact contracted.eq_of_sameComponent acyclic (contracted.settled b bLive) calleeLeft
          ((contracted.together b bLive).symm.trans last)
  loopless handle loop := acyclic handle (.single loop)
  acyclic := acyclic

variable [Quantity α]

theorem collapseAll_of_no_cycle (none : graph.findCycle? = none) :
    graph.collapseAll = ⟨graph, .ok {}⟩ := by
  rw [collapseAll, collapseFrom, none]

/-- Collapsing a reachable graph with samples goes on until no cycle is found.
What is left is the condensation of the graph, and collapsing that does
nothing. -/
theorem Reachable.collapseCycles_condenses (reachable : graph.Reachable)
    (samples : 0 < graph.totalSamples) :
    ∃ report result, graph.collapseCycles = .ok (report, result) ∧
      CollapseRun {} graph ⟨result, .ok report⟩ ∧ graph.IsCondensation result ∧
      result.collapseCycles = .ok ({}, result) := by
  have consistent := reachable.consistent
  have run := consistent.collapseAll_run
  obtain ⟨result, report, home, ended, kept, _, none, contracted⟩ :=
    run.contracted consistent (Nat.pos_iff_ne_zero.mp samples)
  have acyclic := kept.findCycle_eq_none_iff.mp none
  refine ⟨report, result, ?_, ended ▸ run, contracted.isCondensation consistent acyclic, ?_⟩
  · rw [collapseCycles, ended]
    rfl
  · rw [collapseCycles, collapseAll_of_no_cycle none]
    rfl

theorem recursive_collapseCycles_condenses :
    ∃ report result, recursive.collapseCycles = .ok (report, result) ∧
      CollapseRun {} recursive ⟨result, .ok report⟩ ∧ recursive.IsCondensation result ∧
      result.collapseCycles = .ok ({}, result) :=
  reachable_recursive.collapseCycles_condenses (by decide +kernel)

end ProfileGraph.CallGraph

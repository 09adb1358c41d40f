import ProfileGraph.Pipeline.Simplify
import ProfileGraph.Proofs.Histories

/-! How the three passes can end. A lack of samples stops them where coverage
would have to be derived from samples, and a root that must not stay stops
pruning; all other errors that their steps could report are out of reach. -/
namespace ProfileGraph.CallGraph

variable {α : Type} [Quantity α] {graph middle : CallGraph α}

/-- Pruning an acyclic graph ends at a forbidden root or leaves an acyclic
graph of interest points and roots. -/
theorem Consistent.prune_outcome (consistent : graph.Consistent) (acyclic : graph.Acyclic)
    (policy : RootPolicy) :
    (∃ report, (graph.prune policy).outcome = .ok report ∧ (graph.prune policy).graph.Acyclic ∧
      ∀ handle, (graph.prune policy).graph.contains handle →
        (graph.prune policy).graph.Kept handle) ∨
    policy = .forbid ∧ ∃ id, (graph.prune policy).outcome = .error (.unprunableRoot id) := by
  obtain ⟨order, topological, run⟩ := consistent.prune_run acyclic policy
  refine run.outcome.imp_left ?_
  rintro ⟨report, ended⟩
  obtain ⟨removed, _, pruned, _⟩ := run.pruned (.refl consistent)
  obtain ⟨forward, kept⟩ := run.kept [] topological.nodup topological.forward (by simp)
  refine ⟨report, ended, forward.acyclic, fun handle left => kept report ended handle ?_ left⟩
  exact (topological.mem_iff handle).mpr ((pruned.contains_iff handle).mp left).1

/-- The passes after the first, on a graph without cycles. -/
theorem Consistent.simplify_collapsed (consistent : middle.Consistent) {policy : RootPolicy}
    {report : CollapseReport α} (collapsed : graph.collapseAll = ⟨middle, .ok report⟩)
    (none : middle.findCycle? = .none) :
    (middle.totalSamples = 0 ∧ (∃ handle, middle.contains handle ∧ ¬ middle.isRoot handle) ∧
      (graph.simplify policy).error = some .noSamples) ∨
    ¬ (middle.totalSamples = 0 ∧ ∃ handle, middle.contains handle ∧ ¬ middle.isRoot handle) ∧
      ((graph.simplify policy).error = .none ∧ (graph.simplify policy).graph.Acyclic ∧
        (∀ handle, (graph.simplify policy).graph.contains handle →
          (graph.simplify policy).graph.Kept handle) ∨
      policy = .forbid ∧ ∃ id, (graph.simplify policy).error = some (.unprunableRoot id)) := by
  have acyclic := consistent.findCycle_eq_none_iff.mp none
  rw [simplify]
  simp only [collapsed, none]
  refine (consistent.fixSelfCoverage_spec acyclic).imp (fun ⟨lack, receives, failed⟩ => ?_)
    fun ⟨enough, correction, corrected, ran, linked⟩ => ⟨enough, ?_⟩
  · exact ⟨lack, receives, by rw [failed]⟩
  · have uncycled : corrected.Acyclic := by
      rw [Acyclic, linked.calls_eq]
      exact acyclic
    rw [ran]
    dsimp only
    rcases linked.consistent.prune_outcome uncycled policy with
      ⟨report, ended, left, kept⟩ | ⟨forbid, id, ended⟩
    · rw [ended]
      exact .inl ⟨rfl, left, kept⟩
    · rw [ended]
      exact .inr ⟨forbid, id, rfl⟩

/-- The three ways to end exclude each other. -/
theorem Consistent.simplify_cases (consistent : graph.Consistent) (policy : RootPolicy) :
    (graph.totalSamples = 0 ∧
      (¬ graph.Acyclic ∨ ∃ handle, graph.contains handle ∧ ¬ graph.isRoot handle) ∧
      (graph.simplify policy).error = some .noSamples) ∨
    ¬ (graph.totalSamples = 0 ∧
      (¬ graph.Acyclic ∨ ∃ handle, graph.contains handle ∧ ¬ graph.isRoot handle)) ∧
      ((graph.simplify policy).error = none ∧ (graph.simplify policy).graph.Acyclic ∧
        (∀ handle, (graph.simplify policy).graph.contains handle →
          (graph.simplify policy).graph.Kept handle) ∨
      policy = .forbid ∧ ∃ id, (graph.simplify policy).error = some (.unprunableRoot id)) := by
  have run := consistent.collapseAll_run
  by_cases lack : graph.totalSamples = 0
  · rcases run.no_samples lack with ⟨ended, none⟩ | ⟨ended, found⟩
    · -- Without a cycle the first pass hands on the graph as it is.
      have acyclic := consistent.findCycle_eq_none_iff.mp none
      refine (consistent.simplify_collapsed ended none).imp ?_ (And.imp_left ?_)
      · exact fun ⟨_, receives, failed⟩ => ⟨lack, .inr receives, failed⟩
      · exact fun enough ⟨_, needs⟩ =>
          enough ⟨lack, needs.resolve_left (not_not_intro acyclic)⟩
    · have cyclic := fun acyclic => found (consistent.findCycle_eq_none_iff.mpr acyclic)
      exact .inl ⟨lack, .inl cyclic, by rw [simplify]; simp only [ended]⟩
  · obtain ⟨middle, report, home, ended, kept, counted, none, _⟩ := run.contracted consistent lack
    rcases kept.simplify_collapsed ended none with ⟨lacks, _⟩ | ⟨_, outcome⟩
    · exact absurd (counted ▸ lacks) lack
    · exact .inr ⟨fun ⟨lacks, _⟩ => lack lacks, outcome⟩

/-- The three passes on a reachable graph end well, or for lack of samples
exactly when there are none although coverage has to be derived from them, or
at a root under the policy that forbids it. The first pass loops until it finds
no cycle or is refused. A graph that they hand back in the end is acyclic, and
its nodes are interest points or receive no weight. -/
theorem Reachable.simplify_outcome (reachable : graph.Reachable) (policy : RootPolicy) :
    CollapseRun {} graph graph.collapseAll ∧
    ((graph.simplify policy).error = none ∨ (graph.simplify policy).error = some .noSamples ∨
      policy = .forbid ∧ ∃ id, (graph.simplify policy).error = some (.unprunableRoot id)) ∧
    ((graph.simplify policy).error = some .noSamples ↔ graph.totalSamples = 0 ∧
      (¬ graph.Acyclic ∨ ∃ handle, graph.contains handle ∧ ¬ graph.isRoot handle)) ∧
    (policy = .retain → 0 < graph.totalSamples → (graph.simplify policy).error = none) ∧
    ((graph.simplify policy).error = none → (graph.simplify policy).graph.Acyclic ∧
      ∀ handle, (graph.simplify policy).graph.contains handle →
        (graph.simplify policy).graph.IsInterest handle ∨
          (graph.simplify policy).graph.isRoot handle) := by
  have consistent := reachable.consistent
  refine ⟨consistent.collapseAll_run, ?_⟩
  rcases consistent.simplify_cases policy with
    ⟨lack, needs, ended⟩ | ⟨enough, ⟨ended, acyclic, kept⟩ | ⟨forbid, id, ended⟩⟩
  · exact ⟨.inr (.inl ended), ⟨fun _ => ⟨lack, needs⟩, fun _ => ended⟩,
      fun _ samples => absurd lack (Nat.pos_iff_ne_zero.mp samples), by simp [ended]⟩
  · exact ⟨.inl ended, ⟨by simp [ended], fun needs => absurd needs enough⟩, fun _ _ => ended,
      fun _ => ⟨acyclic, kept⟩⟩
  · exact ⟨.inr (.inr ⟨forbid, id, ended⟩),
      ⟨by simp [ended], fun needs => absurd needs enough⟩, by simp [forbid], by simp [ended]⟩

theorem recursive_simplify_outcome :
    CollapseRun {} recursive recursive.collapseAll ∧
      (recursive.simplify .retain).error = none ∧ (recursive.simplify .retain).graph.Acyclic := by
  obtain ⟨run, _, _, succeeds, left⟩ := reachable_recursive.simplify_outcome .retain
  have ended := succeeds rfl (by decide +kernel)
  exact ⟨run, ended, (left ended).1⟩

end ProfileGraph.CallGraph

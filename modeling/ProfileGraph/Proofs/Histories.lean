import ProfileGraph.Proofs.Contraction
import ProfileGraph.Proofs.Correction
import ProfileGraph.Proofs.Pruning

/-! All histories of a graph. A history starts with a fresh graph and goes on
with operations in any order and with any arguments, and it goes on from what a
failed operation leaves. Along every history the two copies of every edge say
the same and belong to live nodes. -/
namespace ProfileGraph

/-- A call that can change a graph, with its arguments. -/
inductive Operation (α : Type) where
  | declare (id name : String) (selfCoverage coverage : α)
  /-- An edge between two profiler ids. -/
  | connect (source target : String) (weight : Nat)
  /-- An edge between two handles. -/
  | strengthen (source target : Nat) (weight : α)
  | reweigh (source target : Nat) (weight : α)
  | disconnect (source target : Nat)
  | detach (handle : Nat)
  | remove (handle : Nat)
  | sample (samples : Nat)
  /-- Any change of the fields of a node but its profiler id. -/
  | edit (handle : Nat) (change : Node α → Node α)
      (keepsId : ∀ node, (change node).profilerId = node.profilerId)
  | collapse (listed : List Nat)
  | collapseAll
  | correct
  | prune (policy : RootPolicy)

namespace CallGraph
variable {α : Type} [Quantity α]

/-- The graph after an operation, whether that succeeds or fails. -/
def perform (graph : CallGraph α) : Operation α → CallGraph α
  | .declare id name selfCoverage coverage =>
    (graph.attempt ((graph.addNode id name selfCoverage coverage).map (·.2))).graph
  | .connect source target weight => (graph.attempt (graph.addEdge source target weight)).graph
  | .strengthen source target weight =>
    (graph.attempt (graph.addEdgeBetween source target weight)).graph
  | .reweigh source target weight => (graph.setEdgeWeight? source target weight).getD graph
  | .disconnect source target => graph.dropEdge source target
  | .detach handle => graph.detach handle
  | .remove handle => (graph.attempt ((graph.removeNode handle).map (·.2))).graph
  | .sample samples => graph.addSamples samples
  | .edit handle change _ => graph.modifyNode handle change
  | .collapse listed => (graph.collapse listed).graph
  | .collapseAll => graph.collapseAll.graph
  | .correct => (graph.attempt (graph.fixSelfCoverage.map (·.2))).graph
  | .prune policy => (graph.prune policy).graph

/-- What some history makes of a fresh graph. -/
inductive Reachable : CallGraph α → Prop
  | fresh (marker : String) : Reachable (empty marker)
  | step {graph : CallGraph α} (operation : Operation α) :
      Reachable graph → Reachable (graph.perform operation)

variable {graph : CallGraph α}

theorem consistent_empty (marker : String) : (empty marker : CallGraph α).Consistent :=
  fun _ _ => rfl

theorem Consistent.addEdgeBetween (consistent : graph.Consistent) {source target : Nat}
    {weight : α} {next : CallGraph α}
    (ran : graph.addEdgeBetween source target weight = .ok next) : next.Consistent := by
  obtain ⟨sourceLive, targetLive, rfl⟩ := addEdgeBetween_eq_ok ran
  exact consistent.strengthen sourceLive targetLive weight

theorem Consistent.addEdge (consistent : graph.Consistent) {source target : String}
    {weight : Nat} {next : CallGraph α}
    (ran : graph.addEdge source target weight = .ok next) : next.Consistent := by
  rw [CallGraph.addEdge] at ran
  split at ran
  next => cases ran
  next => cases ran
  next => exact consistent.addEdgeBetween ran

theorem Consistent.collapse (consistent : graph.Consistent) (listed : List Nat) :
    (graph.collapse listed).graph.Consistent := by
  rcases consistent.collapse_spec listed with ⟨_, refused, _⟩ | ⟨_, _, _, collapsed, left⟩
  · rw [refused]
    exact consistent
  · rw [collapsed]
    exact left.consistent

theorem Consistent.prune (consistent : graph.Consistent) (policy : RootPolicy) :
    (graph.prune policy).graph.Consistent := by
  rw [CallGraph.prune]
  split
  next => exact consistent
  next order _ =>
    obtain ⟨_, _, pruned, _⟩ :=
      (consistent.pruneAlong_run policy {} order).pruned (.refl consistent)
    exact pruned.consistent

/-- Every operation keeps both copies of every edge equal. -/
theorem Consistent.perform (consistent : graph.Consistent) (operation : Operation α) :
    (graph.perform operation).Consistent := by
  cases operation with
  | declare id name selfCoverage coverage =>
    exact consistent.attempt_snd fun _ _ ran => consistent.addNode ran
  | connect source target weight => exact consistent.attempt fun _ ran => consistent.addEdge ran
  | strengthen source target weight =>
    exact consistent.attempt fun _ ran => consistent.addEdgeBetween ran
  | reweigh source target weight =>
    rw [CallGraph.perform, setEdgeWeight?]
    cases held : graph.edgeWeight? source target with
    | none => exact consistent
    | some old =>
      have edge := calls_of_weight held
      exact consistent.writeEdge (contains_caller edge) (consistent.contains_callee edge) weight
  | disconnect source target => exact consistent.dropEdge source target
  | detach handle => exact consistent.detach handle
  | remove handle =>
    exact consistent.attempt_snd fun _ _ ran => consistent.removeNode ran
  | sample samples => exact consistent
  | edit handle change _ => exact consistent.modifyNode handle change
  | collapse listed => exact consistent.collapse listed
  | collapseAll => exact consistent.collapseAll_run.consistent consistent
  | correct =>
    exact consistent.attempt_snd fun _ _ ran => (consistent.linked_fixSelfCoverage ran).consistent
  | prune policy => exact consistent.prune policy

theorem Reachable.consistent (reachable : graph.Reachable) : graph.Consistent := by
  induction reachable with
  | fresh marker => exact consistent_empty marker
  | step operation _ ih => exact ih.perform operation

/-- The graph after several operations. -/
def performAll (graph : CallGraph α) (operations : List (Operation α)) : CallGraph α :=
  operations.foldl perform graph

theorem Reachable.performAll (reachable : graph.Reachable) (operations : List (Operation α)) :
    (graph.performAll operations).Reachable := by
  induction operations generalizing graph with
  | nil => exact reachable
  | cons operation later ih => exact ih (reachable.step operation)

/-- In every reachable graph a node lists a callee with some weight exactly if
that callee lists it with the very same weight as a caller, and then both are
live. -/
theorem Reachable.successors_iff_predecessors (reachable : graph.Reachable)
    (caller callee : Nat) (weight : α) :
    ((callee, weight) ∈ graph.successors caller ↔ (caller, weight) ∈ graph.predecessors callee) ∧
      ((callee, weight) ∈ graph.successors caller →
        graph.contains caller ∧ graph.contains callee) := by
  have consistent := reachable.consistent
  refine ⟨by rw [mem_successors, mem_predecessors, consistent], fun listed => ?_⟩
  have edge : graph.Calls caller callee := by simp [Calls, mem_successors.mp listed]
  exact ⟨contains_caller edge, consistent.contains_callee edge⟩

/-- A graph with a self-loop, and a cycle behind it. -/
def recursive : CallGraph Binary64 :=
  (empty "!").performAll [
    .declare "N1" "main" (.ofNat 10) (.ofNat 100), .declare "N2" "visit" (.ofNat 20) (.ofNat 90),
    .declare "N3" "descend" (.ofNat 20) (.ofNat 60), .declare "N4" "leaf!" (.ofNat 50) (.ofNat 50),
    .sample 100, .connect "N1" "N2" 90, .connect "N2" "N2" 7, .connect "N2" "N3" 60,
    .connect "N3" "N2" 30, .strengthen 2 3 (.ofNat 50)]

theorem reachable_recursive : recursive.Reachable := (Reachable.fresh "!").performAll _

theorem recursive_successors_iff_predecessors :
    (1, Binary64.ofNat 7) ∈ recursive.successors 1 ∧
      (1, Binary64.ofNat 7) ∈ recursive.predecessors 1 ∧ recursive.contains 1 := by
  have loop : (1, Binary64.ofNat 7) ∈ recursive.successors 1 := by decide +kernel
  obtain ⟨agree, live⟩ :=
    reachable_recursive.successors_iff_predecessors 1 1 (Binary64.ofNat 7)
  exact ⟨loop, agree.mp loop, (live loop).1⟩

end CallGraph
end ProfileGraph

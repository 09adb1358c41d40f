import ProfileGraph.Proofs.Pruning

/-! What the callers of a removed node are credited with. Handing a node over writes
bridges and credits, of which only the credits change nodes, so that a removal changes
the self coverage of the callers alone. -/
namespace ProfileGraph

/-- A sequence of two passes succeeds only if both do. -/
theorem PassResult.andThen_eq_ok {ρ σ α : Type} {result : PassResult ρ α}
    {next : ρ → CallGraph α → PassResult σ α} {final : CallGraph α} {value : σ}
    (ran : result.andThen next = ⟨final, .ok value⟩) :
    ∃ middle report, result = ⟨middle, .ok report⟩ ∧ next report middle = ⟨final, .ok value⟩ := by
  obtain ⟨middle, error | report⟩ := result
  · cases congrArg PassResult.outcome ran
  · exact ⟨middle, report, rfl, ran⟩

namespace CallGraph

variable {α : Type} {graph : CallGraph α}

/-! Nodes and edges are kept apart. -/

/-- What no step of a loop changes, the loop does not change. -/
theorem forEach_keeps {β γ : Type} {step : β → CallGraph α → PassResult Unit α}
    {items : List β} (view : CallGraph α → γ)
    (keeps : ∀ item ∈ items, ∀ graph, view (step item graph).graph = view graph) :
    view (forEach step items graph).graph = view graph := by
  induction items generalizing graph with
  | nil => rfl
  | cons item later ih =>
    have first := keeps item List.mem_cons_self graph
    have onward := fun other member => keeps other (List.mem_cons_of_mem item member)
    rw [forEach]
    revert first
    generalize step item graph = result
    obtain ⟨middle, error | ⟨⟩⟩ := result
    · exact id
    · exact (ih onward).trans

variable [Quantity α]

/-- The self coverage of a node; a handle without one has none. -/
def selfCoverageAt (graph : CallGraph α) (handle : Nat) : α :=
  ((graph.node? handle).map (·.selfCoverage)).getD Quantity.zero

theorem selfCoverageAt_eq {handle : Nat} {node : Node α} (held : graph.node? handle = some node) :
    graph.selfCoverageAt handle = node.selfCoverage := by
  rw [selfCoverageAt, held]
  rfl

/-- Bridging writes edges only, so it keeps what strengthening keeps. -/
theorem addEdgeBetween_keeps {γ : Type} (view : CallGraph α → γ) {source target : Nat} {weight : α}
    (keeps : view (graph.strengthen source target weight) = view graph) :
    view (graph.attempt (graph.addEdgeBetween source target weight)).graph = view graph := by
  rw [addEdgeBetween]
  split
  next => rfl
  next =>
    split
    next => rfl
    next => exact keeps

/-- Handing over credits the caller; of the nodes nothing else changes. -/
theorem handOver_keeps {γ : Type} (view : CallGraph α → γ)
    (keeps : ∀ source target weight (graph : CallGraph α),
      view (graph.strengthen source target weight) = view graph)
    {selfCoverage inWeight : α} {callees : List (Nat × α)} {caller : Nat} {received : α}
    {result : CallGraph α}
    (made : (handOver selfCoverage inWeight callees (caller, received) graph).graph = result) :
    view result =
      view (graph.credit caller (Quantity.roundTo 2 (received / inWeight)) selfCoverage) := by
  rw [← made, handOver]
  exact forEach_keeps view fun _ _ graph => addEdgeBetween_keeps view (keeps _ _ _ graph)

theorem node_credit (caller other : Nat) (share selfCoverage : α) :
    (graph.credit caller share selfCoverage).node? other =
      if other = caller then (graph.node? other).map fun node =>
        { node with
          selfCoverage := Quantity.roundTo 2 (node.selfCoverage + selfCoverage * share) }
      else graph.node? other :=
  node_modifyNode ..

/-- A removal that does not fail hands over to every caller and then deletes. -/
theorem removeAndBridge_stages {handle : Nat} {node : Node α} {result : CallGraph α}
    (ran : graph.removeAndBridge handle node = ⟨result, .ok ()⟩) :
    ∃ middle, forEach (handOver node.selfCoverage (graph.inWeight handle)
      (graph.successors handle)) (graph.predecessors handle) graph = ⟨middle, .ok ()⟩ ∧
      result = middle.delete handle := by
  obtain ⟨middle, ⟨⟩, handed, deleted⟩ := PassResult.andThen_eq_ok ran
  refine ⟨middle, handed, ?_⟩
  rw [removal, removeNode] at deleted
  split at deleted
  next => cases congrArg PassResult.outcome deleted
  next => exact (congrArg PassResult.graph deleted).symm

theorem Consistent.node_handOver (consistent : graph.Consistent) {handle other : Nat}
    {selfCoverage inWeight : α} {callees : List (Nat × α)} {middle : CallGraph α}
    (ran : forEach (handOver selfCoverage inWeight callees) (graph.predecessors handle) graph =
      ⟨middle, .ok ()⟩)
    (uncredited : ¬ graph.Calls other handle) : middle.node? other = graph.node? other := by
  refine (congrArg (·.graph.node? other) ran).symm.trans ?_
  refine forEach_keeps (·.node? other) fun (caller, received) member graph => ?_
  have apart : other ≠ caller := fun same =>
    uncredited (same ▸ consistent.mem_callers.mp (List.mem_map_of_mem member))
  rw [handOver_keeps (·.node? other) (fun _ _ _ _ => node_strengthen ..) rfl, node_credit,
    if_neg apart]

/-- A node that does not call the removed one keeps all its attributes. -/
theorem Consistent.node_removeAndBridge (consistent : graph.Consistent) {handle other : Nat}
    {node : Node α} {result : CallGraph α}
    (ran : graph.removeAndBridge handle node = ⟨result, .ok ()⟩) (different : other ≠ handle)
    (uncredited : ¬ graph.Calls other handle) : result.node? other = graph.node? other := by
  obtain ⟨middle, handed, rfl⟩ := removeAndBridge_stages ran
  rw [node_delete, if_neg different, consistent.node_handOver handed uncredited]

theorem Consistent.selfCoverageAt_removeAndBridge (consistent : graph.Consistent)
    {handle other : Nat} {node : Node α} {result : CallGraph α}
    (ran : graph.removeAndBridge handle node = ⟨result, .ok ()⟩) (different : other ≠ handle)
    (uncredited : ¬ graph.Calls other handle) :
    result.selfCoverageAt other = graph.selfCoverageAt other := by
  rw [selfCoverageAt, consistent.node_removeAndBridge ran different uncredited, ← selfCoverageAt]

end CallGraph
end ProfileGraph

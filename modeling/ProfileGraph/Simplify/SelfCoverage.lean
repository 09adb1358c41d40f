import ProfileGraph.Graph.TopologicalOrder

/-! Correction of self coverage. Once cycles are collapsed, the exclusive
coverage that the profiler stated no longer fits the graph. A node that
receives weight gets it back from its edges: what flows in and does not flow
out to callees was spent in the node itself. Roots keep theirs, because what
flows into them is not seen. -/
namespace ProfileGraph

/-- What the correction did to a graph. -/
structure CorrectionReport where
  /-- The number of nodes whose self coverage was found anew. -/
  updated : Nat := 0
  /-- The number of roots, which are left alone. -/
  rootsSkipped : Nat := 0
  /-- The profiler ids of nodes whose callees outweigh their callers; their
  self coverage is set to zero. -/
  clamped : List String := []
deriving DecidableEq, Repr, Inhabited

namespace CallGraph
variable {α : Type} [Quantity α]

/-- The share of all samples that flow into a node and do not flow out. -/
def retainedCoverage (graph : CallGraph α) (handle : Nat) : α :=
  Quantity.roundTo 1 (Quantity.ofCount 100 * (graph.inWeight handle - graph.outWeight handle)
    / Quantity.ofCount graph.totalSamples)

/-- The self coverage that the edges of a node imply, never below zero. -/
def impliedSelfCoverage (graph : CallGraph α) (handle : Nat) : α :=
  let retained := graph.retainedCoverage handle
  if Quantity.isNegative retained then Quantity.zero else retained

/-- Finds the self coverage of every node that receives weight from its
edges. All values are taken from the graph as it was handed in; the graph must
be acyclic. -/
def fixSelfCoverage (graph : CallGraph α) : Except GraphError (CorrectionReport × CallGraph α) :=
  match graph.topologicalOrder with
  | .error error => .error error
  | .ok order =>
    let inner := order.filter fun handle => !graph.isRoot handle
    if graph.totalSamples = 0 ∧ inner ≠ [] then .error .noSamples
    else
      let clamped := inner.filter fun handle => Quantity.isNegative (graph.retainedCoverage handle)
      let corrected := inner.foldl (fun corrected handle =>
        corrected.modifyNode handle fun node =>
          { node with selfCoverage := graph.impliedSelfCoverage handle }) graph
      .ok (⟨inner.length, order.length - inner.length, clamped.map graph.profilerId⟩, corrected)

end CallGraph
end ProfileGraph

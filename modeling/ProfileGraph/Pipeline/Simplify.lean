import ProfileGraph.Simplify.Collapse
import ProfileGraph.Simplify.SelfCoverage
import ProfileGraph.Simplify.Prune

/-! The three passes in their order: cycles are collapsed, self coverage is
found anew, and nodes that are no interest points are pruned. A pass that fails
ends the sequence; what the passes before it did stays. -/
namespace ProfileGraph

/-- The graph as far as the passes came, the reports of those that finished,
and the error of the one that failed. -/
structure SimplifyResult (α : Type) where
  graph : CallGraph α
  collapse : CollapseReport α := {}
  correction : CorrectionReport := {}
  prune : PruneReport := {}
  error : Option GraphError := none

namespace CallGraph
variable {α : Type} [Quantity α]

/-- Runs the three passes. -/
def simplify (policy : RootPolicy) (graph : CallGraph α) : SimplifyResult α :=
  let collapsed := graph.collapseAll
  match collapsed.outcome with
  | .error error => { graph := collapsed.graph, error := some error }
  | .ok collapse =>
    let graph := collapsed.graph
    match graph.findCycle? with
    | some members =>
      { graph, collapse, error := some (.cyclic (graph.profilerId (members.headD 0))) }
    | none =>
      match graph.fixSelfCoverage with
      | .error error => { graph, collapse, error := some error }
      | .ok (correction, graph) =>
        let pruned := graph.prune policy
        match pruned.outcome with
        | .error error => { graph := pruned.graph, collapse, correction, error := some error }
        | .ok prune => { graph := pruned.graph, collapse, correction, prune }

end CallGraph
end ProfileGraph

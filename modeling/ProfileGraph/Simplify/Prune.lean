import ProfileGraph.Graph.Pass
import ProfileGraph.Graph.TopologicalOrder

/-! Pruning of nodes that are no interest points. Before such a node is
deleted, each of its callers is credited with its share of the node's self
coverage, and each caller is linked to each callee by an edge that carries the
caller's share of what flowed on to the callee. Nodes are visited in
topological order, so that the callers of a node are settled before it. -/
namespace ProfileGraph

/-- What becomes of a root that is no interest point. It has no caller that
could take over its self coverage. -/
inductive RootPolicy where
  /-- It stays in the graph. -/
  | retain
  /-- It makes pruning fail. -/
  | forbid
deriving DecidableEq, Repr, Inhabited

namespace RootPolicy

/-- The name of a policy in configurations. -/
def name : RootPolicy → String
  | .retain => "retain"
  | .forbid => "forbid"

/-- The policy with a name. -/
def ofName? : String → Option RootPolicy
  | "retain" => some .retain
  | "forbid" => some .forbid
  | _ => none

end RootPolicy

/-- What pruning did to a graph. -/
structure PruneReport where
  /-- The profiler ids of deleted nodes, in the order of deletion. -/
  removed : List String := []
  /-- The profiler ids of roots that stay although they are no interest
  points. -/
  retainedRoots : List String := []
  /-- The number of edges created or strengthened between callers and
  callees. -/
  bridgedEdges : Nat := 0
deriving DecidableEq, Repr, Inhabited

namespace CallGraph
variable {α : Type} [Quantity α]

/-- Credits a caller with its share of the self coverage of a node. -/
def credit (graph : CallGraph α) (caller : Nat) (share selfCoverage : α) : CallGraph α :=
  graph.modifyNode caller fun node =>
    { node with selfCoverage := Quantity.roundTo 2 (node.selfCoverage + selfCoverage * share) }

/-- Hands the part of a node that belongs to one caller over to that caller,
and links the caller to the callees. -/
def handOver (selfCoverage inWeight : α) (callees : List (Nat × α)) :
    Nat × α → CallGraph α → PassResult Unit α
  | (caller, received), graph =>
    forEach (fun (callee, passedOn) graph =>
        graph.attempt (graph.addEdgeBetween caller callee
          (Quantity.roundTo 2 (received * (passedOn / inWeight))))) callees
      (graph.credit caller (Quantity.roundTo 2 (received / inWeight)) selfCoverage)

/-- Links the callers of a node to its callees and deletes it. -/
def removeAndBridge (graph : CallGraph α) (handle : Nat) (node : Node α) : PassResult Unit α :=
  let callers := graph.predecessors handle
  let callees := graph.successors handle
  let inWeight := graph.inWeight handle
  (forEach (handOver node.selfCoverage inWeight callees) callers graph).andThen fun () graph =>
    removal handle graph

/-- Visits nodes in order and deletes those that are neither interest points
nor roots. -/
def pruneAlong (policy : RootPolicy) (graph : CallGraph α) (report : PruneReport) :
    List Nat → PassResult PruneReport α
  | [] => ⟨graph, .ok report⟩
  | handle :: later =>
    match graph.node? handle with
    | none => pruneAlong policy graph report later
    | some node =>
      if node.isInterestPoint then pruneAlong policy graph report later
      else if graph.isRoot handle then
        match policy with
        | .retain =>
          let retainedRoots := report.retainedRoots ++ [node.profilerId]
          pruneAlong policy graph { report with retainedRoots } later
        | .forbid => ⟨graph, .error (.unprunableRoot node.profilerId)⟩
      else
        let bridges := (graph.predecessors handle).length * (graph.successors handle).length
        (graph.removeAndBridge handle node).andThen fun () graph =>
          pruneAlong policy graph { report with
            removed := report.removed ++ [node.profilerId]
            bridgedEdges := report.bridgedEdges + bridges } later

/-- Deletes every node that is neither an interest point nor a root. The graph
must be acyclic. -/
def prune (policy : RootPolicy) (graph : CallGraph α) : PassResult PruneReport α :=
  match graph.topologicalOrder with
  | .error error => ⟨graph, .error error⟩
  | .ok order => graph.pruneAlong policy {} order

end CallGraph
end ProfileGraph

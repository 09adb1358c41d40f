import ProfileGraph.Graph.Basic

/-! Snapshots: the view of a graph that is handed to later stages. A snapshot
names nodes by their profiler ids and lists nodes and edges in the order of
declaration. -/
namespace ProfileGraph

/-- A node as later stages see it. -/
structure NodeSnapshot where
  id : String
  name : String
  coverage : Binary64
  selfCoverage : Binary64
  isInterestPoint : Bool
  selection : SelectionState
deriving DecidableEq

/-- An edge as later stages see it. -/
structure EdgeSnapshot where
  source : String
  target : String
  weight : Binary64
deriving DecidableEq

/-- A graph as later stages see it. -/
structure Snapshot where
  totalSamples : Nat
  coverage : Binary64
  selector : Option String
  nodes : List NodeSnapshot
  edges : List EdgeSnapshot
deriving DecidableEq

/-- The snapshot of a node. -/
def NodeSnapshot.ofNode (node : Node Binary64) : NodeSnapshot :=
  ⟨node.profilerId, node.name, node.coverage, node.selfCoverage, node.isInterestPoint,
    node.selection⟩

namespace Snapshot

/-- The snapshot of a graph. -/
def ofGraph (graph : CallGraph Binary64) : Snapshot where
  totalSamples := graph.totalSamples
  coverage := graph.coverage
  selector := graph.selector
  nodes := graph.nodes.map .ofNode
  edges := graph.edges.map fun (source, target, weight) =>
    ⟨graph.profilerId source, graph.profilerId target, weight⟩

/-- The first node with an id. -/
def node? (snapshot : Snapshot) (id : String) : Option NodeSnapshot :=
  snapshot.nodes.find? (·.id == id)

/-- The sum of self coverage over all nodes. -/
def totalSelfCoverage (snapshot : Snapshot) : Binary64 :=
  Quantity.sum (snapshot.nodes.map (·.selfCoverage))

end Snapshot
end ProfileGraph

import ProfileGraph.Graph.Cycle
import ProfileGraph.Graph.Pass

/-! Collapsing of recursion. A cycle is replaced by its member with most
coverage: the other members are deleted, and the edges that crossed the border
of the cycle are attached to the survivor with their weights summed. This is
done again until no cycle is left, because a collapse can expose recursion
that was hidden behind the deleted members. -/
namespace ProfileGraph

/-- A collapsed cycle. -/
structure CollapsedCycle (α : Type) where
  /-- The profiler id of the member that is left. -/
  survivor : String
  /-- The profiler ids of the deleted members. -/
  removed : List String
  /-- The coverage of the survivor, found anew. -/
  coverage : α

/-- What collapsing did to a graph. -/
structure CollapseReport (α : Type) where
  cycles : List (CollapsedCycle α) := []
  /-- The cycles that were self-loops. -/
  selfLoopsStripped : Nat := 0
  nodesRemoved : Nat := 0

instance {α : Type} : Inhabited (CollapseReport α) := ⟨{}⟩

/-- The report with one more cycle. -/
def CollapseReport.push {α : Type} (report : CollapseReport α) (cycle : CollapsedCycle α) :
    CollapseReport α where
  cycles := report.cycles ++ [cycle]
  selfLoopsStripped :=
    if cycle.removed.isEmpty then report.selfLoopsStripped + 1 else report.selfLoopsStripped
  nodesRemoved := report.nodesRemoved + cycle.removed.length

namespace CallGraph
variable {α : Type} [Quantity α]

/-- The better covered of the best node so far, given with its coverage, and
another. The earlier one wins a tie, and a coverage that cannot be compared
takes the lead from the one before it. -/
def better (graph : CallGraph α) (best : Option (Nat × α)) (member : Nat) : Option (Nat × α) :=
  match graph.node? member, best with
  | none, _ => best
  | some node, none => some (member, node.coverage)
  | some node, some (_, top) =>
    if Quantity.le node.coverage top then best else some (member, node.coverage)

/-- The first of some nodes with most coverage. -/
def mostCovered? (graph : CallGraph α) (members : List Nat) : Option Nat :=
  (members.foldl graph.better none).map (·.1)

/-- The weights of the edges across the border of a set of nodes, by the
neighbour outside. `neighbours` gives the edges of one direction. -/
def borderWeights (neighbours : Nat → List (Nat × α)) (members : List Nat) : WeightMap α :=
  let crossing := (members.flatMap neighbours).filter fun (other, _) => !members.contains other
  crossing.foldl (fun border (other, weight) => border.add other weight) .empty

/-- Cuts the weight of an edge down to a whole number of samples. -/
def truncateEdge (graph : CallGraph α) (source target : Nat) : CallGraph α :=
  match graph.edgeWeight? source target with
  | some weight => graph.writeEdge source target (Quantity.truncate weight)
  | none => graph

/-- Attaches an edge, given with its ends, and cuts its weight down to a whole
number of samples. -/
def attach : Nat × Nat × α → CallGraph α → PassResult Unit α
  | (source, target, weight), graph =>
    (graph.attempt (graph.addEdgeBetween source target weight)).andThen fun () graph =>
      ⟨graph.truncateEdge source target, .ok ()⟩

/-- The coverage that the samples flowing into a node stand for. -/
def inflowCoverage (graph : CallGraph α) (handle : Nat) : α :=
  Quantity.roundTo 1
    (Quantity.ofCount 100 * graph.inWeight handle / Quantity.ofCount graph.totalSamples)

/-- Replaces some live nodes, each listed once, by one of them. -/
def merge (graph : CallGraph α) (members : List Nat) (survivor : Nat) :
    PassResult (CollapsedCycle α) α :=
  match graph.node? survivor with
  | none => graph.refuse (.missingHandle survivor)
  | some node =>
    let inbound := (borderWeights graph.predecessors members).entries.map
      fun (caller, weight) => (caller, survivor, weight)
    let outbound := (borderWeights graph.successors members).entries.map
      fun (callee, weight) => (survivor, callee, weight)
    let others := members.filter (· != survivor)
    let removed := others.map graph.profilerId
    (forEach removal others graph).andThen fun () graph =>
    (forEach attach inbound (graph.detach survivor)).andThen fun () graph =>
    (forEach attach outbound graph).andThen fun () graph =>
      let coverage := graph.inflowCoverage survivor
      ⟨graph.modifyNode survivor fun node => { node with coverage },
        .ok ⟨node.profilerId, removed, coverage⟩⟩

/-- Collapses the listed nodes into the one with most coverage. Nodes listed
twice count once. -/
def collapse (graph : CallGraph α) (listed : List Nat) : PassResult (CollapsedCycle α) α :=
  if graph.totalSamples = 0 then graph.refuse .noSamples
  else match listed.find? fun handle => !graph.contains handle with
    | some handle => graph.refuse (.missingHandle handle)
    | none =>
      let members := listed.eraseDups
      match graph.mostCovered? members with
      | none => graph.refuse (.cyclic "empty cycle")
      | some survivor => graph.merge members survivor

/-- Collapses cycles, at most `fuel` of them. -/
def collapseFrom (report : CollapseReport α) :
    Nat → CallGraph α → PassResult (CollapseReport α) α
  | 0, graph => ⟨graph, .ok report⟩
  | fuel + 1, graph =>
    match graph.findCycle? with
    | none => ⟨graph, .ok report⟩
    | some members => (graph.collapse members).andThen fun cycle graph =>
      collapseFrom (report.push cycle) fuel graph

/-- Collapses cycles until none is left. Each collapse deletes a node or
strips a self-loop, and none creates a self-loop, so twice the number of nodes
bounds their number. -/
def collapseAll (graph : CallGraph α) : PassResult (CollapseReport α) α :=
  collapseFrom {} (2 * graph.nodeCount + 1) graph

/-- Collapses the listed nodes. A refusal changes nothing, so it hands back no
graph. -/
def collapseCycle (graph : CallGraph α) (listed : List Nat) :
    Except GraphError (CollapsedCycle α × CallGraph α) :=
  (graph.collapse listed).toExcept

/-- Collapses cycles until none is left. A graph without samples is refused as
soon as a cycle is found, before anything is changed. -/
def collapseCycles (graph : CallGraph α) :
    Except GraphError (CollapseReport α × CallGraph α) :=
  graph.collapseAll.toExcept

end CallGraph
end ProfileGraph

import Std.Data.ExtTreeMap
import Std.Data.ExtTreeSet
import ProfileGraph.Graph.WeightMap
import ProfileGraph.Text.Characters

/-! The weighted call graph. Nodes live in slots numbered in the order of
declaration; a deleted node leaves its slot empty for good, and its profiler id
is retired. Each edge is held twice, with its source and with its target, so
that both directions can be walked; every operation on edges writes both
copies. Operations that can be refused check their arguments first and hand
back a graph only when they succeed. -/
namespace ProfileGraph

/-- The token in symbol names that marks instrumented regions. -/
def defaultInterestMarker : String := "__cere__"

/-- What later selection stages note about a node. No graph algorithm reads
it. -/
structure SelectionState where
  matching : Bool := false
  error : Binary64 := Binary64.ofNat 100
  errorMessage : Option String := none
  toTest : Bool := false
  tested : Bool := false
  transferred : Bool := false
  small : Bool := false
  selected : Bool := false
  invivo : Binary64 := Binary64.signedZero false
  invitro : Binary64 := Binary64.signedZero false
  invocations : List Nat := []
deriving DecidableEq, Inhabited

/-- A function of the profiled program. -/
structure Node (α : Type) where
  /-- The id given by the profiler, stable within one profile only. -/
  profilerId : String
  name : String
  /-- Inclusive coverage in percent of all samples. -/
  coverage : α
  /-- Exclusive coverage in percent of all samples. -/
  selfCoverage : α
  /-- The node is an instrumented region. -/
  isInterestPoint : Bool
  selection : SelectionState

/-- A live node with the weights of its callees and of its callers. -/
structure Slot (α : Type) where
  node : Node α
  successors : WeightMap α
  predecessors : WeightMap α

/-- A directed graph with weighted edges, at most one between two nodes in
each direction. -/
structure CallGraph (α : Type) where
  /-- The nodes by handle; the slot of a deleted node is empty. -/
  slots : Array (Option (Slot α))
  /-- The handle of each live profiler id. -/
  index : Std.ExtTreeMap String Nat
  /-- The profiler ids of deleted nodes. -/
  retired : Std.ExtTreeSet String
  interestMarker : String
  /-- The samples of the whole run. -/
  totalSamples : Nat
  /-- Coverage of the whole graph, for the selection stages. -/
  coverage : α
  /-- The selector in use, for the selection stages. -/
  selector : Option String

/-- Why an operation on a graph is refused. -/
inductive GraphError where
  /-- An edge names a profiler id that no node has. -/
  | unknownNode (source target missing : String)
  | missingHandle (handle : Nat)
  | retiredId (id : String)
  /-- The graph has a cycle; the node with this id could not be ordered. -/
  | cyclic (id : String)
  | noSamples
  /-- A node without callers that is no interest point. -/
  | unprunableRoot (id : String)
deriving DecidableEq, Repr

/-- The text for an operation that is refused. -/
def GraphError.message : GraphError → String
  | .unknownNode source target missing =>
    "Edge " ++ source ++ " -> " ++ target ++ " references undeclared node " ++ missing
  | .missingHandle handle =>
    "Node handle NodeId(" ++ toString handle ++ ") is not present in the graph"
  | .retiredId id => "Node id " ++ id ++ " was removed and cannot be reintroduced"
  | .cyclic id => "Graph still contains a cycle through " ++ id
  | .noSamples => "Total sample count is zero; coverage cannot be derived"
  | .unprunableRoot id => "Root node " ++ id
      ++ " is not an interest point and cannot be pruned without dropping its weight"

namespace CallGraph
variable {α : Type}

/-- A graph without nodes. -/
def empty [Quantity α] (marker : String) : CallGraph α where
  slots := #[]
  index := ∅
  retired := ∅
  interestMarker := marker
  totalSamples := 0
  coverage := Quantity.zero
  selector := none

/-- Whether a symbol name carries the marker of interest points. -/
def isInterestName (graph : CallGraph α) (name : String) : Bool :=
  Text.occursIn graph.interestMarker.toList name.toList

/-! Looking at a graph. -/

/-- The slot of a live node. -/
def slot? (graph : CallGraph α) (handle : Nat) : Option (Slot α) := graph.slots[handle]?.join

/-- Whether a handle belongs to a node that is there. -/
def contains (graph : CallGraph α) (handle : Nat) : Bool := (graph.slot? handle).isSome

/-- The node of a handle. -/
def node? (graph : CallGraph α) (handle : Nat) : Option (Node α) := (graph.slot? handle).map (·.node)

/-- The handle of a live profiler id. -/
def lookup? (graph : CallGraph α) (id : String) : Option Nat := graph.index[id]?

/-- The handles of the live nodes, in the order of declaration. -/
def handles (graph : CallGraph α) : List Nat :=
  (List.range graph.slots.size).filter graph.contains

/-- The live nodes, in the order of declaration. -/
def nodes (graph : CallGraph α) : List (Node α) := graph.handles.filterMap graph.node?

/-- The number of nodes. -/
def nodeCount (graph : CallGraph α) : Nat := graph.handles.length

/-- The callees of a node with their weights, ascending. -/
def successors (graph : CallGraph α) (handle : Nat) : List (Nat × α) :=
  match graph.slot? handle with
  | some slot => slot.successors.entries
  | none => []

/-- The callers of a node with their weights, ascending. -/
def predecessors (graph : CallGraph α) (handle : Nat) : List (Nat × α) :=
  match graph.slot? handle with
  | some slot => slot.predecessors.entries
  | none => []

/-- All edges by source, then target. -/
def edges (graph : CallGraph α) : List (Nat × Nat × α) :=
  graph.handles.flatMap fun source =>
    (graph.successors source).map fun (target, weight) => (source, target, weight)

/-- The number of edges. -/
def edgeCount (graph : CallGraph α) : Nat := graph.edges.length

/-- The weight of the edge from one node to another. -/
def edgeWeight? (graph : CallGraph α) (source target : Nat) : Option α := do
  (← graph.slot? source).successors.get? target

/-- The sum of the weights of the edges into a node. -/
def inWeight [Quantity α] (graph : CallGraph α) (handle : Nat) : α :=
  Quantity.sum ((graph.predecessors handle).map (·.2))

/-- The sum of the weights of the edges out of a node. -/
def outWeight [Quantity α] (graph : CallGraph α) (handle : Nat) : α :=
  Quantity.sum ((graph.successors handle).map (·.2))

/-- A root receives no weight. -/
def isRoot [Quantity α] (graph : CallGraph α) (handle : Nat) : Bool :=
  Quantity.isZero (graph.inWeight handle)

/-- The live nodes that receive no weight. -/
def roots [Quantity α] (graph : CallGraph α) : List Nat := graph.handles.filter graph.isRoot

/-- The sum of self coverage over all live nodes. -/
def totalSelfCoverage [Quantity α] (graph : CallGraph α) : α :=
  Quantity.sum (graph.nodes.map (·.selfCoverage))

/-- The profiler id of a node, empty for a handle without one. -/
def profilerId (graph : CallGraph α) (handle : Nat) : String :=
  match graph.node? handle with
  | some node => node.profilerId
  | none => ""

/-! Changing a graph. -/

/-- Changes the slot of a live node. -/
def modifySlot (graph : CallGraph α) (handle : Nat) (change : Slot α → Slot α) : CallGraph α :=
  { graph with slots := graph.slots.modify handle (Option.map change) }

/-- Changes the fields of a live node. -/
def modifyNode (graph : CallGraph α) (handle : Nat) (change : Node α → Node α) : CallGraph α :=
  graph.modifySlot handle fun slot => { slot with node := change slot.node }

/-- Adds to the samples of the run. The sum has no bound here. Below `countBound` a
word of 64 bits holds it, and `Depicts.samples_words` says that words add up to the
same; beyond it they do not. -/
def addSamples (graph : CallGraph α) (samples : Nat) : CallGraph α :=
  { graph with totalSamples := graph.totalSamples + samples }

/-- Declares a node. A live id gets new attributes and keeps its handle and
its edges; a retired id is refused. -/
def addNode (graph : CallGraph α) (id name : String) (selfCoverage coverage : α) :
    Except GraphError (Nat × CallGraph α) :=
  if graph.retired.contains id then .error (.retiredId id)
  else
    let node : Node α := ⟨id, name, coverage, selfCoverage, graph.isInterestName name, {}⟩
    match graph.lookup? id with
    | some handle => .ok (handle, graph.modifyNode handle fun _ => node)
    | none => .ok (graph.slots.size, { graph with
        slots := graph.slots.push (some ⟨node, .empty, .empty⟩)
        index := graph.index.insert id graph.slots.size })

/-- Writes the weight of an edge into both of its copies. -/
def writeEdge (graph : CallGraph α) (source target : Nat) (weight : α) : CallGraph α :=
  (graph.modifySlot source fun slot =>
      { slot with successors := slot.successors.insert target weight }).modifySlot target
    fun slot => { slot with predecessors := slot.predecessors.insert source weight }

/-- Erases both copies of an edge. -/
def eraseEdge (graph : CallGraph α) (source target : Nat) : CallGraph α :=
  (graph.modifySlot source fun slot =>
      { slot with successors := slot.successors.erase target }).modifySlot target
    fun slot => { slot with predecessors := slot.predecessors.erase source }

/-- Adds to the weight of the edge between two live nodes; a missing edge
counts as one of weight zero. -/
def strengthen [Quantity α] (graph : CallGraph α) (source target : Nat) (weight : α) :
    CallGraph α :=
  graph.writeEdge source target
    ((graph.edgeWeight? source target).getD Quantity.zero + weight)

/-- Creates an edge between two handles or adds to its weight. -/
def addEdgeBetween [Quantity α] (graph : CallGraph α) (source target : Nat) (weight : α) :
    Except GraphError (CallGraph α) :=
  if !graph.contains target then .error (.missingHandle target)
  else if !graph.contains source then .error (.missingHandle source)
  else .ok (graph.strengthen source target weight)

/-- Creates an edge between two profiler ids or adds to its weight. -/
def addEdge [Quantity α] (graph : CallGraph α) (source target : String) (weight : Nat) :
    Except GraphError (CallGraph α) :=
  match graph.lookup? source, graph.lookup? target with
  | none, _ => .error (.unknownNode source target source)
  | some _, none => .error (.unknownNode source target target)
  | some sourceHandle, some targetHandle =>
    graph.addEdgeBetween sourceHandle targetHandle (Quantity.ofCount weight)

/-- Overwrites the weight of an edge; there is no result without that edge. -/
def setEdgeWeight? (graph : CallGraph α) (source target : Nat) (weight : α) :
    Option (CallGraph α) :=
  (graph.edgeWeight? source target).map fun _ => graph.writeEdge source target weight

/-- Removes an edge and returns its weight. -/
def removeEdge? (graph : CallGraph α) (source target : Nat) : Option (α × CallGraph α) :=
  (graph.edgeWeight? source target).map fun weight => (weight, graph.eraseEdge source target)

/-- Removes an edge if it is there. -/
def dropEdge (graph : CallGraph α) (source target : Nat) : CallGraph α :=
  match graph.removeEdge? source target with
  | some (_, graph) => graph
  | none => graph

/-- Removes the edges into a node and then those out of it. -/
def detach (graph : CallGraph α) (handle : Nat) : CallGraph α :=
  let callers := (graph.predecessors handle).map (·.1)
  let callees := (graph.successors handle).map (·.1)
  let graph := callers.foldl (fun graph caller => graph.dropEdge caller handle) graph
  callees.foldl (fun graph callee => graph.dropEdge handle callee) graph

/-- Deletes a live node with its edges and retires its id. -/
def delete (graph : CallGraph α) (handle : Nat) : CallGraph α :=
  match graph.node? handle with
  | none => graph
  | some node =>
    let graph := graph.detach handle
    { graph with
      slots := graph.slots.setIfInBounds handle none
      index := graph.index.erase node.profilerId
      retired := graph.retired.insert node.profilerId }

/-- Deletes a node with its edges and returns its fields. -/
def removeNode (graph : CallGraph α) (handle : Nat) : Except GraphError (Node α × CallGraph α) :=
  match graph.node? handle with
  | none => .error (.missingHandle handle)
  | some node => .ok (node, graph.delete handle)

end CallGraph
end ProfileGraph

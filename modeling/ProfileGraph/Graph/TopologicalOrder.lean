import ProfileGraph.Graph.Basic

/-! The order in which every caller stands before its callees. Nodes without
callers come first, in the order of declaration; a node follows as soon as the
last of its callers has been placed. Nodes that are never placed lie on a
cycle or behind one. -/
namespace ProfileGraph

/-- An ordering under way. -/
structure Placement where
  /-- For each handle, the callers that have not been placed. -/
  pending : Array Nat
  /-- The nodes to place next, in their order. -/
  ready : List Nat
  /-- The nodes placed, the last one first. -/
  placed : List Nat

/-- Notes that a caller of a node has been placed. The last one makes the node
ready, behind all that are ready already. -/
def Placement.release (state : Placement) (handle : Nat) : Placement :=
  let left := state.pending.getD handle 0 - 1
  { state with
    pending := state.pending.setIfInBounds handle left
    ready := if left = 0 then state.ready ++ [handle] else state.ready }

namespace CallGraph
variable {α : Type}

/-- The state before any node has been placed. -/
def placementStart (graph : CallGraph α) : Placement where
  pending := (Array.range graph.slots.size).map fun handle => (graph.predecessors handle).length
  ready := graph.handles.filter fun handle => (graph.predecessors handle).isEmpty
  placed := []

/-- Places ready nodes, at most `fuel` of them. -/
def place (graph : CallGraph α) : Nat → Placement → Placement
  | 0, state => state
  | fuel + 1, state =>
    match state.ready with
    | [] => state
    | handle :: ready =>
      let next : Placement := { state with ready, placed := handle :: state.placed }
      graph.place fuel
        ((graph.successors handle).foldl (fun state (callee, _) => state.release callee) next)

/-- The live nodes in topological order. A graph with a cycle is refused with
the first node, in the order of declaration, that still waits for a caller. -/
def topologicalOrder (graph : CallGraph α) : Except GraphError (List Nat) :=
  let state := graph.place graph.nodeCount graph.placementStart
  if state.placed.length = graph.nodeCount then .ok state.placed.reverse
  else
    let stuck := graph.handles.find? fun handle => 0 < state.pending.getD handle 0
    .error (.cyclic ((stuck.map graph.profilerId).getD ""))

end CallGraph
end ProfileGraph

import ProfileGraph.Graph.Basic

/-! The search for a cycle. A walk goes depth first along the callees, in
ascending order, from each node in turn; it ends at the first edge back to a
node of the path on which it stands. -/
namespace ProfileGraph

/-- What is left of a walk: the nodes from which no cycle can be reached, or
the first cycle met. -/
inductive WalkResult where
  | explored (done : List Nat)
  | cycle (members : List Nat)
deriving DecidableEq, Repr

/-- The part of a path from a node on. The path is given with its last node
first. -/
def pathFrom (handle : Nat) (path : List Nat) : List Nat :=
  path.reverse.dropWhile (· != handle)

/-- Walks to each of some nodes in turn, from the last node of a path. Nodes
of the path close a cycle, and nodes done with are passed over. -/
def walkEach (walk : Nat → List Nat → WalkResult) (path : List Nat) :
    List Nat → List Nat → WalkResult
  | [], done => .explored done
  | handle :: later, done =>
    if path.contains handle then .cycle (pathFrom handle path)
    else if done.contains handle then walkEach walk path later done
    else match walk handle done with
      | .explored done => walkEach walk path later done
      | .cycle members => .cycle members

namespace CallGraph
variable {α : Type}

/-- Walks to a node behind a path and on from it. A path visits no node twice,
so the number of nodes bounds how far walks go. -/
def walk (graph : CallGraph α) : Nat → List Nat → Nat → List Nat → WalkResult
  | 0, _, _, done => .explored done
  | fuel + 1, path, handle, done =>
    let callees := (graph.successors handle).map (·.1)
    match walkEach (graph.walk fuel (handle :: path)) (handle :: path) callees done with
    | .explored done => .explored (handle :: done)
    | .cycle members => .cycle members

/-- The nodes of one elementary cycle in path order, from the node to which
the first edge back was found. A self-loop is a cycle of one node. -/
def findCycle? (graph : CallGraph α) : Option (List Nat) :=
  match walkEach (graph.walk graph.nodeCount []) [] graph.handles [] with
  | .explored _ => none
  | .cycle members => some members

/-- Whether the search finds no cycle. -/
def isAcyclic (graph : CallGraph α) : Bool := graph.findCycle?.isNone

end CallGraph
end ProfileGraph

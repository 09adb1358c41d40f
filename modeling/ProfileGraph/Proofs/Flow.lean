import Mathlib.Algebra.BigOperators.Group.Finset.Basic
import Mathlib.Algebra.Order.BigOperators.Group.Finset
import ProfileGraph.Proofs.Adjacency

/-! The edges of a graph as a matrix. An entry is the weight of an edge,
measured in some way, or zero where there is no edge; a sum along a row or a
column is then one over the callees or the callers of a node. What is summed up
in the order of the neighbours can so be split and exchanged by the laws of
finite sums. -/
namespace ProfileGraph.CallGraph

variable {α M : Type} [AddCommMonoid M] {graph : CallGraph α}

/-- The live nodes as a finite set. -/
def live (graph : CallGraph α) : Finset Nat := graph.handles.toFinset

@[simp] theorem mem_live {handle : Nat} : handle ∈ graph.live ↔ graph.contains handle := by
  rw [live, List.mem_toFinset, mem_handles]

theorem toFinset_subset_live {members : List Nat}
    (inside : ∀ member ∈ members, graph.contains member) : members.toFinset ⊆ graph.live :=
  fun member listed => mem_live.mpr (inside member (List.mem_toFinset.mp listed))

/-- What flows along the edge from one node to another. -/
def flow (graph : CallGraph α) (value : α → M) (caller callee : Nat) : M :=
  ((graph.edgeWeight? caller callee).map value).getD 0

variable (value : α → M)

theorem flow_of_weight {caller callee : Nat} {weight : α}
    (held : graph.edgeWeight? caller callee = some weight) :
    graph.flow value caller callee = value weight := by
  rw [flow, held, Option.map_some, Option.getD_some]

theorem flow_of_not_calls {caller callee : Nat} (absent : ¬ graph.Calls caller callee) :
    graph.flow value caller callee = 0 := by
  rw [flow, Option.not_isSome_iff_eq_none.mp absent, Option.map_none, Option.getD_none]

theorem flow_congr {result : CallGraph α} {caller callee : Nat}
    (same : result.edgeWeight? caller callee = graph.edgeWeight? caller callee) :
    result.flow value caller callee = graph.flow value caller callee := by
  rw [flow, same, flow]

/-- A sum over neighbours is one over all live nodes. -/
private theorem sum_entries {entries : List (Nat × α)} {entry : Nat → M}
    (distinct : (entries.map (·.1)).Nodup)
    (same : ∀ edge ∈ entries, value edge.2 = entry edge.1)
    (inside : ∀ handle ∈ entries.map (·.1), handle ∈ graph.live)
    (outside : ∀ handle ∈ graph.live, handle ∉ entries.map (·.1) → entry handle = 0) :
    (entries.map fun edge => value edge.2).sum = ∑ handle ∈ graph.live, entry handle := by
  calc (entries.map fun edge => value edge.2).sum
      = ((entries.map (·.1)).map entry).sum := by
        rw [List.map_map]
        exact congrArg List.sum (List.map_congr_left same)
    _ = ∑ handle ∈ (entries.map (·.1)).toFinset, entry handle :=
        (List.sum_toFinset entry distinct).symm
    _ = ∑ handle ∈ graph.live, entry handle := by
        refine Finset.sum_subset (fun handle member => inside handle (List.mem_toFinset.mp member))
          fun handle member unlisted => outside handle member fun listed => ?_
        exact unlisted (List.mem_toFinset.mpr listed)

theorem Consistent.sum_callees (consistent : graph.Consistent) (caller : Nat) :
    ((graph.successors caller).map fun edge => value edge.2).sum =
      ∑ callee ∈ graph.live, graph.flow value caller callee := by
  refine sum_entries value (graph.nodup_callees caller) (fun edge listed => ?_)
    (fun callee listed => ?_) fun callee _ unlisted => ?_
  · exact (flow_of_weight value (mem_successors.mp listed)).symm
  · exact mem_live.mpr (consistent.contains_callee (mem_callees.mp listed))
  · exact flow_of_not_calls value fun edge => unlisted (mem_callees.mpr edge)

theorem Consistent.sum_callers (consistent : graph.Consistent) (callee : Nat) :
    ((graph.predecessors callee).map fun edge => value edge.2).sum =
      ∑ caller ∈ graph.live, graph.flow value caller callee := by
  refine sum_entries value (graph.nodup_callers callee) (fun edge listed => ?_)
    (fun caller listed => ?_) fun caller _ unlisted => ?_
  · exact (flow_of_weight value (consistent.mem_predecessors.mp listed)).symm
  · exact mem_live.mpr (contains_caller (consistent.mem_callers.mp listed))
  · exact flow_of_not_calls value fun edge => unlisted (consistent.mem_callers.mpr edge)

/-! Between sets of nodes. -/

/-- What flows from some nodes to others. -/
def flowBetween (graph : CallGraph α) (value : α → M) (callers callees : Finset Nat) : M :=
  ∑ caller ∈ callers, ∑ callee ∈ callees, graph.flow value caller callee

theorem flowBetween_singleton_left (caller : Nat) (callees : Finset Nat) :
    graph.flowBetween value {caller} callees =
      ∑ callee ∈ callees, graph.flow value caller callee :=
  Finset.sum_singleton ..

theorem flowBetween_singleton_right (callers : Finset Nat) (callee : Nat) :
    graph.flowBetween value callers {callee} =
      ∑ caller ∈ callers, graph.flow value caller callee :=
  Finset.sum_congr rfl fun _ _ => Finset.sum_singleton ..

theorem flowBetween_singletons (caller callee : Nat) :
    graph.flowBetween value {caller} {callee} = graph.flow value caller callee := by
  rw [flowBetween_singleton_left, Finset.sum_singleton]

theorem flowBetween_mono (value : α → Nat) {callers callees callers' callees' : Finset Nat}
    (more : callers ⊆ callers') (more' : callees ⊆ callees') :
    graph.flowBetween value callers callees ≤ graph.flowBetween value callers' callees' :=
  (Finset.sum_le_sum fun _ _ => Finset.sum_le_sum_of_subset more').trans
    (Finset.sum_le_sum_of_subset more)

end ProfileGraph.CallGraph

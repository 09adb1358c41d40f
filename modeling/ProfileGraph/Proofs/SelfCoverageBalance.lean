import ProfileGraph.Proofs.ExactFlow
import ProfileGraph.Proofs.Removals

/-! Pruning agrees with the correction on what self coverage is: the samples
that a node receives and does not pass on. The two rules for what a caller takes
over, one for self coverage and one for weights, are written apart; without
rounding they fit together, because the part of a removed node that stays with
it and the part that it passes on make up what it receives. -/
namespace ProfileGraph

/-- Exact rationals that are never rounded. -/
structure Unrounded where
  value : Rat
deriving DecidableEq

namespace Unrounded

instance : Add Unrounded := ⟨fun x y => ⟨x.value + y.value⟩⟩
instance : Sub Unrounded := ⟨fun x y => ⟨x.value - y.value⟩⟩
instance : Mul Unrounded := ⟨fun x y => ⟨x.value * y.value⟩⟩
instance : Div Unrounded := ⟨fun x y => ⟨x.value / y.value⟩⟩

instance : Quantity Unrounded where
  zero := ⟨0⟩
  emptySum := ⟨0⟩
  ofCount n := ⟨n⟩
  ofReading x := ⟨x.toRat?.getD 0⟩
  isZero x := x.value == 0
  isNegative x := x.value < 0
  le x y := x.value ≤ y.value
  roundTo _ x := x
  truncate x := ⟨Quantity.truncate x.value⟩

theorem exact : Quantity.Exact value id where
  zero := rfl
  emptySum := rfl
  add _ _ := rfl
  mul _ _ := rfl
  div _ _ := rfl
  isZero _ := beq_iff_eq
  roundTo_two _ := rfl
  round_zero := rfl

end Unrounded

namespace CallGraph
open Unrounded (exact)

variable {graph result : CallGraph Unrounded} {handle : Nat} {node : Node Unrounded}

/-! One removal. -/

section Removal
variable (consistent : graph.Consistent) (held : graph.node? handle = some node)
  (loopless : ¬ graph.Calls handle handle)
  (ran : graph.removeAndBridge handle node = ⟨result, .ok ()⟩)
  (eliminated : graph.Eliminated handle result)

include consistent held loopless ran eliminated

theorem Consistent.inWeight_removeAndBridge (received : (graph.inWeight handle).value ≠ 0)
    {other : Nat} (different : other ≠ handle) :
    (result.inWeight other).value = (graph.inWeight other).value :=
  consistent.value_inWeight_of_unrounded exact (contains_iff_node.mpr ⟨node, held⟩) loopless
    eliminated received fun _ first => consistent.flow_removeAndBridge exact ran first different

/-- A caller passes on what the removed node passed on of what it got from it. -/
theorem Consistent.outWeight_removeAndBridge {other : Nat} (different : other ≠ handle) :
    (result.outWeight other).value = (graph.outWeight other).value -
      graph.flow Unrounded.value other handle + graph.flow Unrounded.value other handle *
        ((graph.outWeight handle).value / (graph.inWeight handle).value) := by
  have live := contains_iff_node.mpr ⟨node, held⟩
  have itself := flow_of_not_calls Unrounded.value loopless
  have flows : ∀ callee ∈ result.live, result.flow Unrounded.value other callee =
      graph.flow Unrounded.value other callee + graph.flow Unrounded.value other handle *
        (graph.flow Unrounded.value handle callee / (graph.inWeight handle).value) := by
    intro callee left
    have last := ((eliminated.contains_iff callee).mp (mem_live.mp left)).2
    exact consistent.flow_removeAndBridge exact ran different last
  rw [eliminated.consistent.value_outWeight exact, Finset.sum_congr rfl flows,
    eliminated.sum_live live, Finset.sum_add_distrib, ← Finset.mul_sum, ← Finset.sum_div,
    ← consistent.value_outWeight exact, ← consistent.value_outWeight exact, itself]
  ring

omit held loopless eliminated in
/-- A caller takes over its share of the self coverage. -/
theorem Consistent.selfCoverage_removeAndBridge {other : Nat} (different : other ≠ handle)
    {after : Node Unrounded} (left : result.node? other = some after) :
    ∃ before, graph.node? other = some before ∧
      after.selfCoverage.value = before.selfCoverage.value + node.selfCoverage.value *
        (graph.flow Unrounded.value other handle / (graph.inWeight handle).value) := by
  rcases consistent.node_removeAndBridge_cases ran different left with
    ⟨absent, held⟩ | ⟨received, before, inward, held, rfl⟩
  · refine ⟨after, held, ?_⟩
    rw [flow_of_not_calls Unrounded.value (not_calls_of_none absent)]
    ring
  · refine ⟨before, held, ?_⟩
    rw [flow_of_weight Unrounded.value inward]
    rfl

end Removal

/-! Balance. -/

/-- The self coverage of every node that receives samples is the part of all
samples that it receives and does not pass on. -/
def Balanced (graph : CallGraph Unrounded) : Prop :=
  ∀ handle node, graph.node? handle = some node → 0 < (graph.inWeight handle).value →
    node.selfCoverage.value = 100 * ((graph.inWeight handle).value -
      (graph.outWeight handle).value) / graph.totalSamples

/-- Nothing flows backwards. -/
def Nonnegative (graph : CallGraph Unrounded) : Prop :=
  ∀ caller callee, 0 ≤ graph.flow Unrounded.value caller callee

theorem Nonnegative.inWeight (nonnegative : graph.Nonnegative) (consistent : graph.Consistent)
    (handle : Nat) : 0 ≤ (graph.inWeight handle).value := by
  rw [consistent.value_inWeight exact]
  exact Finset.sum_nonneg fun caller _ => nonnegative caller handle

theorem Nonnegative.eliminate (nonnegative : graph.Nonnegative) (consistent : graph.Consistent)
    (ran : graph.removeAndBridge handle node = ⟨result, .ok ()⟩)
    (eliminated : graph.Eliminated handle result) : result.Nonnegative := by
  intro caller callee
  by_cases edge : result.Calls caller callee
  · obtain ⟨first, last, _⟩ := (eliminated.calls_iff caller callee).mp edge
    rw [consistent.flow_removeAndBridge exact ran first last]
    exact add_nonneg (nonnegative caller callee) (mul_nonneg (nonnegative caller handle)
      (div_nonneg (nonnegative handle callee) (nonnegative.inWeight consistent handle)))
  · rw [flow_of_not_calls Unrounded.value edge]

theorem Balanced.eliminate (balanced : graph.Balanced) (nonnegative : graph.Nonnegative)
    (consistent : graph.Consistent) (held : graph.node? handle = some node)
    (inner : ¬ graph.isRoot handle) (loopless : ¬ graph.Calls handle handle)
    (ran : graph.removeAndBridge handle node = ⟨result, .ok ()⟩)
    (eliminated : graph.Eliminated handle result) : result.Balanced := by
  intro other after left receives
  have different := ((eliminated.contains_iff other).mp (contains_iff_node.mpr ⟨after, left⟩)).2
  have received : (graph.inWeight handle).value ≠ 0 := fun none =>
    inner ((isRoot_iff exact).mpr none)
  have positive := lt_of_le_of_ne (nonnegative.inWeight consistent handle) received.symm
  obtain ⟨before, there, credited⟩ :=
    consistent.selfCoverage_removeAndBridge ran different left
  rw [consistent.inWeight_removeAndBridge held loopless ran eliminated received different]
    at receives ⊢
  rw [credited, balanced other before there receives, balanced handle node held positive,
    consistent.outWeight_removeAndBridge held loopless ran eliminated different,
    eliminated.totalSamples]
  -- The caller's share of `in - out` is what its own `in - out` has grown by.
  field_simp
  ring

theorem Removals.balanced {removed order : List Nat} (removals : graph.Removals removed result)
    (consistent : graph.Consistent) (forward : graph.Forward order)
    (nonnegative : graph.Nonnegative) (balanced : graph.Balanced) : result.Balanced := by
  induction removals with
  | done => exact balanced
  | @next graph _ _ handle _ _ held inner ran eliminated _ ih =>
    exact ih eliminated.consistent (eliminated.forward forward)
      (nonnegative.eliminate consistent ran eliminated)
      (balanced.eliminate nonnegative consistent held inner (forward.loopless handle) ran eliminated)

/-- Without rounding, pruning an acyclic graph in which self coverage is the part
of the samples that a node receives and does not pass on leaves such a graph. -/
theorem Reachable.prune_balances (reachable : graph.Reachable) (acyclic : graph.Acyclic)
    (nonnegative : ∀ caller callee weight,
      graph.edgeWeight? caller callee = some weight → 0 ≤ weight.value)
    (balanced : graph.Balanced) :
    ∃ report result, graph.prune .retain = ⟨result, .ok report⟩ ∧
      result.totalSamples = graph.totalSamples ∧ result.Balanced := by
  have consistent := reachable.consistent
  obtain ⟨order, report, result, topological, ran, run⟩ := consistent.prune_retain acyclic
  obtain ⟨_, _, removals, _⟩ := run.removals
  have flows : graph.Nonnegative := by
    intro caller callee
    cases held : graph.edgeWeight? caller callee with
    | none => rw [flow, held, Option.map_none, Option.getD_none]
    | some weight =>
      rw [flow_of_weight Unrounded.value held]
      exact nonnegative caller callee weight held
  exact ⟨report, result, ran, (removals.pruned (.refl consistent)).totalSamples,
    removals.balanced consistent topological.forward flows balanced⟩

/-- A function and a helper of its own on the way to an instrumented one. -/
def relay : CallGraph Unrounded :=
  (empty "!").performAll [
    .declare "N1" "main!" ⟨10⟩ ⟨100⟩, .declare "N2" "parse" ⟨10⟩ ⟨90⟩,
    .declare "N3" "scan" ⟨10⟩ ⟨60⟩, .declare "N4" "leaf!" ⟨70⟩ ⟨70⟩, .sample 100,
    .connect "N1" "N2" 90, .connect "N2" "N3" 60, .connect "N2" "N4" 20, .connect "N3" "N4" 50]

theorem relay_prune_balances :
    ∃ report result, relay.prune .retain = ⟨result, .ok report⟩ ∧
      result.totalSamples = relay.totalSamples ∧ result.Balanced := by
  have reachable : relay.Reachable := (Reachable.fresh "!").performAll _
  have acyclic : relay.Acyclic :=
    reachable.consistent.findCycle_eq_none_iff.mp (by decide +kernel)
  have weights : ∀ edge ∈ relay.edges, 0 ≤ edge.2.2.value := by decide +kernel
  have nodes : ∀ handle ∈ relay.handles, ∀ node ∈ relay.node? handle,
      0 < (relay.inWeight handle).value →
      node.selfCoverage.value = 100 * ((relay.inWeight handle).value -
        (relay.outWeight handle).value) / relay.totalSamples := by decide +kernel
  exact reachable.prune_balances acyclic
    (fun caller callee weight held => weights (caller, callee, weight) (mem_edges.mpr held))
    fun handle node held => nodes handle (mem_handles.mpr (contains_iff_node.mpr ⟨node, held⟩))
      node held

end CallGraph
end ProfileGraph

import Mathlib.Algebra.BigOperators.Field
import Mathlib.Tactic.FieldSimp
import Mathlib.Tactic.Ring
import ProfileGraph.Proofs.BridgedWeights

/-! Removals in exact arithmetic. A quantity is read as a rational, and all
arithmetic but rounding is that of the rationals. The weight that a node
receives is then a column sum of flows and the weight that it passes on a row
sum, and a removal changes each flow by one term. -/
namespace ProfileGraph

/-- Quantities that stand for rationals. Rounding to two places may round in any
way that leaves zero alone. -/
structure Quantity.Exact {α : Type} [Quantity α] (value : α → Rat) (round : Rat → Rat) : Prop where
  zero : value Quantity.zero = 0
  emptySum : value Quantity.emptySum = 0
  add : ∀ x y : α, value (x + y) = value x + value y
  mul : ∀ x y : α, value (x * y) = value x * value y
  div : ∀ x y : α, value (x / y) = value x / value y
  isZero : ∀ x : α, Quantity.isZero x = true ↔ value x = 0
  roundTo_two : ∀ x : α, value (Quantity.roundTo 2 x) = round (value x)
  round_zero : round 0 = 0

open Quantity (Exact)

section Reading
variable {α : Type} [Quantity α] {value : α → Rat} {round : Rat → Rat}

theorem Quantity.Exact.value_sum (exact : Exact value round) (terms : List α) :
    value (Quantity.sum terms) = (terms.map value).sum := by
  have counted : ∀ start : α, value (terms.foldl (· + ·) start) =
      value start + (terms.map value).sum := by
    induction terms with
    | nil => simp
    | cons term later ih =>
      intro start
      rw [List.foldl_cons, ih, exact.add, List.map_cons, List.sum_cons, add_assoc]
  rw [Quantity.sum, counted, exact.emptySum, zero_add]

namespace CallGraph
variable {graph result : CallGraph α} {handle : Nat} {node : Node α}

theorem Consistent.value_inWeight (consistent : graph.Consistent) (exact : Exact value round)
    (handle : Nat) :
    value (graph.inWeight handle) = ∑ caller ∈ graph.live, graph.flow value caller handle := by
  rw [inWeight, exact.value_sum, List.map_map, ← consistent.sum_callers]
  rfl

theorem Consistent.value_outWeight (consistent : graph.Consistent) (exact : Exact value round)
    (handle : Nat) :
    value (graph.outWeight handle) = ∑ callee ∈ graph.live, graph.flow value handle callee := by
  rw [outWeight, exact.value_sum, List.map_map, ← consistent.sum_callees]
  rfl

/-- A root receives nothing, in exact arithmetic. -/
theorem isRoot_iff (exact : Exact value round) :
    graph.isRoot handle ↔ value (graph.inWeight handle) = 0 :=
  exact.isZero _

/-- A removal adds to each flow the part that flowed through the node. -/
theorem Consistent.flow_removeAndBridge (consistent : graph.Consistent)
    (exact : Exact value round) (ran : graph.removeAndBridge handle node = ⟨result, .ok ()⟩)
    {caller callee : Nat} (first : caller ≠ handle) (last : callee ≠ handle) :
    result.flow value caller callee = graph.flow value caller callee +
      round (graph.flow value caller handle *
        (graph.flow value handle callee / value (graph.inWeight handle))) := by
  cases inward : graph.edgeWeight? caller handle with
  | none =>
    have uncalled := not_calls_of_none inward
    rw [flow_congr value (consistent.edgeWeight_removeAndBridge_of_unbridged ran first last
      fun through => uncalled through.1), flow_of_not_calls value uncalled, zero_mul,
      exact.round_zero, add_zero]
  | some received =>
    cases outward : graph.edgeWeight? handle callee with
    | none =>
      have uncalled := not_calls_of_none outward
      rw [flow_congr value (consistent.edgeWeight_removeAndBridge_of_unbridged ran first last
        fun through => uncalled through.2), flow_of_not_calls value uncalled, zero_div, mul_zero,
        exact.round_zero, add_zero]
    | some passedOn =>
      have before : value ((graph.edgeWeight? caller callee).getD Quantity.zero) =
          graph.flow value caller callee := by
        rw [flow]
        cases graph.edgeWeight? caller callee with
        | none => exact exact.zero
        | some weight => rfl
      rw [flow_of_weight value (consistent.edgeWeight_removeAndBridge_of_bridged ran first last
        inward outward), exact.add, exact.roundTo_two, exact.mul, exact.div, before,
        flow_of_weight value inward, flow_of_weight value outward]

/-- The nodes that are left are the others. -/
theorem Eliminated.live_eq (eliminated : graph.Eliminated handle result) :
    result.live = graph.live.erase handle := by
  ext other
  rw [mem_live, eliminated.contains_iff, Finset.mem_erase, mem_live, and_comm]

theorem Eliminated.sum_live (eliminated : graph.Eliminated handle result)
    (live : graph.contains handle) (entry : Nat → Rat) :
    ∑ other ∈ result.live, entry other = (∑ other ∈ graph.live, entry other) - entry handle := by
  rw [eliminated.live_eq, Finset.sum_erase_eq_sub (mem_live.mpr live)]

/-- What a node receives changes by all that its flows change beyond the parts that
flowed through the removed node: those make up for what it received from that. -/
theorem Consistent.value_inWeight_of_excess (consistent : graph.Consistent)
    (exact : Exact value round) (live : graph.contains handle)
    (loopless : ¬ graph.Calls handle handle) (eliminated : graph.Eliminated handle result)
    (received : value (graph.inWeight handle) ≠ 0) {other : Nat} (excess : Nat → Rat)
    (exceeds : ∀ caller, caller ≠ handle → result.flow value caller other =
      graph.flow value caller other + graph.flow value caller handle *
        (graph.flow value handle other / value (graph.inWeight handle)) + excess caller) :
    value (result.inWeight other) =
      value (graph.inWeight other) + ∑ caller ∈ result.live, excess caller := by
  have flows : ∀ caller ∈ result.live, result.flow value caller other =
      graph.flow value caller other + graph.flow value caller handle *
        (graph.flow value handle other / value (graph.inWeight handle)) + excess caller :=
    fun caller left =>
      exceeds caller ((eliminated.contains_iff caller).mp (mem_live.mp left)).2
  rw [eliminated.consistent.value_inWeight exact, Finset.sum_congr rfl flows,
    Finset.sum_add_distrib, eliminated.sum_live live, Finset.sum_add_distrib, ← Finset.sum_mul,
    ← consistent.value_inWeight exact, ← consistent.value_inWeight exact,
    flow_of_not_calls value loopless]
  field_simp
  ring

/-- If no rounding takes place, what a node received from the removed one it
receives from the callers of that. -/
theorem Consistent.value_inWeight_of_unrounded (consistent : graph.Consistent)
    (exact : Exact value round) (live : graph.contains handle)
    (loopless : ¬ graph.Calls handle handle) (eliminated : graph.Eliminated handle result)
    (received : value (graph.inWeight handle) ≠ 0) {other : Nat}
    (unrounded : ∀ caller, caller ≠ handle → result.flow value caller other =
      graph.flow value caller other + graph.flow value caller handle *
        (graph.flow value handle other / value (graph.inWeight handle))) :
    value (result.inWeight other) = value (graph.inWeight other) := by
  have total := consistent.value_inWeight_of_excess exact live loopless eliminated received
    (fun _ => 0) fun caller first => (unrounded caller first).trans (add_zero _).symm
  rw [total, Finset.sum_const_zero, add_zero]

end CallGraph
end Reading
end ProfileGraph

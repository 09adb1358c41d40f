import ProfileGraph.Proofs.Histories
import ProfileGraph.Proofs.Ordering

/-! Ordering as a loop without a bound, whose counts of pending callers may not
go below zero: lowering a count that is zero already stops the loop. In a graph
both of whose copies of every edge agree that never comes about. A node is
placed once, its callees are different nodes, and each of them has counted it
as a caller that is still to come. The loop ends with what the bounded ordering
computes. -/
namespace ProfileGraph.CallGraph

variable {α : Type} {graph : CallGraph α}

/-- Lowers the count of a live node, unless it is zero. -/
def release? (graph : CallGraph α) (state : Placement) (handle : Nat) : Option Placement :=
  if graph.contains handle then
    if state.pending.getD handle 0 = 0 then none else some (state.release handle)
  else some state

/-- Places a node and lowers the counts of its callees one after the other. -/
def placeNext? (graph : CallGraph α) (state : Placement) (handle : Nat) (ready : List Nat) :
    Option Placement :=
  (graph.successors handle).foldlM (fun state (callee, _) => graph.release? state callee)
    { state with ready, placed := handle :: state.placed }

/-- The loop comes from one state to its end: the state in which no node is
ready any more, or none if a count would have gone below zero. -/
inductive Orders (graph : CallGraph α) : Placement → Option Placement → Prop
  | finished {state : Placement} (idle : state.ready = []) : graph.Orders state (some state)
  | underflow {state : Placement} {handle : Nat} {ready : List Nat}
      (first : state.ready = handle :: ready) (stopped : graph.placeNext? state handle ready = none) :
      graph.Orders state none
  | onward {state next : Placement} {handle : Nat} {ready : List Nat} {ended : Option Placement}
      (first : state.ready = handle :: ready)
      (placed : graph.placeNext? state handle ready = some next)
      (rest : graph.Orders next ended) : graph.Orders state ended

/-- Counts above zero of different live nodes can be lowered. -/
theorem release_foldlM {handles : List Nat} (distinct : handles.Nodup) (state : Placement)
    (waiting : ∀ handle ∈ handles, graph.contains handle ∧ 0 < state.pending.getD handle 0) :
    handles.foldlM graph.release? state = some (handles.foldl Placement.release state) := by
  induction handles generalizing state with
  | nil => rfl
  | cons handle later ih =>
    obtain ⟨fresh, distinct⟩ := List.nodup_cons.mp distinct
    obtain ⟨live, positive⟩ := waiting handle List.mem_cons_self
    have released : graph.release? state handle = some (state.release handle) := by
      rw [release?, if_pos live, if_neg (Nat.ne_of_gt positive)]
    have laterWaiting : ∀ node ∈ later,
        graph.contains node ∧ 0 < (state.release handle).pending.getD node 0 := by
      intro node member
      have apart : node ∉ [handle] := fun same => fresh (List.mem_singleton.mp same ▸ member)
      have unchanged := (release_foldl (List.nodup_singleton handle) state).2.1 node
      rw [if_neg apart, Nat.sub_zero, List.foldl_cons, List.foldl_nil] at unchanged
      rw [unchanged]
      exact waiting node (List.mem_cons_of_mem handle member)
    rw [List.foldlM_cons, released, List.foldl_cons]
    exact ih distinct _ laterWaiting

/-- A node that is placed is among the callers for which its callees wait. -/
theorem Consistent.placeNext?_eq (consistent : graph.Consistent) {state : Placement} {handle : Nat}
    {ready : List Nat} (placing : graph.Placing state) (first : state.ready = handle :: ready) :
    graph.placeNext? state handle ready = some (graph.placeNext state handle ready) := by
  obtain ⟨_, unplaced, _⟩ := (placing.ready handle).mp (first ▸ List.mem_cons_self)
  have waiting : ∀ callee ∈ (graph.successors handle).map (·.1),
      graph.contains callee ∧ 0 < state.pending.getD callee 0 := by
    intro callee member
    have edge := mem_callees.mp member
    have live := consistent.contains_callee edge
    have counted : handle ∈ graph.callersLeft state.placed callee :=
      consistent.mem_callersLeft.mpr ⟨edge, unplaced⟩
    rw [placing.pending callee live]
    exact ⟨live, List.length_pos_of_mem counted⟩
  have lowered := release_foldlM (graph.nodup_callees handle)
    { state with ready, placed := handle :: state.placed } waiting
  rw [List.foldlM_map, List.foldl_map] at lowered
  exact lowered

theorem orders_idle {state : Placement} (idle : state.ready = []) (ended : Option Placement) :
    graph.Orders state ended ↔ ended = some state := by
  constructor
  · intro orders
    cases orders with
    | finished => rfl
    | underflow first | onward first => cases idle.symm.trans first
  · rintro rfl
    exact .finished idle

theorem orders_turn {state next : Placement} {handle : Nat} {ready : List Nat}
    (first : state.ready = handle :: ready) (placed : graph.placeNext? state handle ready = some next)
    (ended : Option Placement) : graph.Orders state ended ↔ graph.Orders next ended := by
  refine ⟨fun orders => ?_, .onward first placed⟩
  cases orders with
  | finished idle => cases idle.symm.trans first
  | underflow first' stopped =>
    cases first.symm.trans first'
    cases placed.symm.trans stopped
  | onward first' placed' rest =>
    cases first.symm.trans first'
    cases placed.symm.trans placed'
    exact rest

/-- The loop has one end, and the bounded ordering comes to it. -/
theorem Consistent.orders_iff (consistent : graph.Consistent) (fuel : Nat) {state : Placement}
    (placing : graph.Placing state) (enough : graph.nodeCount ≤ state.placed.length + fuel)
    (ended : Option Placement) :
    graph.Orders state ended ↔ ended = some (graph.place fuel state) := by
  induction fuel generalizing state with
  | zero => exact orders_idle (consistent.place_spec 0 placing enough).2 ended
  | succ fuel ih =>
    rw [place]
    split
    next idle => exact orders_idle idle ended
    next handle ready first =>
      have one : (graph.placeNext state handle ready).placed.length = state.placed.length + 1 :=
        congrArg List.length (graph.placed_placeNext state handle ready)
      rw [orders_turn first (consistent.placeNext?_eq placing first)]
      exact ih (consistent.placing_step placing first) (by omega)

/-- The answer that is read off the end of the loop. -/
def orderOf (graph : CallGraph α) (state : Placement) : Except GraphError (List Nat) :=
  if state.placed.length = graph.nodeCount then .ok state.placed.reverse
  else
    let stuck := graph.handles.find? fun handle => 0 < state.pending.getD handle 0
    .error (.cyclic ((stuck.map graph.profilerId).getD ""))

/-- Where ordering is refused, there is a cycle. -/
theorem Consistent.topologicalOrder_ok_iff (consistent : graph.Consistent) :
    (∃ order, graph.topologicalOrder = .ok order) ↔ graph.Acyclic := by
  constructor
  · rintro ⟨order, ordered⟩
    exact (consistent.isTopological_of_topologicalOrder ordered).forward.acyclic
  · intro acyclic
    obtain ⟨order, ordered, _⟩ := consistent.exists_topologicalOrder acyclic
    exact ⟨order, ordered⟩

variable [Quantity α]

/-- In every reachable graph the loop comes to exactly one end, at which no
count has gone below zero and off which the answer is read. It gives an order
exactly if there is no cycle, which is when the search finds none, and then
lists every live node once and every caller before its callees. -/
theorem Reachable.topologicalOrder_decides (reachable : graph.Reachable) :
    (∃ last, (∀ ended, graph.Orders graph.placementStart ended ↔ ended = some last) ∧
        graph.topologicalOrder = graph.orderOf last) ∧
      ((∃ order, graph.topologicalOrder = .ok order) ↔ graph.Acyclic) ∧
      ((∃ order, graph.topologicalOrder = .ok order) ↔ graph.findCycle? = none) ∧
      ∀ order, graph.topologicalOrder = .ok order →
        order.Nodup ∧ (∀ handle, handle ∈ order ↔ graph.contains handle) ∧
          ∀ caller callee, graph.Calls caller callee →
            order.idxOf caller < order.idxOf callee := by
  have consistent := reachable.consistent
  have ends := consistent.orders_iff graph.nodeCount consistent.placing_start (Nat.le_add_left _ _)
  have decides := consistent.topologicalOrder_ok_iff
  refine ⟨⟨_, ends, rfl⟩, decides, decides.trans consistent.findCycle_eq_none_iff.symm, ?_⟩
  intro order ordered
  have topological := consistent.isTopological_of_topologicalOrder ordered
  exact ⟨topological.nodup, topological.mem_iff, topological.forward⟩

/-- Without the node of its self-loop and its cycle the graph is ordered. -/
theorem recursive_topologicalOrder_decides :
    (∀ order, recursive.topologicalOrder ≠ .ok order) ∧
      (recursive.perform (.remove 1)).topologicalOrder = .ok [0, 2, 3] ∧
      (recursive.perform (.remove 1)).Acyclic ∧
      ¬ (recursive.perform (.remove 1)).Orders
        (recursive.perform (.remove 1)).placementStart none := by
  have cyclic : recursive.findCycle? = some [1] := by decide +kernel
  have ordered : (recursive.perform (.remove 1)).topologicalOrder = .ok [0, 2, 3] := by
    decide +kernel
  obtain ⟨_, _, refused, _⟩ := reachable_recursive.topologicalOrder_decides
  obtain ⟨⟨last, ends, _⟩, decides, _⟩ :=
    (reachable_recursive.step (.remove 1)).topologicalOrder_decides
  refine ⟨fun order given => ?_, ordered, decides.mp ⟨_, ordered⟩, fun stopped => ?_⟩
  · cases cyclic.symm.trans (refused.mp ⟨order, given⟩)
  · cases (ends none).mp stopped

end ProfileGraph.CallGraph

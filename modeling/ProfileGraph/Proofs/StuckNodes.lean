import ProfileGraph.Proofs.Countdown
import ProfileGraph.Proofs.Ledger

/-! What is named when an order is refused. Ordering goes on until only nodes are
left that wait for a caller that is left as well. Those are the nodes on cycles
and all the nodes behind them, and the first of them in the order of declaration
is named. It need not lie on a cycle: it may be called from one. -/
namespace ProfileGraph.CallGraph
open Relation

variable {α : Type} {graph : CallGraph α}

theorem BehindCycle.live {handle : Nat} (behind : graph.BehindCycle handle)
    (consistent : graph.Consistent) : graph.contains handle := by
  obtain ⟨member, loop, path⟩ := behind
  rcases path.cases_tail with same | ⟨_, _, edge⟩
  · obtain ⟨_, edge, _⟩ := TransGen.head'_iff.mp loop
    exact same ▸ contains_caller edge
  · exact consistent.contains_callee edge

/-! Placed nodes. -/

theorem CallersBehind.append {later earlier : List Nat}
    (behind : graph.CallersBehind (later ++ earlier)) : graph.CallersBehind earlier := by
  induction later with
  | nil => exact behind
  | cons _ later ih => exact ih behind.2

theorem CallersBehind.mem_of_reaches {placed : List Nat} (behind : graph.CallersBehind placed)
    {first last : Nat} (path : graph.Reaches first last) (member : last ∈ placed) :
    first ∈ placed := by
  induction path using ReflTransGen.head_induction_on with
  | refl => exact member
  | head edge _ inside => exact behind.mem_caller edge inside

/-- No placed node lies on a cycle or behind one. -/
theorem CallersBehind.not_behindCycle {placed : List Nat} (behind : graph.CallersBehind placed)
    (distinct : placed.Nodup) {handle : Nat} (member : handle ∈ placed) :
    ¬ graph.BehindCycle handle := by
  rintro ⟨closing, loop, path⟩
  obtain ⟨later, earlier, rfl⟩ := List.append_of_mem (behind.mem_of_reaches path member)
  obtain ⟨caller, back, edge⟩ := TransGen.tail'_iff.mp loop
  -- Whatever leads to the node stands behind it, so the node would stand behind itself.
  have again : closing ∈ earlier := behind.append.2.mem_of_reaches back (behind.of_append _ edge)
  exact (List.nodup_cons.mp (List.nodup_append.mp distinct).2.1).1 again

/-- In the end, the nodes that still wait are those on cycles and behind them. -/
theorem Consistent.waiting_iff (consistent : graph.Consistent) {state : Placement}
    (placing : graph.Placing state) (finished : state.ready = []) {handle : Nat}
    (live : graph.contains handle) :
    0 < state.pending.getD handle 0 ↔ graph.BehindCycle handle := by
  have distinct := (List.nodup_append.mp placing.nodup).2.1
  rw [placing.pending handle live, List.length_pos_iff, ne_eq, consistent.callersLeft_eq_nil_iff]
  constructor
  · intro waits
    refine Classical.byContradiction fun ahead => waits fun caller edge => ?_
    exact placing.behind.mem_caller edge (placing.mem_placed finished live ahead)
  · intro behind callersPlaced
    have unplaced : handle ∉ state.placed := fun member =>
      placing.behind.not_behindCycle distinct member behind
    have ready := (placing.ready handle).mpr ⟨live, unplaced, callersPlaced⟩
    exact absurd (finished ▸ ready) List.not_mem_nil

/-! The node that is named. -/

/-- The first node on a cycle or behind one. -/
def FirstBehindCycle (graph : CallGraph α) (handle : Nat) : Prop :=
  graph.BehindCycle handle ∧ ∀ other, graph.BehindCycle other → handle ≤ other

theorem FirstBehindCycle.unique {first second : Nat} (left : graph.FirstBehindCycle first)
    (right : graph.FirstBehindCycle second) : first = second :=
  Nat.le_antisymm (left.2 second right.1) (right.2 first left.1)

/-- An order is refused with the first node on a cycle or behind one. -/
theorem Consistent.topologicalOrder_refused (consistent : graph.Consistent) {error : GraphError}
    (refused : graph.topologicalOrder = .error error) :
    ∃ handle, graph.FirstBehindCycle handle ∧ error = .cyclic (graph.profilerId handle) := by
  obtain ⟨placing, finished⟩ := consistent.place_spec graph.nodeCount consistent.placing_start
    (Nat.le_add_left _ _)
  have waiting {handle : Nat} (live : graph.contains handle) :=
    consistent.waiting_iff placing finished live
  obtain ⟨member, loop⟩ : ∃ member, TransGen graph.Calls member member := by
    refine Classical.byContradiction fun none => ?_
    obtain ⟨order, ordered⟩ := consistent.topologicalOrder_ok_iff.mpr (not_exists.mp none)
    cases refused.symm.trans ordered
  have behind : graph.BehindCycle member := ⟨member, loop, .refl⟩
  rw [topologicalOrder] at refused
  dsimp only at refused
  split at refused
  next => cases refused
  next =>
    cases found : graph.handles.find? fun handle =>
        0 < (graph.place graph.nodeCount graph.placementStart).pending.getD handle 0 with
    | none =>
      have live := behind.live consistent
      have idle := List.find?_eq_none.mp found member (mem_handles.mpr live)
      exact absurd ((waiting live).mpr behind) (by simpa using idle)
    | some handle =>
      have waits := List.find?_some found
      have live : graph.contains handle := mem_handles.mp (List.mem_of_find?_eq_some found)
      refine ⟨handle, ⟨(waiting live).mp (by simpa using waits), fun other behind => ?_⟩, ?_⟩
      · have otherLive := behind.live consistent
        have otherWaits := (waiting otherLive).mpr behind
        exact le_of_find_handles found (mem_handles.mpr otherLive) (by simpa using otherWaits)
      · rw [found] at refused
        cases refused
        rfl

theorem Consistent.topologicalOrder_cyclic_iff (consistent : graph.Consistent) (id : String) :
    graph.topologicalOrder = .error (.cyclic id) ↔
      ∃ handle, graph.idAt? handle = some id ∧ graph.FirstBehindCycle handle := by
  constructor
  · intro refused
    obtain ⟨handle, first, named⟩ := consistent.topologicalOrder_refused refused
    cases named
    exact ⟨handle, idAt_of_contains (first.1.live consistent), first⟩
  · rintro ⟨handle, held, first⟩
    cases ended : graph.topologicalOrder with
    | ok order =>
      obtain ⟨member, loop, _⟩ := first.1
      exact absurd loop (consistent.topologicalOrder_ok_iff.mp ⟨order, ended⟩ member)
    | error error =>
      obtain ⟨other, firstToo, rfl⟩ := consistent.topologicalOrder_refused ended
      rw [← first.unique firstToo, profilerId_eq held]

/-! The passes along an order. -/

variable [Quantity α]

theorem fixSelfCoverage_cyclic_iff (id : String) :
    graph.fixSelfCoverage = .error (.cyclic id) ↔ graph.topologicalOrder = .error (.cyclic id) := by
  rw [fixSelfCoverage]
  cases graph.topologicalOrder with
  | error error => simp
  | ok order =>
    dsimp only
    split <;> simp

theorem Consistent.prune_cyclic_iff (consistent : graph.Consistent) (policy : RootPolicy)
    (id : String) : (graph.prune policy).outcome = .error (.cyclic id) ↔
      graph.topologicalOrder = .error (.cyclic id) := by
  rw [CallGraph.prune]
  cases graph.topologicalOrder with
  | error error => simp
  | ok order =>
    dsimp only
    rcases (consistent.pruneAlong_run policy {} order).outcome with ⟨_, ended⟩ | ⟨_, _, ended⟩
    · simp [ended]
    · simp [ended]

/-- In a reachable graph, an order is refused exactly with the id of the first
node on a cycle or behind one, and so are the passes that need an order. That node
lies on a cycle exactly if no node behind a cycle is declared before all the nodes
on cycles. -/
theorem Reachable.topologicalOrder_names (reachable : graph.Reachable) (id : String) :
    (graph.topologicalOrder = .error (.cyclic id) ↔
      ∃ handle, graph.idAt? handle = some id ∧ graph.FirstBehindCycle handle) ∧
    (graph.fixSelfCoverage = .error (.cyclic id) ↔
      graph.topologicalOrder = .error (.cyclic id)) ∧
    (∀ policy, (graph.prune policy).outcome = .error (.cyclic id) ↔
      graph.topologicalOrder = .error (.cyclic id)) ∧
    (graph.topologicalOrder = .error (.cyclic id) →
      ((∃ handle, graph.idAt? handle = some id ∧ TransGen graph.Calls handle handle) ↔
        ∀ behind, graph.BehindCycle behind →
          ∃ member, member ≤ behind ∧ TransGen graph.Calls member member)) := by
  have consistent := reachable.consistent
  obtain ⟨declared, registered⟩ := reachable.registered
  refine ⟨consistent.topologicalOrder_cyclic_iff id, fixSelfCoverage_cyclic_iff id,
    fun policy => consistent.prune_cyclic_iff policy id, fun refused => ?_⟩
  obtain ⟨first, held, behind, least⟩ := (consistent.topologicalOrder_cyclic_iff id).mp refused
  constructor
  · rintro ⟨handle, heldToo, loop⟩
    have same : handle = first := registered.handle_eq (registered.declared_eq heldToo)
      (registered.declared_eq held)
    exact fun other otherBehind => ⟨handle, same ▸ least other otherBehind, loop⟩
  · intro declaredLate
    obtain ⟨member, early, loop⟩ := declaredLate first behind
    have same : first = member := Nat.le_antisymm (least member ⟨member, loop, .refl⟩) early
    exact ⟨first, held, same ▸ loop⟩

/-- A function that is declared before the recursion from which it is called. -/
def downstream : CallGraph Binary64 :=
  (empty "!").performAll [
    .declare "N1" "leaf!" (.ofNat 50) (.ofNat 50), .declare "N2" "visit" (.ofNat 50) (.ofNat 100),
    .sample 100, .connect "N2" "N2" 7, .connect "N2" "N1" 50]

theorem reachable_downstream : downstream.Reachable := (Reachable.fresh "!").performAll _

theorem downstream_topologicalOrder_names :
    downstream.topologicalOrder = .error (.cyclic "N1") ∧
      (∃ handle, downstream.idAt? handle = some "N1" ∧ downstream.FirstBehindCycle handle) ∧
      downstream.fixSelfCoverage = .error (.cyclic "N1") ∧
      (downstream.prune .retain).outcome = .error (.cyclic "N1") := by
  have refused : downstream.topologicalOrder = .error (.cyclic "N1") := by decide +kernel
  obtain ⟨names, corrects, prunes, _⟩ := reachable_downstream.topologicalOrder_names "N1"
  exact ⟨refused, names.mp refused, corrects.mpr refused, (prunes .retain).mpr refused⟩

/-- The error speaks of a cycle through a node that calls nothing. -/
theorem downstream_names_no_cycle :
    downstream.topologicalOrder = .error (.cyclic "N1") ∧
      (GraphError.cyclic "N1").message = "Graph still contains a cycle through N1" ∧
      ¬ ∃ handle, downstream.idAt? handle = some "N1" ∧
        TransGen downstream.Calls handle handle := by
  refine ⟨by decide +kernel, by decide +kernel, ?_⟩
  rintro ⟨handle, held, loop⟩
  obtain ⟨callee, edge, _⟩ := TransGen.head'_iff.mp loop
  have listed : (handle, callee) ∈ downstream.edges.map fun edge => (edge.1, edge.2.1) := by
    obtain ⟨weight, there⟩ := Option.isSome_iff_exists.mp edge
    exact List.mem_map_of_mem (f := fun edge => (edge.1, edge.2.1)) (mem_edges.mpr there)
  have edges : (downstream.edges.map fun edge => (edge.1, edge.2.1)) = [(1, 0), (1, 1)] := by
    decide +kernel
  have caller : handle = 1 := by
    rw [edges] at listed
    simp only [List.mem_cons, Prod.mk.injEq, List.not_mem_nil, or_false] at listed
    omega
  have named : downstream.idAt? 1 = some "N2" := by decide +kernel
  rw [caller, named] at held
  exact absurd held (by decide)

end ProfileGraph.CallGraph

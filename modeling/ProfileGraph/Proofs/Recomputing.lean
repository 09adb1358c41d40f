import ProfileGraph.Proofs.Histories
import ProfileGraph.Proofs.Moments

/-! Correction of self coverage as a whole. It runs in two phases: first it goes along
the order and notes a value for every node that receives weight, or stops for want of
samples, and then it writes what it noted. It reads edges, samples and profiler ids and
it writes self coverages, so nothing that it reads changes. A second correction finds
the same values and writes them once more. -/
namespace ProfileGraph.CallGraph

variable {α : Type} {graph left right : CallGraph α}

/-- Graphs with as many slots and equal slots have the same array of slots. -/
theorem slots_ext (size : left.slots.size = right.slots.size)
    (same : ∀ handle, left.slot? handle = right.slot? handle) : left.slots = right.slots := by
  refine Array.ext size fun handle inLeft inRight => ?_
  simpa [slot?, inLeft, inRight] using same handle

/-! What correction reads. -/

/-- Graphs that differ at most in what their nodes say besides their profiler ids. -/
structure SameLinks (left right : CallGraph α) : Prop where
  size : left.slots.size = right.slots.size
  successors : ∀ handle, left.successors handle = right.successors handle
  predecessors : ∀ handle, left.predecessors handle = right.predecessors handle
  contains : ∀ handle, left.contains handle = right.contains handle
  profilerId : ∀ handle, left.profilerId handle = right.profilerId handle
  samples : left.totalSamples = right.totalSamples

namespace SameLinks
variable (same : left.SameLinks right)
include same

theorem handles_eq : left.handles = right.handles := by
  rw [handles, same.size, handles]
  exact List.filter_congr fun handle _ => same.contains handle

theorem place_eq (fuel : Nat) (state : Placement) :
    left.place fuel state = right.place fuel state := by
  induction fuel generalizing state with
  | zero => rfl
  | succ fuel ih =>
    rw [place, place]
    cases state.ready with
    | nil => rfl
    | cons handle ready => simp only [ih, same.successors]

theorem topologicalOrder_eq : left.topologicalOrder = right.topologicalOrder := by
  have start : left.placementStart = right.placementStart := by
    simp only [placementStart, same.size, same.predecessors, same.handles_eq]
  have named : left.profilerId = right.profilerId := funext same.profilerId
  simp [topologicalOrder, nodeCount, same.handles_eq, start, same.place_eq, named]

theorem isRoot_eq [Quantity α] (handle : Nat) : left.isRoot handle = right.isRoot handle := by
  rw [isRoot, inWeight, same.predecessors, isRoot, inWeight]

theorem retainedCoverage_eq [Quantity α] (handle : Nat) :
    left.retainedCoverage handle = right.retainedCoverage handle := by
  simp only [retainedCoverage, inWeight, outWeight, same.predecessors, same.successors,
    same.samples]

end SameLinks

variable [Quantity α]

/-! The two phases. -/

/-- What the first phase has noted. -/
structure Noted (α : Type) where
  /-- The nodes to write to, with their values. -/
  updates : List (Nat × α) := []
  rootsSkipped : Nat := 0
  clamped : List String := []

/-- The first phase: finds a value for each node that receives weight. Nothing is
written. -/
def noteAlong (graph : CallGraph α) (noted : Noted α) : List Nat → Except GraphError (Noted α)
  | [] => .ok noted
  | handle :: later =>
    if graph.isRoot handle then
      graph.noteAlong { noted with rootsSkipped := noted.rootsSkipped + 1 } later
    else if graph.totalSamples = 0 then .error .noSamples
    else
      let value := graph.retainedCoverage handle
      if Quantity.isNegative value then
        graph.noteAlong { noted with
          updates := noted.updates ++ [(handle, Quantity.zero)]
          clamped := noted.clamped ++ [graph.profilerId handle] } later
      else graph.noteAlong { noted with updates := noted.updates ++ [(handle, value)] } later

/-- The second phase: writes the noted values and counts the nodes written to. -/
def writeNoted : List (Nat × α) → Nat → CallGraph α → Nat × CallGraph α
  | [], updated, graph => (updated, graph)
  | (handle, value) :: later, updated, graph =>
    match graph.node? handle with
    | none => writeNoted later updated graph
    | some _ => writeNoted later (updated + 1)
        (graph.modifyNode handle fun node => { node with selfCoverage := value })

/-- Correction in two phases. -/
def correctInPhases (graph : CallGraph α) :
    Except GraphError (CorrectionReport × CallGraph α) :=
  match graph.topologicalOrder with
  | .error error => .error error
  | .ok order =>
    match graph.noteAlong {} order with
    | .error error => .error error
    | .ok noted =>
      let (updated, corrected) := writeNoted noted.updates 0 graph
      .ok (⟨updated, noted.rootsSkipped, noted.clamped⟩, corrected)

/-- The nodes of a list that receive weight. -/
def inner (graph : CallGraph α) (order : List Nat) : List Nat :=
  order.filter fun handle => !graph.isRoot handle

/-- The first phase stops at the first node that receives weight, or notes them all. -/
theorem noteAlong_eq (order : List Nat) (noted : Noted α) :
    graph.noteAlong noted order =
      if graph.totalSamples = 0 ∧ graph.inner order ≠ [] then .error .noSamples
      else .ok {
        updates := noted.updates ++
          (graph.inner order).map fun handle => (handle, graph.impliedSelfCoverage handle)
        rootsSkipped := noted.rootsSkipped + (order.length - (graph.inner order).length)
        clamped := noted.clamped ++ ((graph.inner order).filter fun handle =>
          Quantity.isNegative (graph.retainedCoverage handle)).map graph.profilerId } := by
  induction order generalizing noted with
  | nil => simp [noteAlong, inner]
  | cons handle later ih =>
    have shorter : (graph.inner later).length ≤ later.length := List.length_filter_le ..
    by_cases root : graph.isRoot handle
    · have skipped : graph.inner (handle :: later) = graph.inner later :=
        List.filter_cons_of_neg (by simp [root])
      rw [noteAlong, if_pos root, ih, skipped, List.length_cons]
      simp only [Nat.add_assoc, Nat.add_comm 1, Nat.sub_add_comm shorter]
    · have listed : graph.inner (handle :: later) = handle :: graph.inner later :=
        List.filter_cons_of_pos (by simp [root])
      rw [noteAlong, if_neg root, listed]
      by_cases lack : graph.totalSamples = 0
      · rw [if_pos lack, if_pos ⟨lack, List.cons_ne_nil _ _⟩]
      · by_cases negative : Quantity.isNegative (graph.retainedCoverage handle)
        · simp [ih, lack, negative, impliedSelfCoverage]
        · simp [ih, lack, negative, impliedSelfCoverage]

/-- The second phase writes to every noted node that is there. -/
theorem writeNoted_eq {handles : List Nat} {corrected : CallGraph α} (updated : Nat)
    (live : ∀ handle ∈ handles, corrected.contains handle) :
    writeNoted (handles.map fun handle => (handle, graph.impliedSelfCoverage handle)) updated
        corrected = (updated + handles.length, handles.foldl graph.correctNode corrected) := by
  induction handles generalizing updated corrected with
  | nil => rfl
  | cons handle later ih =>
    obtain ⟨first, live⟩ := List.forall_mem_cons.mp live
    obtain ⟨node, held⟩ := contains_iff_node.mp first
    rw [List.map_cons, writeNoted, held, List.foldl_cons, List.length_cons]
    have after := @ih (graph.correctNode corrected handle) (updated + 1) fun other member => by
      rw [correctNode, contains_modifyNode]
      exact live other member
    rw [Nat.add_right_comm] at after
    exact after

/-- Both phases together are correction. -/
theorem Consistent.correctInPhases_eq (consistent : graph.Consistent) :
    graph.correctInPhases = graph.fixSelfCoverage := by
  rw [correctInPhases, fixSelfCoverage]
  cases ordered : graph.topologicalOrder with
  | error error => rfl
  | ok order =>
    have topological := consistent.isTopological_of_topologicalOrder ordered
    have live : ∀ handle ∈ graph.inner order, graph.contains handle := fun handle member =>
      (topological.mem_iff handle).mp (List.mem_of_mem_filter member)
    dsimp only
    rw [noteAlong_eq]
    by_cases stopped : graph.totalSamples = 0 ∧ graph.inner order ≠ []
    · rw [if_pos stopped, if_pos (by exact stopped)]
    · rw [if_neg stopped, if_neg (by exact stopped)]
      simp only [List.nil_append, writeNoted_eq 0 live, Nat.zero_add]
      rfl

/-! What is written. -/

theorem slot_foldl_correctNode (handles : List Nat) (corrected : CallGraph α) (handle : Nat) :
    (handles.foldl graph.correctNode corrected).slot? handle =
      (corrected.slot? handle).map fun slot =>
        if handle ∈ handles then { slot with node :=
          { slot.node with selfCoverage := graph.impliedSelfCoverage handle } }
        else slot := by
  induction handles generalizing corrected with
  | nil => simp
  | cons first later ih =>
    rw [List.foldl_cons, ih, correctNode, modifyNode, slot_modifySlot]
    by_cases here : handle = first
    · subst here
      rcases corrected.slot? handle with _ | slot <;> simp
    · simp [here]

/-- Writing to several nodes replaces slots and leaves all else of the graph alone. -/
theorem foldl_correctNode_rest (graph : CallGraph α) (handles : List Nat)
    (corrected : CallGraph α) :
    (handles.foldl graph.correctNode corrected).slots.size = corrected.slots.size ∧
      { handles.foldl graph.correctNode corrected with slots := corrected.slots } = corrected := by
  induction handles generalizing corrected with
  | nil => exact ⟨rfl, rfl⟩
  | cons first later ih =>
    obtain ⟨size, rest⟩ := ih (graph.correctNode corrected first)
    refine ⟨size.trans Array.size_modify, ?_⟩
    exact congrArg (fun middle : CallGraph α => { middle with slots := corrected.slots }) rest

/-- The report of a correction along an order. -/
def correctionReport (graph : CallGraph α) (order : List Nat) : CorrectionReport :=
  ⟨(graph.inner order).length, order.length - (graph.inner order).length,
    ((graph.inner order).filter fun handle =>
      Quantity.isNegative (graph.retainedCoverage handle)).map graph.profilerId⟩

theorem fixSelfCoverage_of_order {order : List Nat} (ordered : graph.topologicalOrder = .ok order) :
    graph.fixSelfCoverage =
      if graph.totalSamples = 0 ∧ graph.inner order ≠ [] then .error .noSamples
      else .ok (graph.correctionReport order,
        (graph.inner order).foldl graph.correctNode graph) := by
  rw [fixSelfCoverage, ordered]
  rfl

/-- What correction makes of a graph. Every value is computed from the weights of the
graph that was handed in. -/
structure Corrected (graph : CallGraph α) (report : CorrectionReport) (next : CallGraph α) :
    Prop where
  /-- A node that receives weight is given what does not flow on, in percent of all
  samples, or zero if more flows on than comes in. All else about the nodes and all edges
  are as before. -/
  slot : ∀ handle, next.slot? handle = (graph.slot? handle).map fun slot =>
    let value := Quantity.roundTo 1 (Quantity.ofCount 100 *
      (graph.inWeight handle - graph.outWeight handle) / Quantity.ofCount graph.totalSamples)
    if Quantity.isZero (graph.inWeight handle) then slot
    else { slot with node := { slot.node with
      selfCoverage := if Quantity.isNegative value then Quantity.zero else value } }
  size : next.slots.size = graph.slots.size
  /-- Ids, samples and the other fields of the graph are as before. -/
  rest : { next with slots := graph.slots } = graph
  counted : report.updated + report.rootsSkipped = graph.nodeCount
  skipped : report.rootsSkipped = graph.roots.length
  clamped : ∀ id, id ∈ report.clamped ↔ ∃ handle, graph.contains handle ∧
    ¬ Quantity.isZero (graph.inWeight handle) ∧
      Quantity.isNegative (graph.retainedCoverage handle) ∧ graph.profilerId handle = id

theorem Corrected.sameLinks {report : CorrectionReport} {next : CallGraph α}
    (corrected : graph.Corrected report next) : next.SameLinks graph where
  size := corrected.size
  successors handle := by
    rw [successors, corrected.slot, successors]
    rcases graph.slot? handle with _ | slot
    · rfl
    · dsimp only [Option.map_some]
      split <;> rfl
  predecessors handle := by
    rw [predecessors, corrected.slot, predecessors]
    rcases graph.slot? handle with _ | slot
    · rfl
    · dsimp only [Option.map_some]
      split <;> rfl
  contains handle := by rw [contains, corrected.slot, Option.isSome_map, contains]
  profilerId handle := by
    rw [profilerId, node?, corrected.slot, profilerId, node?]
    rcases graph.slot? handle with _ | slot
    · rfl
    · dsimp only [Option.map_some]
      split <;> rfl
  samples := congrArg (·.totalSamples) corrected.rest

theorem mem_inner {order : List Nat} {handle : Nat} :
    handle ∈ graph.inner order ↔ handle ∈ order ∧ ¬ Quantity.isZero (graph.inWeight handle) := by
  rw [inner, List.mem_filter, isRoot, Bool.not_eq_true', Bool.not_eq_true]

/-- The nodes of an order either receive weight or are roots. -/
theorem IsTopological.length_inner {order : List Nat} (topological : graph.IsTopological order) :
    order.length - (graph.inner order).length = graph.roots.length := by
  have split := List.length_eq_length_filter_add (l := order) graph.isRoot
  have roots : (order.filter graph.isRoot).Perm graph.roots :=
    ((List.perm_ext_iff_of_nodup topological.nodup nodup_handles).mpr fun handle =>
      (topological.mem_iff handle).trans mem_handles.symm).filter graph.isRoot
  rw [split, roots.length_eq, inner, Nat.add_sub_cancel]

theorem Consistent.corrected_fixSelfCoverage (consistent : graph.Consistent) {order : List Nat}
    (ordered : graph.topologicalOrder = .ok order) :
    graph.Corrected (graph.correctionReport order)
      ((graph.inner order).foldl graph.correctNode graph) := by
  have topological := consistent.isTopological_of_topologicalOrder ordered
  have most : (graph.inner order).length ≤ order.length := List.length_filter_le ..
  obtain ⟨size, rest⟩ := foldl_correctNode_rest graph (graph.inner order) graph
  refine ⟨fun handle => ?_, size, rest, ?_, topological.length_inner, fun id => ?_⟩
  · rw [slot_foldl_correctNode]
    cases held : graph.slot? handle with
    | none => rfl
    | some slot =>
      have live : handle ∈ order := (topological.mem_iff handle).mpr (by rw [contains, held]; rfl)
      by_cases root : Quantity.isZero (graph.inWeight handle)
      · simp [mem_inner, root]
      · have found : handle ∈ graph.inner order := mem_inner.mpr ⟨live, root⟩
        simp only [Option.map_some, if_pos found, if_neg root]
        rfl
  · exact (Nat.add_sub_cancel' most).trans topological.length_eq
  · simp only [correctionReport, List.mem_map, List.mem_filter, mem_inner, topological.mem_iff,
      and_assoc]

/-- With samples, an acyclic graph is corrected. -/
theorem Consistent.exists_corrected (consistent : graph.Consistent) (acyclic : graph.Acyclic)
    (sampled : graph.totalSamples ≠ 0) : ∃ report next,
      graph.fixSelfCoverage = .ok (report, next) ∧ graph.Corrected report next := by
  obtain ⟨order, ordered, _⟩ := consistent.exists_topologicalOrder acyclic
  have ran := fixSelfCoverage_of_order ordered
  rw [if_neg fun stopped => sampled stopped.1] at ran
  exact ⟨_, _, ran, consistent.corrected_fixSelfCoverage ordered⟩

/-- A node that receives weight has the self coverage that its edges imply. -/
theorem Corrected.selfCoverage_eq {report : CorrectionReport} {next : CallGraph α}
    (corrected : graph.Corrected report next) {handle : Nat} {node : Node α}
    (left : next.node? handle = some node)
    (receives : ¬ Quantity.isZero (graph.inWeight handle)) :
    node.selfCoverage = graph.impliedSelfCoverage handle := by
  obtain ⟨slot, there, rfl⟩ := Option.map_eq_some_iff.mp left
  rw [corrected.slot] at there
  obtain ⟨before, _, rfl⟩ := Option.map_eq_some_iff.mp there
  dsimp only
  rw [if_neg receives]
  rfl

/-- Correction reads nothing that it writes, so a second correction writes the values
that are there already. -/
theorem Corrected.again {report : CorrectionReport} {next : CallGraph α}
    (corrected : graph.Corrected report next)
    (ran : graph.fixSelfCoverage = .ok (report, next)) :
    next.fixSelfCoverage = .ok (report, next) := by
  have same := corrected.sameLinks
  cases ordered : graph.topologicalOrder with
  | error error => simp [fixSelfCoverage, ordered] at ran
  | ok order =>
    have inner_eq : next.inner order = graph.inner order :=
      List.filter_congr fun handle _ => by rw [same.isRoot_eq]
    have reported : next.correctionReport order = graph.correctionReport order := by
      have named : next.profilerId = graph.profilerId := funext same.profilerId
      simp only [correctionReport, inner_eq, same.retainedCoverage_eq, named]
    have written : (graph.inner order).foldl next.correctNode next = next := by
      obtain ⟨size, rest⟩ := foldl_correctNode_rest next (graph.inner order) next
      have slots := slots_ext size fun handle => by
        rw [slot_foldl_correctNode, corrected.slot]
        rcases graph.slot? handle with _ | slot
        · rfl
        · by_cases root : Quantity.isZero (graph.inWeight handle)
          · simp [mem_inner, root]
          · simp only [Option.map_some, if_neg root]
            rw [impliedSelfCoverage, same.retainedCoverage_eq]
            exact congrArg some (ite_id _)
      rw [← slots] at rest
      exact rest
    rw [fixSelfCoverage_of_order ordered] at ran
    split at ran
    next => cases ran
    next enough =>
      cases ran
      rw [fixSelfCoverage_of_order (same.topologicalOrder_eq.trans ordered), inner_eq,
        same.samples, if_neg enough, reported, written]

/-- In a reachable graph without cycles, correcting self coverage is done in two phases.
It fails for want of samples, exactly when there are none although some node receives
weight, and for no other reason. If it succeeds, each node that receives weight is given
the self coverage that the weights imply, everything else is as it was, each node is
counted once, and a second correction changes nothing and reports the same. -/
theorem Reachable.fixSelfCoverage_recomputes (reachable : graph.Reachable)
    (acyclic : graph.Acyclic) :
    graph.correctInPhases = graph.fixSelfCoverage ∧
      (graph.fixSelfCoverage = .error .noSamples ↔ graph.totalSamples = 0 ∧
        ∃ handle, graph.contains handle ∧ ¬ Quantity.isZero (graph.inWeight handle)) ∧
      (∀ error, graph.fixSelfCoverage = .error error → error = .noSamples) ∧
      ∀ report next, graph.fixSelfCoverage = .ok (report, next) →
        graph.Corrected report next ∧ next.fixSelfCoverage = .ok (report, next) := by
  have consistent := reachable.consistent
  obtain ⟨order, ordered, _⟩ := consistent.exists_topologicalOrder acyclic
  refine ⟨consistent.correctInPhases_eq, ?_, fun error failed => ?_, fun report next ran => ?_⟩
  · rcases consistent.fixSelfCoverage_spec acyclic with
      ⟨lack, receives, failed⟩ | ⟨enough, report, next, ran, _⟩
    · exact iff_of_true failed ⟨lack, receives⟩
    · exact iff_of_false (by simp [ran]) enough
  · rcases consistent.fixSelfCoverage_spec acyclic with
      ⟨_, _, stopped⟩ | ⟨_, report, next, ran, _⟩
    · exact (Except.error.inj (stopped.symm.trans failed)).symm
    · cases failed.symm.trans ran
  · have corrected : graph.Corrected report next := by
      have found := ran
      rw [fixSelfCoverage_of_order ordered] at found
      split at found
      next => cases found
      next =>
        cases found
        exact consistent.corrected_fixSelfCoverage ordered
    exact ⟨corrected, corrected.again ran⟩

/-- A function whose callee outweighs its caller, one whose share lies half-way between
two tenths of a percent, and one that is called without weight. -/
def overdrawn : CallGraph Binary64 :=
  (empty "!").performAll [
    .declare "N1" "main" (.ofNat 10) (.ofNat 100), .declare "N2" "parse" (.ofNat 30) (.ofNat 60),
    .declare "N3" "leaf!" (.ofNat 50) (.ofNat 50), .declare "N4" "idle" (.ofNat 7) (.ofNat 7),
    .sample 400, .connect "N1" "N2" 10, .connect "N2" "N3" 20, .connect "N1" "N3" 1,
    .connect "N1" "N4" 0]

theorem overdrawn_recomputes : overdrawn.Acyclic ∧ ∃ next,
    overdrawn.fixSelfCoverage = .ok (⟨2, 2, ["N2"]⟩, next) ∧
      overdrawn.Corrected ⟨2, 2, ["N2"]⟩ next ∧
      next.fixSelfCoverage = .ok (⟨2, 2, ["N2"]⟩, next) := by
  have reachable : overdrawn.Reachable := (Reachable.fresh "!").performAll _
  have acyclic : overdrawn.Acyclic :=
    reachable.consistent.findCycle_eq_none_iff.mp (by decide +kernel)
  have reported : overdrawn.fixSelfCoverage.map (·.1) = .ok ⟨2, 2, ["N2"]⟩ := by decide +kernel
  obtain ⟨_, _, _, corrects⟩ := reachable.fixSelfCoverage_recomputes acyclic
  cases ran : overdrawn.fixSelfCoverage with
  | error error => cases ran ▸ reported
  | ok pair =>
    obtain ⟨report, next⟩ := pair
    obtain rfl : report = ⟨2, 2, ["N2"]⟩ := Except.ok.inj (ran ▸ reported)
    exact ⟨acyclic, next, rfl, corrects _ next ran⟩

end ProfileGraph.CallGraph

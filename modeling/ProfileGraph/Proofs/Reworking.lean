import ProfileGraph.Pipeline.Simplify
import ProfileGraph.Proofs.Histories

/-! What an operation can do to the nodes that are there. Every pass is made of
two kinds of changes: a slot is edited, which leaves the profiler id in it, or
a slot is emptied, which retires the id. So whatever these two changes keep,
all passes keep, whether they succeed or fail half-way. -/
namespace ProfileGraph
namespace CallGraph
variable {α : Type} {graph middle result : CallGraph α}

/-- The profiler id of a live node. -/
def idAt? (graph : CallGraph α) (handle : Nat) : Option String :=
  (graph.node? handle).map (·.profilerId)

/-- The graph with a slot emptied and an id retired. -/
def vacate (graph : CallGraph α) (handle : Nat) (id : String) : CallGraph α :=
  { graph with
    slots := graph.slots.setIfInBounds handle none
    index := graph.index.erase id
    retired := graph.retired.insert id }

theorem slot_vacate (handle other : Nat) (id : String) : (graph.vacate handle id).slot? other =
    if other = handle then none else graph.slot? other := by
  simp only [vacate, slot?, Array.getElem?_setIfInBounds]
  by_cases same : handle = other
  · subst same
    rw [if_pos rfl, if_pos rfl]
    split <;> rfl
  · rw [if_neg same, if_neg (Ne.symm same)]

/-- Slots are edited without a change of their profiler ids, or emptied. -/
inductive Reworked (graph : CallGraph α) : CallGraph α → Prop
  | refl : Reworked graph graph
  | edit {middle : CallGraph α} (handle : Nat) (change : Slot α → Slot α) :
      (∀ slot, (change slot).node.profilerId = slot.node.profilerId) →
      Reworked graph middle → Reworked graph (middle.modifySlot handle change)
  | vacate {middle : CallGraph α} {handle : Nat} {id : String} :
      middle.idAt? handle = some id → Reworked graph middle →
      Reworked graph (middle.vacate handle id)

theorem Reworked.trans (first : graph.Reworked middle) (second : middle.Reworked result) :
    graph.Reworked result := by
  induction second with
  | refl => exact first
  | edit handle change keepsId _ ih => exact .edit handle change keepsId ih
  | vacate held _ ih => exact .vacate held ih

/-- Only nodes and edges change. -/
theorem Reworked.fields (reworked : graph.Reworked result) :
    result.interestMarker = graph.interestMarker ∧ result.totalSamples = graph.totalSamples ∧
      result.coverage = graph.coverage ∧ result.selector = graph.selector := by
  induction reworked with
  | refl => exact ⟨rfl, rfl, rfl, rfl⟩
  | edit _ _ _ _ ih => exact ih
  | vacate _ _ ih => exact ih

theorem reworked_foldl {β : Type} {operate : CallGraph α → β → CallGraph α}
    (reworks : ∀ item (graph : CallGraph α), graph.Reworked (operate graph item)) (items : List β) :
    graph.Reworked (items.foldl operate graph) := by
  induction items generalizing graph with
  | nil => exact .refl
  | cons item later ih => exact (reworks item graph).trans ih

/-! Steps of a pass. -/

theorem reworked_attempt {outcome : Except GraphError (CallGraph α)}
    (reworks : ∀ next, outcome = .ok next → graph.Reworked next) :
    graph.Reworked (graph.attempt outcome).graph := by
  cases outcome with
  | error error => exact .refl
  | ok next => exact reworks next rfl

/-- The same for an operation that gives back more than the graph. -/
theorem reworked_attempt_snd {β : Type} {outcome : Except GraphError (β × CallGraph α)}
    (reworks : ∀ value next, outcome = .ok (value, next) → graph.Reworked next) :
    graph.Reworked (graph.attempt (outcome.map (·.2))).graph := by
  cases outcome with
  | error error => exact .refl
  | ok pair => exact reworks pair.1 pair.2 rfl

theorem Reworked.andThen {ρ σ : Type} {first : PassResult ρ α}
    {next : ρ → CallGraph α → PassResult σ α} (reworked : graph.Reworked first.graph)
    (reworks : ∀ report (middle : CallGraph α), middle.Reworked (next report middle).graph) :
    graph.Reworked (first.andThen next).graph := by
  obtain ⟨middle, error | report⟩ := first
  · exact reworked
  · exact reworked.trans (reworks report middle)

theorem reworked_forEach {β : Type} {step : β → CallGraph α → PassResult Unit α}
    (reworks : ∀ item (graph : CallGraph α), graph.Reworked (step item graph).graph)
    (items : List β) : graph.Reworked (forEach step items graph).graph := by
  induction items generalizing graph with
  | nil => exact .refl
  | cons item later ih => exact (reworks item graph).andThen fun _ _ => ih

/-! Single nodes and edges. -/

theorem reworked_modifyNode (handle : Nat) {change : Node α → Node α}
    (keepsId : ∀ node, (change node).profilerId = node.profilerId) :
    graph.Reworked (graph.modifyNode handle change) :=
  .edit handle _ (fun slot => keepsId slot.node) .refl

theorem reworked_writeEdge (source target : Nat) (weight : α) :
    graph.Reworked (graph.writeEdge source target weight) :=
  .edit target _ (fun _ => rfl) (.edit source _ (fun _ => rfl) .refl)

theorem reworked_dropEdge (source target : Nat) : graph.Reworked (graph.dropEdge source target) := by
  rw [dropEdge_eq]
  split
  · exact .edit target _ (fun _ => rfl) (.edit source _ (fun _ => rfl) .refl)
  · exact .refl

theorem reworked_detach (handle : Nat) : graph.Reworked (graph.detach handle) := by
  rw [detach_eq_dropEdges]
  exact reworked_foldl (fun (edge : Nat × Nat) _ => reworked_dropEdge edge.1 edge.2) _

theorem reworked_delete (handle : Nat) : graph.Reworked (graph.delete handle) := by
  rw [delete]
  split
  next => exact .refl
  next node held =>
    refine .vacate ?_ (reworked_detach handle)
    rw [idAt?, node_detach, held]
    rfl

theorem reworked_removeNode {handle : Nat} {node : Node α} {next : CallGraph α}
    (ran : graph.removeNode handle = .ok (node, next)) : graph.Reworked next := by
  rw [removeNode] at ran
  split at ran
  next => cases ran
  next =>
    cases ran
    exact reworked_delete handle

theorem reworked_removal (handle : Nat) : graph.Reworked (removal handle graph).graph :=
  reworked_attempt_snd fun _ _ => reworked_removeNode

variable [Quantity α]

theorem reworked_addEdgeBetween {source target : Nat} {weight : α}
    (ran : graph.addEdgeBetween source target weight = .ok result) : graph.Reworked result := by
  rw [addEdgeBetween] at ran
  split at ran
  next => cases ran
  next =>
    split at ran
    next => cases ran
    next =>
      cases ran
      exact reworked_writeEdge ..

theorem reworked_addEdge {source target : String} {weight : Nat}
    (ran : graph.addEdge source target weight = .ok result) : graph.Reworked result := by
  rw [addEdge] at ran
  split at ran
  next => cases ran
  next => cases ran
  next => exact reworked_addEdgeBetween ran

/-! Collapsing. -/

theorem reworked_attach (edge : Nat × Nat × α) : graph.Reworked (attach edge graph).graph := by
  obtain ⟨source, target, weight⟩ := edge
  refine (reworked_attempt fun _ => reworked_addEdgeBetween).andThen fun () middle => ?_
  dsimp only
  rw [truncateEdge]
  split
  · exact reworked_writeEdge ..
  · exact .refl

theorem reworked_merge (members : List Nat) (survivor : Nat) :
    graph.Reworked (graph.merge members survivor).graph := by
  rw [merge]
  split
  next => exact .refl
  next node _ =>
    refine (reworked_forEach (fun handle _ => reworked_removal handle) _).andThen fun _ _ => ?_
    refine ((reworked_detach survivor).trans (reworked_forEach (fun edge _ => reworked_attach edge)
      _)).andThen fun _ _ => ?_
    refine (reworked_forEach (fun edge _ => reworked_attach edge) _).andThen fun _ _ => ?_
    dsimp only
    exact reworked_modifyNode survivor fun _ => rfl

theorem reworked_collapse (listed : List Nat) : graph.Reworked (graph.collapse listed).graph := by
  rw [collapse]
  split
  next => exact .refl
  next =>
    split
    next => exact .refl
    next =>
      dsimp only
      split
      next => exact .refl
      next survivor _ => exact reworked_merge _ survivor

theorem reworked_collapseFrom (report : CollapseReport α) (fuel : Nat) :
    graph.Reworked (collapseFrom report fuel graph).graph := by
  induction fuel generalizing graph report with
  | zero => exact .refl
  | succ fuel ih =>
    rw [collapseFrom]
    split
    next => exact .refl
    next members _ => exact (reworked_collapse members).andThen fun cycle _ => ih (report.push cycle)

theorem reworked_collapseAll : graph.Reworked graph.collapseAll.graph :=
  reworked_collapseFrom _ _

/-! Correcting and pruning. -/

theorem reworked_fixSelfCoverage {report : CorrectionReport}
    (ran : graph.fixSelfCoverage = .ok (report, result)) : graph.Reworked result := by
  rw [fixSelfCoverage] at ran
  split at ran
  next => cases ran
  next =>
    dsimp only at ran
    split at ran
    next => cases ran
    next =>
      cases ran
      refine reworked_foldl (fun handle middle => reworked_modifyNode handle ?_) _
      exact fun _ => rfl

theorem reworked_handOver (selfCoverage inWeight : α) (callees : List (Nat × α))
    (entry : Nat × α) :
    graph.Reworked (handOver selfCoverage inWeight callees entry graph).graph := by
  have credited : graph.Reworked
      (graph.credit entry.1 (Quantity.roundTo 2 (entry.2 / inWeight)) selfCoverage) :=
    reworked_modifyNode entry.1 fun _ => rfl
  exact credited.trans
    (reworked_forEach (fun _ _ => reworked_attempt fun _ => reworked_addEdgeBetween) callees)

theorem reworked_removeAndBridge (handle : Nat) (node : Node α) :
    graph.Reworked (graph.removeAndBridge handle node).graph :=
  (reworked_forEach (fun entry _ => reworked_handOver _ _ _ entry) _).andThen
    fun _ _ => reworked_removal handle

theorem reworked_pruneAlong (policy : RootPolicy) (report : PruneReport) (order : List Nat) :
    graph.Reworked (graph.pruneAlong policy report order).graph := by
  induction order generalizing graph report with
  | nil => exact .refl
  | cons handle later ih =>
    rw [pruneAlong]
    split
    next => exact ih report
    next node _ =>
      split
      next => exact ih report
      next =>
        split
        next =>
          cases policy with
          | retain => exact ih _
          | forbid => exact .refl
        next => exact (reworked_removeAndBridge handle node).andThen fun _ _ => ih _

theorem reworked_prune (policy : RootPolicy) : graph.Reworked (graph.prune policy).graph := by
  rw [prune]
  split
  next => exact .refl
  next => exact reworked_pruneAlong policy {} _

/-- The three passes in sequence, as far as they come. -/
theorem reworked_simplify (policy : RootPolicy) :
    graph.Reworked (graph.simplify policy).graph := by
  rw [simplify]
  dsimp only
  split
  next => exact reworked_collapseAll
  next =>
    split
    next => exact reworked_collapseAll
    next =>
      split
      next => exact reworked_collapseAll
      next correction corrected ran =>
        have before := reworked_collapseAll.trans (reworked_fixSelfCoverage ran)
        split <;> exact before.trans (reworked_prune policy)

end CallGraph

/-! Operations. -/

/-- The id that an operation declares. -/
def Operation.declaredId? {α : Type} : Operation α → Option String
  | .declare id _ _ _ => some id
  | _ => none

namespace CallGraph
variable {α : Type} [Quantity α]

/-- Only declarations add nodes, and counting samples touches no node. -/
theorem perform_cases (graph : CallGraph α) (operation : Operation α) :
    (∃ id name selfCoverage coverage, operation = .declare id name selfCoverage coverage) ∨
      (∃ samples, operation = .sample samples) ∨
      operation.declaredId? = none ∧ graph.Reworked (graph.perform operation) := by
  cases operation with
  | declare id name selfCoverage coverage => exact .inl ⟨id, name, selfCoverage, coverage, rfl⟩
  | connect => exact .inr (.inr ⟨rfl, reworked_attempt fun _ => reworked_addEdge⟩)
  | strengthen => exact .inr (.inr ⟨rfl, reworked_attempt fun _ => reworked_addEdgeBetween⟩)
  | reweigh source target weight =>
    refine .inr (.inr ⟨rfl, ?_⟩)
    rw [perform, setEdgeWeight?]
    cases graph.edgeWeight? source target with
    | none => exact .refl
    | some _ => exact reworked_writeEdge source target weight
  | disconnect source target => exact .inr (.inr ⟨rfl, reworked_dropEdge source target⟩)
  | detach handle => exact .inr (.inr ⟨rfl, reworked_detach handle⟩)
  | remove => exact .inr (.inr ⟨rfl, reworked_attempt_snd fun _ _ => reworked_removeNode⟩)
  | sample samples => exact .inr (.inl ⟨samples, rfl⟩)
  | edit handle change keepsId => exact .inr (.inr ⟨rfl, reworked_modifyNode handle keepsId⟩)
  | collapse listed => exact .inr (.inr ⟨rfl, reworked_collapse listed⟩)
  | collapseAll => exact .inr (.inr ⟨rfl, reworked_collapseAll⟩)
  | correct =>
    exact .inr (.inr ⟨rfl, reworked_attempt_snd fun _ _ => reworked_fixSelfCoverage⟩)
  | prune policy => exact .inr (.inr ⟨rfl, reworked_prune policy⟩)

end CallGraph
end ProfileGraph

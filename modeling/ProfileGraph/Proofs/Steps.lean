import ProfileGraph.Proofs.Adjacency

/-! The steps of a pass. A step checks its handles before it changes the graph;
on live handles the checks pass, and a loop of steps is then the fold of the
unchecked operations. -/
namespace ProfileGraph.CallGraph

variable {α : Type} {graph : CallGraph α}

/-- A loop whose every step succeeds is a fold. What holds before a step may
speak of the items that are still to come. -/
theorem forEach_eq_foldl {β : Type} {step : β → CallGraph α → PassResult Unit α}
    {operate : CallGraph α → β → CallGraph α} (invariant : List β → CallGraph α → Prop)
    (runs : ∀ item later graph, invariant (item :: later) graph →
      step item graph = ⟨operate graph item, .ok ()⟩ ∧ invariant later (operate graph item))
    (items : List β) (holds : invariant items graph) :
    forEach step items graph = ⟨items.foldl operate graph, .ok ()⟩ ∧
      invariant [] (items.foldl operate graph) := by
  induction items generalizing graph with
  | nil => exact ⟨rfl, holds⟩
  | cons item later ih =>
    obtain ⟨ran, kept⟩ := runs item later graph holds
    rw [forEach, ran]
    exact ih kept

/-! One operation as a step. -/

/-- What is refused leaves the graph as it was. -/
theorem Consistent.attempt (consistent : graph.Consistent)
    {result : Except GraphError (CallGraph α)}
    (kept : ∀ next, result = .ok next → next.Consistent) : (graph.attempt result).graph.Consistent := by
  cases result with
  | error error => exact consistent
  | ok next => exact kept next rfl

theorem attempt_eq_ok {result : Except GraphError (CallGraph α)} {next : CallGraph α}
    (ran : graph.attempt result = ⟨next, .ok ()⟩) : result = .ok next := by
  cases result with
  | error error => cases congrArg PassResult.outcome ran
  | ok changed => exact congrArg Except.ok (congrArg PassResult.graph ran)

/-- The same for an operation that gives back more than the graph. -/
theorem Consistent.attempt_snd {β : Type} (consistent : graph.Consistent)
    {result : Except GraphError (β × CallGraph α)}
    (kept : ∀ value next, result = .ok (value, next) → next.Consistent) :
    (graph.attempt (result.map (·.2))).graph.Consistent := by
  cases result with
  | error error => exact consistent
  | ok pair => exact kept pair.1 pair.2 rfl

theorem Consistent.removeNode (consistent : graph.Consistent) {handle : Nat} {node : Node α}
    {next : CallGraph α} (ran : graph.removeNode handle = .ok (node, next)) : next.Consistent := by
  rw [CallGraph.removeNode] at ran
  split at ran
  next => cases ran
  next =>
    cases ran
    exact consistent.delete handle

/-! Strengthening an edge. -/

section Strengthen
variable [Quantity α]

@[simp] theorem contains_strengthen (source target handle : Nat) (weight : α) :
    (graph.strengthen source target weight).contains handle = graph.contains handle :=
  contains_writeEdge ..

@[simp] theorem node_strengthen (source target handle : Nat) (weight : α) :
    (graph.strengthen source target weight).node? handle = graph.node? handle :=
  node_writeEdge ..

@[simp] theorem totalSamples_strengthen (source target : Nat) (weight : α) :
    (graph.strengthen source target weight).totalSamples = graph.totalSamples := rfl

theorem edgeWeight_strengthen {source : Nat} (live : graph.contains source) (target : Nat)
    (weight : α) (caller callee : Nat) :
    (graph.strengthen source target weight).edgeWeight? caller callee =
      if caller = source ∧ callee = target then
        some ((graph.edgeWeight? caller callee).getD Quantity.zero + weight)
      else graph.edgeWeight? caller callee := by
  rw [strengthen, edgeWeight_writeEdge]
  by_cases here : caller = source ∧ callee = target
  · rw [if_pos ⟨here.1, here.2, live⟩, if_pos here, here.1, here.2]
  · rw [if_neg fun ⟨first, last, _⟩ => here ⟨first, last⟩, if_neg here]

/-- Other edges keep their weights, whether or not the ends are live. -/
theorem edgeWeight_strengthen_of_ne {source target caller callee : Nat} (weight : α)
    (other : ¬ (caller = source ∧ callee = target)) :
    (graph.strengthen source target weight).edgeWeight? caller callee =
      graph.edgeWeight? caller callee := by
  rw [strengthen, edgeWeight_writeEdge, if_neg fun ⟨first, last, _⟩ => other ⟨first, last⟩]

theorem addEdgeBetween_of_live {source target : Nat} (sourceLive : graph.contains source)
    (targetLive : graph.contains target) (weight : α) :
    graph.addEdgeBetween source target weight = .ok (graph.strengthen source target weight) := by
  simp [addEdgeBetween, sourceLive, targetLive]

/-- An edge is strengthened between live nodes only. -/
theorem addEdgeBetween_eq_ok {source target : Nat} {weight : α} {next : CallGraph α}
    (ran : graph.addEdgeBetween source target weight = .ok next) :
    graph.contains source ∧ graph.contains target ∧ next = graph.strengthen source target weight := by
  rw [addEdgeBetween] at ran
  split at ran
  next => cases ran
  next targetLive =>
    split at ran
    next => cases ran
    next sourceLive =>
      cases ran
      exact ⟨by simpa using sourceLive, by simpa using targetLive, rfl⟩

theorem Consistent.strengthen (consistent : graph.Consistent) {source target : Nat}
    (sourceLive : graph.contains source) (targetLive : graph.contains target) (weight : α) :
    (graph.strengthen source target weight).Consistent :=
  consistent.writeEdge sourceLive targetLive _

/-- An edge is there once it is strengthened, even by nothing. -/
theorem calls_strengthen {source target caller callee : Nat} {weight : α}
    (live : graph.contains source) : (graph.strengthen source target weight).Calls caller callee ↔
      graph.Calls caller callee ∨ (caller = source ∧ callee = target) :=
  calls_writeEdge live

end Strengthen

/-! Deleting several nodes. -/

theorem removal_of_live {handle : Nat} (live : graph.contains handle) :
    removal handle graph = ⟨graph.delete handle, .ok ()⟩ := by
  obtain ⟨node, held⟩ := contains_iff_node.mp live
  simp [removal, removeNode, held, Except.map, attempt]

/-- Deletes the listed nodes. -/
def deleteAll (graph : CallGraph α) (handles : List Nat) : CallGraph α :=
  handles.foldl delete graph

theorem contains_deleteAll (handles : List Nat) (handle : Nat) :
    (graph.deleteAll handles).contains handle =
      (graph.contains handle && !handles.contains handle) := by
  induction handles generalizing graph with
  | nil => simp [deleteAll]
  | cons first later ih =>
    refine (@ih (graph.delete first)).trans ?_
    rw [contains_delete, List.contains_cons, Bool.and_assoc, Bool.not_or]
    rfl

theorem node_deleteAll (handles : List Nat) (handle : Nat) :
    (graph.deleteAll handles).node? handle =
      if handle ∈ handles then none else graph.node? handle := by
  induction handles generalizing graph with
  | nil => simp [deleteAll]
  | cons first later ih =>
    refine (@ih (graph.delete first)).trans ?_
    rw [node_delete]
    by_cases same : handle = first <;> simp [same]

@[simp] theorem totalSamples_deleteAll (handles : List Nat) :
    (graph.deleteAll handles).totalSamples = graph.totalSamples := by
  induction handles generalizing graph with
  | nil => rfl
  | cons first later ih => exact (@ih (graph.delete first)).trans (totalSamples_delete first)

theorem Consistent.deleteAll (consistent : graph.Consistent) (handles : List Nat) :
    (graph.deleteAll handles).Consistent := by
  induction handles generalizing graph with
  | nil => exact consistent
  | cons first later ih => exact ih (consistent.delete first)

theorem Consistent.edgeWeight_deleteAll (consistent : graph.Consistent) (handles : List Nat)
    (caller callee : Nat) : (graph.deleteAll handles).edgeWeight? caller callee =
      if caller ∈ handles ∨ callee ∈ handles then none else graph.edgeWeight? caller callee := by
  induction handles generalizing graph with
  | nil => simp [CallGraph.deleteAll]
  | cons first later ih =>
    refine (ih (consistent.delete first)).trans ?_
    rw [consistent.edgeWeight_delete]
    by_cases callerGone : caller = first <;> by_cases calleeGone : callee = first <;>
      simp [callerGone, calleeGone]

/-- Deleting nodes that are all there, each listed once, never fails. -/
theorem forEach_removal {handles : List Nat} (distinct : handles.Nodup)
    (live : ∀ handle ∈ handles, graph.contains handle) :
    forEach removal handles graph = ⟨graph.deleteAll handles, .ok ()⟩ := by
  refine (forEach_eq_foldl
    (fun later graph => later.Nodup ∧ ∀ handle ∈ later, graph.contains handle)
    ?_ handles ⟨distinct, live⟩).1
  rintro handle later graph ⟨distinct, live⟩
  obtain ⟨fresh, distinct⟩ := List.nodup_cons.mp distinct
  refine ⟨removal_of_live (live handle List.mem_cons_self), distinct, fun other member => ?_⟩
  rw [contains_delete, live other (List.mem_cons_of_mem handle member)]
  simpa using fun same : other = handle => fresh (same ▸ member)

end ProfileGraph.CallGraph

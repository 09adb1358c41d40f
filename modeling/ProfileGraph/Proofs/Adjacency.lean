import ProfileGraph.Graph.Pass

/-! What can be seen of a graph after each operation that changes it. An edge
is seen from its source and from its target; the two views are kept apart
here, and `Consistent` says that they agree. All later statements about edges
rest on the equations of this module and do not open the slots again. -/
namespace ProfileGraph.CallGraph

variable {α : Type} {graph : CallGraph α}

/-- The weight of an edge in the copy that its target holds. -/
def callerWeight? (graph : CallGraph α) (target source : Nat) : Option α :=
  (graph.slot? target).bind fun slot => slot.predecessors.get? source

/-- Both copies of every edge say the same. -/
def Consistent (graph : CallGraph α) : Prop :=
  ∀ source target, graph.edgeWeight? source target = graph.callerWeight? target source

/-- There is an edge from one node to another, of whatever weight. -/
def Calls (graph : CallGraph α) (caller callee : Nat) : Prop :=
  (graph.edgeWeight? caller callee).isSome

instance (graph : CallGraph α) (caller callee : Nat) : Decidable (graph.Calls caller callee) :=
  inferInstanceAs (Decidable (_ = true))

private theorem edge_weight_eq (source target : Nat) : graph.edgeWeight? source target =
    (graph.slot? source).bind fun slot => slot.successors.get? target := rfl

theorem slot_modifySlot (handle other : Nat) (change : Slot α → Slot α) :
    (graph.modifySlot handle change).slot? other =
      if other = handle then (graph.slot? other).map change else graph.slot? other := by
  simp only [slot?, modifySlot, Array.getElem?_modify]
  by_cases same : handle = other
  · subst same
    rcases graph.slots[handle]? with _ | _ | slot <;> simp
  · simp [same, Ne.symm same]

/-! Looking along edges. -/

theorem calls_of_weight {caller callee : Nat} {weight : α}
    (held : graph.edgeWeight? caller callee = some weight) : graph.Calls caller callee :=
  Option.isSome_iff_exists.mpr ⟨weight, held⟩

theorem not_calls_of_none {caller callee : Nat}
    (absent : graph.edgeWeight? caller callee = none) : ¬ graph.Calls caller callee :=
  Option.not_isSome_iff_eq_none.mpr absent

theorem mem_successors {caller callee : Nat} {weight : α} :
    (callee, weight) ∈ graph.successors caller ↔ graph.edgeWeight? caller callee = some weight := by
  rw [edge_weight_eq, successors]
  cases graph.slot? caller with
  | none => simp
  | some slot => exact WeightMap.mem_entries

theorem mem_predecessors {caller callee : Nat} {weight : α} :
    (caller, weight) ∈ graph.predecessors callee ↔
      graph.callerWeight? callee caller = some weight := by
  rw [callerWeight?, predecessors]
  cases graph.slot? callee with
  | none => simp
  | some slot => exact WeightMap.mem_entries

theorem Consistent.mem_predecessors (consistent : graph.Consistent) {caller callee : Nat}
    {weight : α} : (caller, weight) ∈ graph.predecessors callee ↔
      graph.edgeWeight? caller callee = some weight := by
  rw [CallGraph.mem_predecessors, consistent]

/-- The weights that a node receives are those of the edges to it. -/
theorem Consistent.mem_received (consistent : graph.Consistent) {callee : Nat} {weight : α} :
    weight ∈ (graph.predecessors callee).map (·.2) ↔
      ∃ caller, graph.edgeWeight? caller callee = some weight := by
  simp only [List.mem_map, Prod.exists, exists_eq_right, consistent.mem_predecessors]

theorem mem_callees {caller callee : Nat} :
    callee ∈ (graph.successors caller).map (·.1) ↔ graph.Calls caller callee := by
  rw [Calls, edge_weight_eq, successors]
  cases graph.slot? caller with
  | none => simp
  | some slot => exact WeightMap.mem_keys

theorem Consistent.mem_callers (consistent : graph.Consistent) {caller callee : Nat} :
    caller ∈ (graph.predecessors callee).map (·.1) ↔ graph.Calls caller callee := by
  rw [Calls, consistent, callerWeight?, predecessors]
  cases graph.slot? callee with
  | none => simp
  | some slot => exact WeightMap.mem_keys

theorem Consistent.predecessors_eq_nil_iff (consistent : graph.Consistent) {callee : Nat} :
    graph.predecessors callee = [] ↔ ∀ caller, ¬ graph.Calls caller callee := by
  rw [← List.map_eq_nil_iff (f := (·.1)), List.eq_nil_iff_forall_not_mem]
  exact forall_congr' fun caller => not_congr consistent.mem_callers

theorem callees_ascending (graph : CallGraph α) (caller : Nat) :
    ((graph.successors caller).map (·.1)).Pairwise (· < ·) := by
  rw [successors]
  cases graph.slot? caller with
  | none => exact List.Pairwise.nil
  | some slot => exact List.pairwise_map.mpr slot.successors.ascending

theorem nodup_callees (graph : CallGraph α) (caller : Nat) :
    ((graph.successors caller).map (·.1)).Nodup :=
  (graph.callees_ascending caller).imp Nat.ne_of_lt

theorem nodup_callers (graph : CallGraph α) (callee : Nat) :
    ((graph.predecessors callee).map (·.1)).Nodup := by
  rw [predecessors]
  cases graph.slot? callee with
  | none => exact List.nodup_nil
  | some slot => exact slot.predecessors.nodup_keys

/-- The callers of a node are listed in one order only, so the weights in the
target's copies determine the list. -/
theorem predecessors_congr {left right : CallGraph α} {callee : Nat}
    (same : ∀ caller, left.callerWeight? callee caller = right.callerWeight? callee caller) :
    left.predecessors callee = right.predecessors callee := by
  let held (graph : CallGraph α) : WeightMap α :=
    ((graph.slot? callee).map (·.predecessors)).getD .empty
  have listed : ∀ graph : CallGraph α, graph.predecessors callee = (held graph).entries := by
    intro graph
    simp only [held, predecessors]
    cases graph.slot? callee <;> rfl
  have answers : ∀ (graph : CallGraph α) caller,
      (held graph).get? caller = graph.callerWeight? callee caller := by
    intro graph caller
    simp only [held, callerWeight?]
    cases graph.slot? callee <;> rfl
  rw [listed, listed]
  refine congrArg WeightMap.entries (WeightMap.ext fun caller => ?_)
  rw [answers, answers, same]

/-! Which handles are live. -/

theorem mem_handles {handle : Nat} : handle ∈ graph.handles ↔ graph.contains handle := by
  simp only [handles, List.mem_filter, List.mem_range, and_iff_right_iff_imp]
  intro live
  refine Nat.lt_of_not_le fun outside => ?_
  simp [contains, slot?, Array.getElem?_eq_none outside] at live

theorem nodup_handles : graph.handles.Nodup := List.nodup_range.filter _

theorem handles_ascending (graph : CallGraph α) : graph.handles.Pairwise (· < ·) :=
  List.pairwise_lt_range.filter _

/-- The first live node that passes a test is the least one. -/
theorem le_of_find_handles {test : Nat → Bool} {first other : Nat}
    (found : graph.handles.find? test = some first) (listed : other ∈ graph.handles)
    (passes : test other) : first ≤ other := by
  obtain ⟨_, before, later, split, fail⟩ := List.find?_eq_some_iff_append.mp found
  have ascending := graph.handles_ascending
  rw [split] at ascending listed
  rcases List.mem_append.mp listed with early | late
  · exact absurd passes (by simpa using fail other early)
  · rcases List.mem_cons.mp late with rfl | late
    · exact Nat.le_refl _
    · have sorted := (List.pairwise_append.mp ascending).2.1
      exact Nat.le_of_lt ((List.pairwise_cons.mp sorted).1 other late)

theorem contains_eq_isSome_node (handle : Nat) :
    graph.contains handle = (graph.node? handle).isSome := by
  simp [contains, node?]

theorem contains_iff_node {handle : Nat} :
    graph.contains handle ↔ ∃ node, graph.node? handle = some node := by
  rw [contains_eq_isSome_node, Option.isSome_iff_exists]

theorem contains_caller {caller callee : Nat} (edge : graph.Calls caller callee) :
    graph.contains caller := by
  rw [Calls, edge_weight_eq] at edge
  unfold contains
  cases held : graph.slot? caller with
  | none => simp [held] at edge
  | some slot => rfl

theorem Consistent.contains_callee (consistent : graph.Consistent) {caller callee : Nat}
    (edge : graph.Calls caller callee) : graph.contains callee := by
  rw [Calls, consistent, callerWeight?] at edge
  unfold contains
  cases held : graph.slot? callee with
  | none => simp [held] at edge
  | some slot => rfl

theorem mem_nodes {node : Node α} :
    node ∈ graph.nodes ↔ ∃ handle, graph.node? handle = some node := by
  rw [nodes, List.mem_filterMap]
  refine exists_congr fun handle => and_iff_right_of_imp fun held => ?_
  exact mem_handles.mpr (contains_iff_node.mpr ⟨node, held⟩)

/-- The list of all edges holds exactly the edges. -/
theorem mem_edges {caller callee : Nat} {weight : α} :
    (caller, callee, weight) ∈ graph.edges ↔ graph.edgeWeight? caller callee = some weight := by
  simp only [edges, List.mem_flatMap, List.mem_map, Prod.mk.injEq, mem_handles]
  constructor
  · rintro ⟨_, _, entry, listed, rfl, rfl, rfl⟩
    exact mem_successors.mp listed
  · intro held
    exact ⟨caller, contains_caller (calls_of_weight held), (callee, weight),
      mem_successors.mpr held, rfl, rfl, rfl⟩

/-! Changing one slot. -/

@[simp] theorem contains_modifySlot (handle other : Nat) (change : Slot α → Slot α) :
    (graph.modifySlot handle change).contains other = graph.contains other := by
  rw [contains, slot_modifySlot, contains]
  split <;> simp

@[simp] theorem contains_modifyNode (handle other : Nat) (change : Node α → Node α) :
    (graph.modifyNode handle change).contains other = graph.contains other :=
  contains_modifySlot ..

@[simp] theorem edgeWeight_modifyNode (handle source target : Nat) (change : Node α → Node α) :
    (graph.modifyNode handle change).edgeWeight? source target =
      graph.edgeWeight? source target := by
  rw [modifyNode, edge_weight_eq, slot_modifySlot, edge_weight_eq]
  split
  · cases graph.slot? source <;> rfl
  · rfl

@[simp] theorem callerWeight_modifyNode (handle target source : Nat) (change : Node α → Node α) :
    (graph.modifyNode handle change).callerWeight? target source =
      graph.callerWeight? target source := by
  rw [modifyNode, callerWeight?, slot_modifySlot, callerWeight?]
  split
  · cases graph.slot? target <;> rfl
  · rfl

theorem node_modifyNode (handle other : Nat) (change : Node α → Node α) :
    (graph.modifyNode handle change).node? other =
      if other = handle then (graph.node? other).map change else graph.node? other := by
  rw [modifyNode, node?, slot_modifySlot, node?]
  split
  · cases graph.slot? other <;> rfl
  · rfl

/-! Writing and erasing an edge. -/

private theorem slot_writeEdge (source target handle : Nat) (weight : α) :
    (graph.writeEdge source target weight).slot? handle = (graph.slot? handle).map fun slot =>
      { slot with
        successors := if handle = source then slot.successors.insert target weight
          else slot.successors
        predecessors := if handle = target then slot.predecessors.insert source weight
          else slot.predecessors } := by
  rw [writeEdge, slot_modifySlot, slot_modifySlot]
  cases graph.slot? handle with
  | none => simp
  | some slot => split <;> split <;> rfl

private theorem slot_eraseEdge (source target handle : Nat) :
    (graph.eraseEdge source target).slot? handle = (graph.slot? handle).map fun slot =>
      { slot with
        successors := if handle = source then slot.successors.erase target
          else slot.successors
        predecessors := if handle = target then slot.predecessors.erase source
          else slot.predecessors } := by
  rw [eraseEdge, slot_modifySlot, slot_modifySlot]
  cases graph.slot? handle with
  | none => simp
  | some slot => split <;> split <;> rfl

@[simp] theorem contains_writeEdge (source target handle : Nat) (weight : α) :
    (graph.writeEdge source target weight).contains handle = graph.contains handle := by
  simp [writeEdge]

@[simp] theorem contains_eraseEdge (source target handle : Nat) :
    (graph.eraseEdge source target).contains handle = graph.contains handle := by
  simp [eraseEdge]

@[simp] theorem node_writeEdge (source target handle : Nat) (weight : α) :
    (graph.writeEdge source target weight).node? handle = graph.node? handle := by
  rw [node?, slot_writeEdge, node?]
  cases graph.slot? handle <;> rfl

@[simp] theorem node_eraseEdge (source target handle : Nat) :
    (graph.eraseEdge source target).node? handle = graph.node? handle := by
  rw [node?, slot_eraseEdge, node?]
  cases graph.slot? handle <;> rfl

theorem edgeWeight_writeEdge (source target caller callee : Nat) (weight : α) :
    (graph.writeEdge source target weight).edgeWeight? caller callee =
      if caller = source ∧ callee = target ∧ graph.contains source then some weight
      else graph.edgeWeight? caller callee := by
  rw [edge_weight_eq, slot_writeEdge, edge_weight_eq, contains]
  by_cases first : caller = source
  · subst first
    cases graph.slot? caller <;> simp
  · simp only [first, false_and, if_false]
    cases graph.slot? caller <;> rfl

theorem callerWeight_writeEdge (source target callee caller : Nat) (weight : α) :
    (graph.writeEdge source target weight).callerWeight? callee caller =
      if caller = source ∧ callee = target ∧ graph.contains target then some weight
      else graph.callerWeight? callee caller := by
  rw [callerWeight?, slot_writeEdge, callerWeight?, contains]
  by_cases last : callee = target
  · subst last
    cases graph.slot? callee <;> simp
  · simp only [last, false_and, and_false, if_false]
    cases graph.slot? callee <;> rfl

theorem edgeWeight_eraseEdge (source target caller callee : Nat) :
    (graph.eraseEdge source target).edgeWeight? caller callee =
      if caller = source ∧ callee = target then none else graph.edgeWeight? caller callee := by
  rw [edge_weight_eq, slot_eraseEdge, edge_weight_eq]
  by_cases first : caller = source
  · subst first
    cases graph.slot? caller <;> simp
  · simp only [first, false_and, if_false]
    cases graph.slot? caller <;> rfl

theorem callerWeight_eraseEdge (source target callee caller : Nat) :
    (graph.eraseEdge source target).callerWeight? callee caller =
      if caller = source ∧ callee = target then none else graph.callerWeight? callee caller := by
  rw [callerWeight?, slot_eraseEdge, callerWeight?]
  by_cases last : callee = target
  · subst last
    cases graph.slot? callee <;> simp
  · simp only [last, and_false, if_false]
    cases graph.slot? callee <;> rfl

@[simp] theorem totalSamples_writeEdge (source target : Nat) (weight : α) :
    (graph.writeEdge source target weight).totalSamples = graph.totalSamples := rfl

theorem calls_writeEdge {source target caller callee : Nat} {weight : α}
    (live : graph.contains source) : (graph.writeEdge source target weight).Calls caller callee ↔
      graph.Calls caller callee ∨ (caller = source ∧ callee = target) := by
  rw [Calls, edgeWeight_writeEdge]
  by_cases written : caller = source ∧ callee = target
  · simp [written, live]
  · rw [if_neg fun ⟨first, last, _⟩ => written ⟨first, last⟩, ← Calls]
    simp only [written, or_false]

/-! Both copies stay equal. -/

theorem Consistent.modifyNode (consistent : graph.Consistent) (handle : Nat)
    (change : Node α → Node α) : (graph.modifyNode handle change).Consistent := by
  intro source target
  rw [edgeWeight_modifyNode, callerWeight_modifyNode, consistent]

theorem Consistent.writeEdge (consistent : graph.Consistent) {source target : Nat}
    (sourceLive : graph.contains source) (targetLive : graph.contains target) (weight : α) :
    (graph.writeEdge source target weight).Consistent := by
  intro caller callee
  rw [edgeWeight_writeEdge, callerWeight_writeEdge, consistent, sourceLive, targetLive]

theorem Consistent.eraseEdge (consistent : graph.Consistent) (source target : Nat) :
    (graph.eraseEdge source target).Consistent := by
  intro caller callee
  rw [edgeWeight_eraseEdge, callerWeight_eraseEdge, consistent]

/-! Detaching and deleting a node. -/

theorem dropEdge_eq (source target : Nat) : graph.dropEdge source target =
    if graph.Calls source target then graph.eraseEdge source target else graph := by
  cases held : graph.edgeWeight? source target <;> simp [dropEdge, removeEdge?, Calls, held]

/-- Drops the listed edges. -/
def dropEdges (graph : CallGraph α) (edges : List (Nat × Nat)) : CallGraph α :=
  edges.foldl (fun graph edge => graph.dropEdge edge.1 edge.2) graph

@[simp] theorem contains_dropEdge (source target handle : Nat) :
    (graph.dropEdge source target).contains handle = graph.contains handle := by
  rw [dropEdge_eq]
  split <;> simp

@[simp] theorem node_dropEdge (source target handle : Nat) :
    (graph.dropEdge source target).node? handle = graph.node? handle := by
  rw [dropEdge_eq]
  split <;> simp

@[simp] theorem totalSamples_dropEdge (source target : Nat) :
    (graph.dropEdge source target).totalSamples = graph.totalSamples := by
  rw [dropEdge_eq]
  split <;> rfl

theorem edgeWeight_dropEdge (source target caller callee : Nat) :
    (graph.dropEdge source target).edgeWeight? caller callee =
      if caller = source ∧ callee = target then none else graph.edgeWeight? caller callee := by
  rw [dropEdge_eq]
  split
  next => exact edgeWeight_eraseEdge ..
  next absent =>
    split
    next same => simpa [Calls, same] using absent
    next => rfl

theorem Consistent.dropEdge (consistent : graph.Consistent) (source target : Nat) :
    (graph.dropEdge source target).Consistent := by
  rw [dropEdge_eq]
  split
  · exact consistent.eraseEdge source target
  · exact consistent

@[simp] theorem contains_dropEdges (edges : List (Nat × Nat)) (handle : Nat) :
    (graph.dropEdges edges).contains handle = graph.contains handle := by
  induction edges generalizing graph with
  | nil => rfl
  | cons edge later ih => exact ih.trans (contains_dropEdge ..)

@[simp] theorem node_dropEdges (edges : List (Nat × Nat)) (handle : Nat) :
    (graph.dropEdges edges).node? handle = graph.node? handle := by
  induction edges generalizing graph with
  | nil => rfl
  | cons edge later ih => exact ih.trans (node_dropEdge ..)

@[simp] theorem totalSamples_dropEdges (edges : List (Nat × Nat)) :
    (graph.dropEdges edges).totalSamples = graph.totalSamples := by
  induction edges generalizing graph with
  | nil => rfl
  | cons edge later ih => exact ih.trans (totalSamples_dropEdge ..)

theorem edgeWeight_dropEdges (edges : List (Nat × Nat)) (caller callee : Nat) :
    (graph.dropEdges edges).edgeWeight? caller callee =
      if (caller, callee) ∈ edges then none else graph.edgeWeight? caller callee := by
  induction edges generalizing graph with
  | nil => simp [dropEdges]
  | cons edge later ih =>
    refine (@ih (graph.dropEdge edge.1 edge.2)).trans ?_
    rw [edgeWeight_dropEdge]
    by_cases dropped : (caller, callee) ∈ later
    · simp [dropped]
    · simp [dropped, Prod.ext_iff]

theorem Consistent.dropEdges (consistent : graph.Consistent) (edges : List (Nat × Nat)) :
    (graph.dropEdges edges).Consistent := by
  induction edges generalizing graph with
  | nil => exact consistent
  | cons edge later ih => exact ih (consistent.dropEdge edge.1 edge.2)

/-- The edges that detaching a node drops. -/
def incidentEdges (graph : CallGraph α) (handle : Nat) : List (Nat × Nat) :=
  (graph.predecessors handle).map (fun entry => (entry.1, handle)) ++
    (graph.successors handle).map fun entry => (handle, entry.1)

theorem detach_eq_dropEdges (handle : Nat) :
    graph.detach handle = graph.dropEdges (graph.incidentEdges handle) := by
  simp [detach, dropEdges, incidentEdges, List.foldl_map]

theorem Consistent.mem_incidentEdges (consistent : graph.Consistent) {handle caller callee : Nat} :
    (caller, callee) ∈ graph.incidentEdges handle ↔
      graph.Calls caller callee ∧ (caller = handle ∨ callee = handle) := by
  have inward : caller ∈ (graph.predecessors handle).map (·.1) ↔ graph.Calls caller handle :=
    consistent.mem_callers
  have outward : callee ∈ (graph.successors handle).map (·.1) ↔ graph.Calls handle callee :=
    mem_callees
  simp only [List.mem_map] at inward outward
  simp only [incidentEdges, List.mem_append, List.mem_map, Prod.mk.injEq]
  constructor
  · rintro (⟨entry, member, rfl, rfl⟩ | ⟨entry, member, rfl, rfl⟩)
    · exact ⟨inward.mp ⟨entry, member, rfl⟩, .inr rfl⟩
    · exact ⟨outward.mp ⟨entry, member, rfl⟩, .inl rfl⟩
  · rintro ⟨edge, rfl | rfl⟩
    · obtain ⟨entry, member, same⟩ := outward.mpr edge
      exact .inr ⟨entry, member, rfl, same⟩
    · obtain ⟨entry, member, same⟩ := inward.mpr edge
      exact .inl ⟨entry, member, same, rfl⟩

@[simp] theorem contains_detach (handle other : Nat) :
    (graph.detach handle).contains other = graph.contains other := by
  rw [detach_eq_dropEdges, contains_dropEdges]

@[simp] theorem node_detach (handle other : Nat) :
    (graph.detach handle).node? other = graph.node? other := by
  rw [detach_eq_dropEdges, node_dropEdges]

@[simp] theorem totalSamples_detach (handle : Nat) :
    (graph.detach handle).totalSamples = graph.totalSamples := by
  rw [detach_eq_dropEdges, totalSamples_dropEdges]

theorem Consistent.detach (consistent : graph.Consistent) (handle : Nat) :
    (graph.detach handle).Consistent := by
  rw [detach_eq_dropEdges]
  exact consistent.dropEdges _

/-- Detaching a node drops every edge at it and no other. -/
theorem Consistent.edgeWeight_detach (consistent : graph.Consistent) (handle caller callee : Nat) :
    (graph.detach handle).edgeWeight? caller callee =
      if caller = handle ∨ callee = handle then none else graph.edgeWeight? caller callee := by
  rw [detach_eq_dropEdges, edgeWeight_dropEdges]
  simp only [consistent.mem_incidentEdges]
  by_cases edge : graph.Calls caller callee
  · simp only [edge, true_and]
  · have absent : graph.edgeWeight? caller callee = none := by simpa [Calls] using edge
    simp only [absent, ite_self]

private theorem slot_delete {handle : Nat} {node : Node α}
    (live : graph.node? handle = some node) (other : Nat) :
    (graph.delete handle).slot? other =
      if other = handle then none else (graph.detach handle).slot? other := by
  simp only [delete, live, slot?, Array.getElem?_setIfInBounds]
  by_cases same : handle = other
  · subst same
    rw [if_pos rfl, if_pos rfl]
    split <;> rfl
  · simp [same, Ne.symm same]

private theorem delete_absent {handle : Nat} (absent : graph.node? handle = none) :
    graph.delete handle = graph := by
  simp only [delete, absent]

@[simp] theorem node_delete (handle other : Nat) :
    (graph.delete handle).node? other = if other = handle then none else graph.node? other := by
  cases live : graph.node? handle with
  | none =>
    rw [delete_absent live]
    split
    next same => rw [same, live]
    next => rfl
  | some node =>
    rw [node?, slot_delete live]
    split
    · rfl
    · exact node_detach handle other

@[simp] theorem contains_delete (handle other : Nat) :
    (graph.delete handle).contains other = (graph.contains other && other != handle) := by
  rw [contains_eq_isSome_node, node_delete, contains_eq_isSome_node]
  by_cases same : other = handle <;> simp [same]

@[simp] theorem totalSamples_delete (handle : Nat) :
    (graph.delete handle).totalSamples = graph.totalSamples := by
  rw [delete]
  split
  · rfl
  · exact totalSamples_detach handle

/-- Deleting a node drops every edge at it and no other. -/
theorem Consistent.edgeWeight_delete (consistent : graph.Consistent) (handle caller callee : Nat) :
    (graph.delete handle).edgeWeight? caller callee =
      if caller = handle ∨ callee = handle then none else graph.edgeWeight? caller callee := by
  rw [← consistent.edgeWeight_detach]
  cases live : graph.node? handle with
  | none =>
    rw [delete_absent live, consistent.edgeWeight_detach]
    split
    next incident =>
      refine Option.not_isSome_iff_eq_none.mp fun (edge : graph.Calls caller callee) => ?_
      have gone : graph.contains handle = false := by simp [contains_eq_isSome_node, live]
      rcases incident with rfl | rfl
      · exact absurd (contains_caller edge) (by simp [gone])
      · exact absurd (consistent.contains_callee edge) (by simp [gone])
    next => rfl
  | some node =>
    rw [edge_weight_eq, slot_delete live]
    split
    next first => rw [consistent.edgeWeight_detach, if_pos (.inl first)]; rfl
    next => rfl

theorem Consistent.delete (consistent : graph.Consistent) (handle : Nat) :
    (graph.delete handle).Consistent := by
  intro source target
  cases live : graph.node? handle with
  | none => rw [delete_absent live, consistent]
  | some node =>
    rw [consistent.edgeWeight_delete, callerWeight?, slot_delete live]
    have detached := consistent.detach handle source target
    rw [consistent.edgeWeight_detach] at detached
    by_cases last : target = handle
    · simp [last]
    · rw [if_neg last]
      exact detached

/-! Declaring a node. -/

theorem slot_push (slot : Slot α) (index : Std.ExtTreeMap String Nat) (handle : Nat) :
    slot? { graph with slots := graph.slots.push (some slot), index } handle =
      if handle = graph.slots.size then some slot else graph.slot? handle := by
  simp only [slot?, Array.getElem?_push]
  split <;> rfl

private theorem slot_size : graph.slot? graph.slots.size = none := by simp [slot?]

/-- A new node has no edges, and a new declaration of an old one leaves its
edges alone. -/
theorem addNode_edges {id name : String} {selfCoverage coverage : α} {handle : Nat}
    {next : CallGraph α} (ran : graph.addNode id name selfCoverage coverage = .ok (handle, next)) :
    (∀ source target, next.edgeWeight? source target = graph.edgeWeight? source target) ∧
      ∀ target source, next.callerWeight? target source = graph.callerWeight? target source := by
  rw [addNode] at ran
  split at ran
  next => cases ran
  next =>
    dsimp only at ran
    split at ran
    next =>
      cases ran
      exact ⟨fun _ _ => edgeWeight_modifyNode .., fun _ _ => callerWeight_modifyNode ..⟩
    next =>
      cases ran
      refine ⟨fun source target => ?_, fun target source => ?_⟩
      · rw [edge_weight_eq, slot_push, edge_weight_eq]
        split
        next same => simp [same, slot_size]
        next => rfl
      · rw [callerWeight?, slot_push, callerWeight?]
        split
        next same => simp [same, slot_size]
        next => rfl

theorem Consistent.addNode (consistent : graph.Consistent) {id name : String}
    {selfCoverage coverage : α} {handle : Nat} {next : CallGraph α}
    (ran : graph.addNode id name selfCoverage coverage = .ok (handle, next)) :
    next.Consistent := by
  obtain ⟨outward, inward⟩ := addNode_edges ran
  intro source target
  rw [outward, inward, consistent]

end ProfileGraph.CallGraph

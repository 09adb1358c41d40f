import ProfileGraph.Proofs.Moments

/-! What the passes do not look at. The name of a node and the notes of later
selection stages, and the coverage and the selector of the whole graph, are
carried along and never read. Blanking them out first and running a pass on the
rest is the same as running the pass first; this is shown for every function
that the passes call, and so graphs that differ in nothing else are treated
alike. -/
namespace ProfileGraph

/-- A node with its payload blanked out. -/
def Node.plain {α : Type} (node : Node α) : Node α := { node with name := "", selection := {} }

/-- A slot with the payload of its node blanked out. -/
def Slot.plain {α : Type} (slot : Slot α) : Slot α := { slot with node := slot.node.plain }

/-- A graph with all payload blanked out. -/
def CallGraph.plain {α : Type} [Quantity α] (graph : CallGraph α) : CallGraph α :=
  { graph with
    slots := graph.slots.map (Option.map Slot.plain)
    coverage := Quantity.zero
    selector := none }

/-- Graphs that differ in their payload at most. -/
def CallGraph.Alike {α : Type} [Quantity α] (left right : CallGraph α) : Prop :=
  left.plain = right.plain

/-- The result of a pass with all payload blanked out. -/
def PassResult.plain {ρ α : Type} [Quantity α] (result : PassResult ρ α) : PassResult ρ α :=
  ⟨result.graph.plain, result.outcome⟩

namespace CallGraph
variable {α β ρ σ : Type} [Quantity α] {graph : CallGraph α}

/-! Looking at a graph. -/

@[simp] theorem slot_plain (handle : Nat) :
    graph.plain.slot? handle = (graph.slot? handle).map Slot.plain := by
  simp only [slot?, plain, Array.getElem?_map]
  rcases graph.slots[handle]? with _ | _ | slot <;> rfl

@[simp] theorem node_plain (handle : Nat) :
    graph.plain.node? handle = (graph.node? handle).map Node.plain := by
  rw [node?, slot_plain, node?]
  cases graph.slot? handle <;> rfl

@[simp] theorem contains_plain (handle : Nat) :
    graph.plain.contains handle = graph.contains handle := by
  rw [contains, slot_plain, Option.isSome_map, contains]

@[simp] theorem handles_plain : graph.plain.handles = graph.handles := by
  have size : graph.plain.slots.size = graph.slots.size := Array.size_map
  rw [handles, size, handles]
  exact List.filter_congr fun handle _ => contains_plain handle

@[simp] theorem successors_plain (handle : Nat) :
    graph.plain.successors handle = graph.successors handle := by
  rw [successors, slot_plain, successors]
  cases graph.slot? handle <;> rfl

@[simp] theorem predecessors_plain (handle : Nat) :
    graph.plain.predecessors handle = graph.predecessors handle := by
  rw [predecessors, slot_plain, predecessors]
  cases graph.slot? handle <;> rfl

@[simp] theorem edgeWeight_plain (source target : Nat) :
    graph.plain.edgeWeight? source target = graph.edgeWeight? source target := by
  simp only [edgeWeight?, slot_plain]
  cases graph.slot? source <;> rfl

@[simp] theorem edges_plain : graph.plain.edges = graph.edges := by simp [edges]

@[simp] theorem nodeCount_plain : graph.plain.nodeCount = graph.nodeCount := by simp [nodeCount]

@[simp] theorem inWeight_plain (handle : Nat) :
    graph.plain.inWeight handle = graph.inWeight handle := by simp [inWeight]

@[simp] theorem outWeight_plain (handle : Nat) :
    graph.plain.outWeight handle = graph.outWeight handle := by simp [outWeight]

@[simp] theorem isRoot_plain (handle : Nat) : graph.plain.isRoot handle = graph.isRoot handle := by
  simp [isRoot]

@[simp] theorem totalSamples_plain : graph.plain.totalSamples = graph.totalSamples := rfl

@[simp] theorem profilerId_plain (handle : Nat) :
    graph.plain.profilerId handle = graph.profilerId handle := by
  rw [profilerId, node_plain, profilerId]
  cases graph.node? handle <;> rfl

/-! Searching and ordering. -/

theorem walk_plain (fuel : Nat) (path : List Nat) :
    graph.plain.walk fuel path = graph.walk fuel path := by
  induction fuel generalizing path with
  | zero => rfl
  | succ fuel ih =>
    funext handle done
    rw [walk, walk, ih, successors_plain]

@[simp] theorem findCycle_plain : graph.plain.findCycle? = graph.findCycle? := by
  rw [findCycle?, findCycle?, nodeCount_plain, handles_plain, walk_plain]

@[simp] theorem place_plain (fuel : Nat) (state : Placement) :
    graph.plain.place fuel state = graph.place fuel state := by
  induction fuel generalizing state with
  | zero => rfl
  | succ fuel ih =>
    rw [place, place]
    cases state.ready with
    | nil => rfl
    | cons handle ready => simp only [ih, successors_plain]

@[simp] theorem placementStart_plain : graph.plain.placementStart = graph.placementStart := by
  have size : graph.plain.slots.size = graph.slots.size := Array.size_map
  simp [placementStart, size]

@[simp] theorem topologicalOrder_plain : graph.plain.topologicalOrder = graph.topologicalOrder := by
  have named : graph.plain.profilerId = graph.profilerId := funext profilerId_plain
  simp [topologicalOrder, named]

/-! Parts of a pass. -/

theorem attempt_plain (outcome : Except GraphError (CallGraph α)) :
    graph.plain.attempt (outcome.map plain) = (graph.attempt outcome).plain := by
  cases outcome <;> rfl

theorem andThen_plain {first : PassResult ρ α} {next next' : ρ → CallGraph α → PassResult σ α}
    (same : ∀ report (graph : CallGraph α), next' report graph.plain = (next report graph).plain) :
    first.plain.andThen next' = (first.andThen next).plain := by
  obtain ⟨graph, error | report⟩ := first
  · rfl
  · exact same report graph

theorem foldl_plain {operate operate' : CallGraph α → β → CallGraph α}
    (same : ∀ item (graph : CallGraph α), operate' graph.plain item = (operate graph item).plain)
    (items : List β) : items.foldl operate' graph.plain = (items.foldl operate graph).plain := by
  induction items generalizing graph with
  | nil => rfl
  | cons item later ih => rw [List.foldl_cons, List.foldl_cons, same, ih]

theorem forEach_plain {step : β → CallGraph α → PassResult Unit α}
    (same : ∀ item (graph : CallGraph α), step item graph.plain = (step item graph).plain)
    (items : List β) : forEach step items graph.plain = (forEach step items graph).plain := by
  induction items generalizing graph with
  | nil => rfl
  | cons item later ih =>
    rw [forEach, same]
    exact andThen_plain fun _ _ => ih

/-! Changing a graph. -/

theorem modifySlot_plain (handle : Nat) {change change' : Slot α → Slot α}
    (same : ∀ slot, change' slot.plain = (change slot).plain) :
    graph.plain.modifySlot handle change' = (graph.modifySlot handle change).plain := by
  have slots : (graph.slots.map (Option.map Slot.plain)).modify handle (Option.map change') =
      (graph.slots.modify handle (Option.map change)).map (Option.map Slot.plain) := by
    refine Array.ext_getElem? fun other => ?_
    simp only [Array.getElem?_modify, Array.getElem?_map]
    split
    · rcases graph.slots[other]? with _ | _ | slot
      · rfl
      · rfl
      · simp [same]
    · rfl
  simp only [modifySlot, plain, slots]

theorem modifyNode_plain (handle : Nat) {change : Node α → Node α}
    (same : ∀ node, change node.plain = (change node).plain) :
    graph.plain.modifyNode handle change = (graph.modifyNode handle change).plain :=
  modifySlot_plain handle fun slot => congrArg (fun node => { slot with node }) (same slot.node)

theorem writeEdge_plain (source target : Nat) (weight : α) :
    graph.plain.writeEdge source target weight = (graph.writeEdge source target weight).plain := by
  refine Eq.trans (congrArg (modifySlot · target _) ?_) (modifySlot_plain target ?_)
  · exact modifySlot_plain source fun _ => rfl
  · exact fun _ => rfl

theorem eraseEdge_plain (source target : Nat) :
    graph.plain.eraseEdge source target = (graph.eraseEdge source target).plain := by
  refine Eq.trans (congrArg (modifySlot · target _) ?_) (modifySlot_plain target ?_)
  · exact modifySlot_plain source fun _ => rfl
  · exact fun _ => rfl

theorem strengthen_plain (source target : Nat) (weight : α) :
    graph.plain.strengthen source target weight =
      (graph.strengthen source target weight).plain := by
  rw [strengthen, edgeWeight_plain, writeEdge_plain]
  rfl

theorem addEdgeBetween_plain (source target : Nat) (weight : α) :
    graph.plain.addEdgeBetween source target weight =
      (graph.addEdgeBetween source target weight).map plain := by
  simp only [addEdgeBetween, contains_plain, strengthen_plain]
  split
  · rfl
  · split <;> rfl

theorem dropEdge_plain (source target : Nat) :
    graph.plain.dropEdge source target = (graph.dropEdge source target).plain := by
  rw [dropEdge, removeEdge?, edgeWeight_plain, dropEdge, removeEdge?]
  cases graph.edgeWeight? source target with
  | none => rfl
  | some weight => exact eraseEdge_plain source target

theorem detach_plain (handle : Nat) : graph.plain.detach handle = (graph.detach handle).plain := by
  simp only [detach, predecessors_plain, successors_plain]
  rw [foldl_plain fun _ _ => dropEdge_plain .., foldl_plain fun _ _ => dropEdge_plain ..]

theorem delete_plain (handle : Nat) : graph.plain.delete handle = (graph.delete handle).plain := by
  rw [delete, node_plain, delete]
  cases graph.node? handle with
  | none => rfl
  | some node =>
    simp only [Option.map_some, detach_plain]
    simp [plain, Node.plain, Array.map_setIfInBounds]

theorem removal_plain (handle : Nat) : removal handle graph.plain = (removal handle graph).plain := by
  rw [removal, removal, ← attempt_plain, removeNode, node_plain, removeNode]
  cases graph.node? handle with
  | none => rfl
  | some node => simp [Except.map, delete_plain]

/-! Collapsing. -/

theorem truncateEdge_plain (source target : Nat) :
    graph.plain.truncateEdge source target = (graph.truncateEdge source target).plain := by
  rw [truncateEdge, edgeWeight_plain, truncateEdge]
  cases graph.edgeWeight? source target with
  | none => rfl
  | some weight => exact writeEdge_plain ..

theorem attach_plain (edge : Nat × Nat × α) :
    attach edge graph.plain = (attach edge graph).plain := by
  rw [attach, attach, addEdgeBetween_plain, attempt_plain]
  refine andThen_plain fun _ graph => ?_
  rw [truncateEdge_plain]
  rfl

@[simp] theorem inflowCoverage_plain (handle : Nat) :
    graph.plain.inflowCoverage handle = graph.inflowCoverage handle := by
  simp [inflowCoverage]

@[simp] theorem mostCovered_plain (members : List Nat) :
    graph.plain.mostCovered? members = graph.mostCovered? members := by
  have better : graph.plain.better = graph.better := by
    funext best member
    simp only [CallGraph.better, node_plain]
    cases graph.node? member with
    | none => rfl
    | some node => cases best <;> rfl
  rw [mostCovered?, better, mostCovered?]

theorem merge_plain (members : List Nat) (survivor : Nat) :
    graph.plain.merge members survivor = (graph.merge members survivor).plain := by
  have callers : graph.plain.predecessors = graph.predecessors := funext predecessors_plain
  have callees : graph.plain.successors = graph.successors := funext successors_plain
  have named : graph.plain.profilerId = graph.profilerId := funext profilerId_plain
  rw [merge, node_plain, merge, callers, callees, named]
  cases graph.node? survivor with
  | none => rfl
  | some node =>
    dsimp only [Option.map_some]
    rw [forEach_plain fun _ _ => removal_plain _]
    refine andThen_plain fun _ graph => ?_
    rw [detach_plain, forEach_plain fun _ _ => attach_plain _]
    refine andThen_plain fun _ graph => ?_
    rw [forEach_plain fun _ _ => attach_plain _]
    refine andThen_plain fun _ graph => ?_
    rw [inflowCoverage_plain]
    exact congrArg (PassResult.mk · _) (modifyNode_plain survivor fun _ => rfl)

theorem collapse_plain (listed : List Nat) :
    graph.plain.collapse listed = (graph.collapse listed).plain := by
  simp only [collapse, totalSamples_plain, contains_plain, mostCovered_plain, merge_plain]
  split
  · rfl
  · split
    · rfl
    · split <;> rfl

theorem collapseFrom_plain (report : CollapseReport α) (fuel : Nat) :
    collapseFrom report fuel graph.plain = (collapseFrom report fuel graph).plain := by
  induction fuel generalizing graph report with
  | zero => rfl
  | succ fuel ih =>
    rw [collapseFrom, findCycle_plain, collapseFrom]
    cases graph.findCycle? with
    | none => rfl
    | some members =>
      dsimp only
      rw [collapse_plain]
      exact andThen_plain fun cycle _ => ih (report.push cycle)

theorem collapseAll_plain : graph.plain.collapseAll = graph.collapseAll.plain := by
  rw [collapseAll, nodeCount_plain, collapseFrom_plain]
  rfl

/-! Correcting and pruning. -/

theorem fixSelfCoverage_plain : graph.plain.fixSelfCoverage =
    graph.fixSelfCoverage.map fun (report, corrected) => (report, corrected.plain) := by
  have roots : graph.plain.isRoot = graph.isRoot := funext isRoot_plain
  have named : graph.plain.profilerId = graph.profilerId := funext profilerId_plain
  have retained : graph.plain.retainedCoverage = graph.retainedCoverage := by
    funext handle
    simp [retainedCoverage]
  have implied : graph.plain.impliedSelfCoverage = graph.impliedSelfCoverage := by
    funext handle
    rw [impliedSelfCoverage, retained, impliedSelfCoverage]
  rw [fixSelfCoverage, topologicalOrder_plain, fixSelfCoverage, roots, named, retained, implied,
    totalSamples_plain]
  cases graph.topologicalOrder with
  | error error => rfl
  | ok order =>
    dsimp only
    split
    · rfl
    · refine congrArg (fun corrected => Except.ok (_, corrected)) (foldl_plain (fun handle _ => ?_) _)
      exact modifyNode_plain handle fun _ => rfl

theorem credit_plain (caller : Nat) (share selfCoverage : α) :
    graph.plain.credit caller share selfCoverage =
      (graph.credit caller share selfCoverage).plain :=
  modifyNode_plain caller fun _ => rfl

theorem handOver_plain (selfCoverage inWeight : α) (callees : List (Nat × α))
    (entry : Nat × α) : handOver selfCoverage inWeight callees entry graph.plain =
      (handOver selfCoverage inWeight callees entry graph).plain := by
  rw [handOver, credit_plain, handOver]
  refine forEach_plain (fun (callee, passedOn) graph => ?_) callees
  dsimp only
  rw [addEdgeBetween_plain, attempt_plain]

theorem removeAndBridge_plain (handle : Nat) (node : Node α) :
    graph.plain.removeAndBridge handle node.plain = (graph.removeAndBridge handle node).plain := by
  simp only [removeAndBridge, predecessors_plain, successors_plain, inWeight_plain]
  rw [forEach_plain fun _ _ => handOver_plain ..]
  exact andThen_plain fun _ _ => removal_plain handle

theorem pruneAlong_plain (policy : RootPolicy) (report : PruneReport) (order : List Nat) :
    graph.plain.pruneAlong policy report order = (graph.pruneAlong policy report order).plain := by
  induction order generalizing graph report with
  | nil => rfl
  | cons handle later ih =>
    rw [pruneAlong, node_plain, pruneAlong]
    cases graph.node? handle with
    | none => exact ih report
    | some node =>
      simp only [Option.map_some, isRoot_plain, predecessors_plain, successors_plain,
        removeAndBridge_plain]
      by_cases interest : node.isInterestPoint
      · rw [if_pos interest, if_pos (show node.plain.isInterestPoint from interest)]
        exact ih report
      · rw [if_neg interest, if_neg (show ¬ node.plain.isInterestPoint from interest)]
        split
        · cases policy with
          | retain => exact ih _
          | forbid => rfl
        · exact andThen_plain fun _ _ => ih _

theorem prune_plain (policy : RootPolicy) :
    graph.plain.prune policy = (graph.prune policy).plain := by
  rw [prune, topologicalOrder_plain, prune]
  cases graph.topologicalOrder with
  | error error => rfl
  | ok order => exact pruneAlong_plain policy {} order

/-- The three passes commute with blanking out. -/
theorem simplify_plain (policy : RootPolicy) : graph.plain.simplify policy =
    { graph.simplify policy with graph := (graph.simplify policy).graph.plain } := by
  rw [simplify, collapseAll_plain, simplify]
  dsimp only [PassResult.plain]
  cases graph.collapseAll.outcome with
  | error error => rfl
  | ok collapse =>
    dsimp only
    rw [findCycle_plain]
    cases graph.collapseAll.graph.findCycle? with
    | some members =>
      dsimp only
      rw [profilerId_plain]
    | none =>
      dsimp only
      rw [fixSelfCoverage_plain]
      cases graph.collapseAll.graph.fixSelfCoverage with
      | error error => rfl
      | ok corrected =>
        dsimp only [Except.map]
        rw [prune_plain]
        dsimp only [PassResult.plain]
        cases (corrected.2.prune policy).outcome <;> rfl

/-! Two runs. -/

theorem Alike.trans {left middle right : CallGraph α} (first : left.Alike middle)
    (second : middle.Alike right) : left.Alike right := Eq.trans first second

theorem alike_fields (graph : CallGraph α) (coverage : α) (selector : Option String) :
    graph.Alike { graph with coverage, selector } := rfl

theorem alike_modifyNode (handle : Nat) {change : Node α → Node α}
    (same : ∀ node, (change node).plain = node.plain) :
    graph.Alike (graph.modifyNode handle change) := by
  have slots : graph.plain.slots.modify handle (Option.map id) = graph.plain.slots := by
    refine Array.ext_getElem? fun other => ?_
    simp [Array.getElem?_modify]
  have unchanged : graph.plain.modifySlot handle id = graph.plain := by rw [modifySlot, slots]
  rw [Alike, ← unchanged]
  exact modifySlot_plain handle fun slot =>
    congrArg (fun node => { slot with node }) (same slot.node).symm

theorem Alike.looks {left right : CallGraph α} (alike : left.Alike right) :
    left.handles = right.handles ∧ left.edges = right.edges ∧
      ∀ handle, (left.node? handle).map Node.plain = (right.node? handle).map Node.plain := by
  rw [Alike] at alike
  refine ⟨?_, ?_, fun handle => ?_⟩
  · rw [← handles_plain, alike, handles_plain]
  · rw [← edges_plain, alike, edges_plain]
  · rw [← node_plain, alike, node_plain]

/-- The nodes that are left have kept all but their coverages, and the graph has
kept what belongs to it as a whole. -/
def KeepsPayload (graph result : CallGraph α) : Prop :=
  (∀ handle after, result.node? handle = some after →
    ∃ before, graph.node? handle = some before ∧ after.Resembles before) ∧
  result.coverage = graph.coverage ∧ result.selector = graph.selector

theorem simplify_keepsPayload (policy : RootPolicy) :
    graph.KeepsPayload (graph.simplify policy).graph := by
  obtain ⟨_, journey⟩ :=
    (allValues_true graph).exists_journey_simplify Quantity.keeps_true policy
  exact ⟨fun _ _ => journey.node_before, journey.fields.2⟩

/-- The three passes do not read payload. On graphs that differ in nothing else
they end alike, with equal reports, and leave the same nodes and edges with the
same weights and coverages; and each run leaves every node its own name, id,
notes and interest, and the graph its coverage and selector. -/
theorem Alike.simplify_agrees {left right : CallGraph α} (alike : left.Alike right)
    (policy : RootPolicy) :
    let first := left.simplify policy
    let second := right.simplify policy
    (first.error = second.error ∧ first.collapse = second.collapse ∧
      first.correction = second.correction ∧ first.prune = second.prune) ∧
    (first.graph.Alike second.graph ∧ first.graph.handles = second.graph.handles ∧
      first.graph.edges = second.graph.edges ∧
      ∀ handle, (first.graph.node? handle).map Node.plain =
        (second.graph.node? handle).map Node.plain) ∧
    left.KeepsPayload first.graph ∧ right.KeepsPayload second.graph := by
  intro first second
  have same : { first with graph := first.graph.plain } =
      { second with graph := second.graph.plain } := by
    rw [← simplify_plain, ← simplify_plain, alike]
  injection same with graphs collapse correction prune error
  exact ⟨⟨error, collapse, correction, prune⟩, ⟨graphs, Alike.looks graphs⟩,
    simplify_keepsPayload policy, simplify_keepsPayload policy⟩

/-- A node under another name and with notes. -/
def Node.renamed (node : Node Binary64) : Node Binary64 :=
  { node with name := "walk", selection := { matching := true } }

/-- The same recursion with other payload. -/
def renamed : CallGraph Binary64 :=
  { recursive.modifyNode 1 Node.renamed with coverage := .ofNat 7, selector := some "cost" }

theorem recursive_simplify_agrees :
    recursive.Alike renamed ∧ (recursive.node? 1).map (·.name) ≠ (renamed.node? 1).map (·.name) ∧
    (renamed.simplify .retain).error = none ∧
    (recursive.simplify .retain).collapse = (renamed.simplify .retain).collapse ∧
    (recursive.simplify .retain).graph.edges = (renamed.simplify .retain).graph.edges ∧
    renamed.KeepsPayload (renamed.simplify .retain).graph := by
  have edited : recursive.Alike (recursive.modifyNode 1 Node.renamed) :=
    alike_modifyNode 1 fun _ => rfl
  have alike : recursive.Alike renamed := edited.trans (alike_fields _ _ _)
  obtain ⟨⟨error, collapse, _⟩, ⟨_, _, edges, _⟩, _, keeps⟩ := alike.simplify_agrees .retain
  exact ⟨alike, by decide +kernel, error ▸ by decide +kernel, collapse, edges, keeps⟩

end CallGraph
end ProfileGraph

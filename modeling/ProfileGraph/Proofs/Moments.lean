import ProfileGraph.Proofs.Journeys

/-! The moments of every pass. Each function that changes a graph has a list of the
graphs that it goes through, made like the function itself out of the lists of
its parts, and the list is a journey from the graph it is given to the graph it
leaves, also when it fails half-way. The weights and coverages that it writes
are computed from values in the graph by arithmetic that keeps the property. -/
namespace ProfileGraph

/-- What is listed of the second part of a pass, if the first part succeeds. -/
def PassResult.onward {ρ α γ : Type} (first : PassResult ρ α)
    (list : ρ → CallGraph α → List γ) : List γ :=
  match first.outcome with
  | .ok report => list report first.graph
  | .error _ => []

section Slots
variable {α : Type} {good : α → Prop} {slot : Slot α}

theorem WeightMap.insert_values {map : WeightMap α} (values : ∀ entry ∈ map.entries, good entry.2)
    (handle : Nat) {weight : α} (fits : good weight) :
    ∀ entry ∈ (map.insert handle weight).entries, good entry.2 := by
  intro entry member
  rcases mem_insertEntry member with rfl | member
  · exact fits
  · exact values entry member

theorem WeightMap.erase_values {map : WeightMap α} (values : ∀ entry ∈ map.entries, good entry.2)
    (handle : Nat) : ∀ entry ∈ (map.erase handle).entries, good entry.2 :=
  fun entry member => values entry (List.mem_filter.mp member).1

theorem Slot.AllValues.insertSuccessor (values : slot.AllValues good) (handle : Nat) {weight : α}
    (fits : good weight) :
    Slot.AllValues good { slot with successors := slot.successors.insert handle weight } :=
  { values with successors := WeightMap.insert_values values.successors handle fits }

theorem Slot.AllValues.insertPredecessor (values : slot.AllValues good) (handle : Nat) {weight : α}
    (fits : good weight) :
    Slot.AllValues good { slot with predecessors := slot.predecessors.insert handle weight } :=
  { values with predecessors := WeightMap.insert_values values.predecessors handle fits }

theorem Slot.AllValues.eraseSuccessor (values : slot.AllValues good) (handle : Nat) :
    Slot.AllValues good { slot with successors := slot.successors.erase handle } :=
  { values with successors := WeightMap.erase_values values.successors handle }

theorem Slot.AllValues.erasePredecessor (values : slot.AllValues good) (handle : Nat) :
    Slot.AllValues good { slot with predecessors := slot.predecessors.erase handle } :=
  { values with predecessors := WeightMap.erase_values values.predecessors handle }

end Slots

namespace CallGraph
variable {α β ρ σ : Type} {good : α → Prop} {graph result : CallGraph α}
  {moments : List (CallGraph α)}

/-! Parts of a pass. -/

/-- What is listed along a loop of changes that cannot fail. -/
def listAlong {γ : Type} (operate : CallGraph α → β → CallGraph α)
    (list : CallGraph α → β → List γ) : List β → CallGraph α → List γ
  | [], _ => []
  | item :: later, graph => list graph item ++ listAlong operate list later (operate graph item)

/-- What a loop of steps goes through, up to the first that fails. -/
def forEachMoments (step : β → CallGraph α → PassResult Unit α)
    (moments : β → CallGraph α → List (CallGraph α)) : List β → CallGraph α → List (CallGraph α)
  | [], _ => []
  | item :: later, graph =>
    moments item graph ++ (step item graph).onward fun () graph =>
      forEachMoments step moments later graph

theorem Journey.andThen {first : PassResult ρ α} {next : ρ → CallGraph α → PassResult σ α}
    {onward : ρ → CallGraph α → List (CallGraph α)}
    (journey : Journey good graph moments first.graph) (values : graph.AllValues good)
    (continues : ∀ report, first.graph.AllValues good →
      Journey good first.graph (onward report first.graph) (next report first.graph).graph) :
    Journey good graph (moments ++ first.onward onward) (first.andThen next).graph := by
  have middle := (journey.allValues values).1
  obtain ⟨between, error | report⟩ := first
  · exact journey.append .done
  · exact journey.append (continues report middle)

theorem journey_foldl {operate : CallGraph α → β → CallGraph α}
    {moments : CallGraph α → β → List (CallGraph α)} {items : List β}
    (each : ∀ item ∈ items, ∀ graph : CallGraph α, graph.AllValues good →
      Journey good graph (moments graph item) (operate graph item))
    (values : graph.AllValues good) :
    Journey good graph (listAlong operate moments items graph) (items.foldl operate graph) := by
  induction items generalizing graph with
  | nil => exact .done
  | cons item later ih =>
    obtain ⟨here, each⟩ := List.forall_mem_cons.mp each
    have first := here graph values
    exact first.append (ih each (first.allValues values).1)

theorem journey_forEach {step : β → CallGraph α → PassResult Unit α}
    {moments : β → CallGraph α → List (CallGraph α)} {items : List β}
    (each : ∀ item ∈ items, ∀ graph : CallGraph α, graph.AllValues good →
      Journey good graph (moments item graph) (step item graph).graph)
    (values : graph.AllValues good) :
    Journey good graph (forEachMoments step moments items graph)
      (forEach step items graph).graph := by
  induction items generalizing graph with
  | nil => exact .done
  | cons item later ih =>
    obtain ⟨here, each⟩ := List.forall_mem_cons.mp each
    exact (here graph values).andThen values fun () middle => ih each middle

/-! Edges. -/

theorem AllValues.journey_bothEnds (values : graph.AllValues good) (source target : Nat)
    {outward inward : Slot α → Slot α} (ownNode : ∀ slot, (outward slot).node = slot.node)
    (ownNode' : ∀ slot, (inward slot).node = slot.node)
    (keeps : ∀ slot, slot.AllValues good → (outward slot).AllValues good)
    (keeps' : ∀ slot, slot.AllValues good → (inward slot).AllValues good) :
    Journey good graph
      [graph.modifySlot source outward, (graph.modifySlot source outward).modifySlot target inward]
      ((graph.modifySlot source outward).modifySlot target inward) := by
  have first := values.modifySlot source keeps
  have second := first.modifySlot target keeps'
  refine .write (.edit source outward fun slot => ?_) first
    (.single (.edit target inward fun slot => ?_) second)
  · rw [ownNode]
    exact .refl slot.node
  · rw [ownNode']
    exact .refl slot.node

/-- Writing an edge goes through the graph in which only its source has it. -/
def writeMoments (graph : CallGraph α) (source target : Nat) (weight : α) : List (CallGraph α) :=
  [graph.modifySlot source fun slot =>
      { slot with successors := slot.successors.insert target weight },
    graph.writeEdge source target weight]

theorem AllValues.journey_writeEdge (values : graph.AllValues good) (source target : Nat)
    {weight : α} (fits : good weight) :
    Journey good graph (graph.writeMoments source target weight)
      (graph.writeEdge source target weight) :=
  values.journey_bothEnds source target (fun _ => rfl) (fun _ => rfl)
    (fun _ here => here.insertSuccessor target fits)
    fun _ here => here.insertPredecessor source fits

/-- Dropping an edge goes through the graph in which only its target has it. -/
def dropMoments (graph : CallGraph α) (source target : Nat) : List (CallGraph α) :=
  if graph.Calls source target then
    [graph.modifySlot source fun slot => { slot with successors := slot.successors.erase target },
      graph.eraseEdge source target]
  else []

theorem AllValues.journey_dropEdge (values : graph.AllValues good) (source target : Nat) :
    Journey good graph (graph.dropMoments source target) (graph.dropEdge source target) := by
  rw [dropEdge_eq, dropMoments]
  split
  · exact values.journey_bothEnds source target (fun _ => rfl) (fun _ => rfl)
      (fun _ here => here.eraseSuccessor target) fun _ here => here.erasePredecessor source
  · exact .done

/-- What detaching a node goes through. -/
def detachMoments (graph : CallGraph α) (handle : Nat) : List (CallGraph α) :=
  listAlong (fun graph (edge : Nat × Nat) => graph.dropEdge edge.1 edge.2)
    (fun graph edge => graph.dropMoments edge.1 edge.2) (graph.incidentEdges handle) graph

theorem AllValues.journey_detach (values : graph.AllValues good) (handle : Nat) :
    Journey good graph (graph.detachMoments handle) (graph.detach handle) := by
  rw [detach_eq_dropEdges]
  exact journey_foldl (fun edge _ _ here => here.journey_dropEdge edge.1 edge.2) values

/-- What deleting a node goes through. -/
def removalMoments (handle : Nat) (graph : CallGraph α) : List (CallGraph α) :=
  match graph.node? handle with
  | none => []
  | some _ => graph.detachMoments handle ++ [graph.delete handle]

theorem AllValues.journey_removal (values : graph.AllValues good) (handle : Nat) :
    Journey good graph (removalMoments handle graph) (removal handle graph).graph := by
  rw [removal, removeNode, removalMoments]
  cases held : graph.node? handle with
  | none => exact .done
  | some node =>
    have detached := values.journey_detach handle
    have left := (detached.allValues values).1
    have id : (graph.detach handle).idAt? handle = some node.profilerId := by
      rw [idAt?, node_detach, held]
      rfl
    refine detached.append (?_ : Journey good _ _ (graph.delete handle))
    rw [delete, held]
    exact .single (.vacate id) (left.vacate handle node.profilerId)

theorem AllValues.journey_modifyNode (values : graph.AllValues good) (handle : Nat)
    {change : Node α → Node α} (resembles : ∀ node, (change node).Resembles node)
    (keeps : ∀ node : Node α, good node.coverage → good node.selfCoverage →
      good (change node).coverage ∧ good (change node).selfCoverage) :
    Journey good graph [graph.modifyNode handle change] (graph.modifyNode handle change) := by
  refine .single (.edit handle _ fun slot => resembles slot.node) (values.modifySlot handle ?_)
  intro slot here
  obtain ⟨coverage, selfCoverage⟩ := keeps slot.node here.coverage here.selfCoverage
  exact ⟨coverage, selfCoverage, here.successors, here.predecessors⟩

variable [Quantity α]

/-- What adding to an edge between two handles goes through. -/
def linkMoments (graph : CallGraph α) (source target : Nat) (weight : α) : List (CallGraph α) :=
  match graph.addEdgeBetween source target weight with
  | .ok _ => graph.writeMoments source target
      ((graph.edgeWeight? source target).getD Quantity.zero + weight)
  | .error _ => []

/-- What cutting down the weight of an edge goes through. -/
def truncateMoments (graph : CallGraph α) (source target : Nat) : List (CallGraph α) :=
  match graph.edgeWeight? source target with
  | some weight => graph.writeMoments source target (Quantity.truncate weight)
  | none => []

/-- What attaching an edge goes through. -/
def attachMoments : Nat × Nat × α → CallGraph α → List (CallGraph α)
  | (source, target, weight), graph =>
    graph.linkMoments source target weight ++
      (graph.attempt (graph.addEdgeBetween source target weight)).onward fun () graph =>
        graph.truncateMoments source target

section Edges
variable (values : graph.AllValues good) (keeps : Quantity.Keeps good)
include values keeps

theorem AllValues.journey_link (source target : Nat) {weight : α} (fits : good weight) :
    Journey good graph (graph.linkMoments source target weight)
      (graph.attempt (graph.addEdgeBetween source target weight)).graph := by
  rw [linkMoments]
  cases ran : graph.addEdgeBetween source target weight with
  | error error => exact .done
  | ok linked =>
    obtain ⟨_, _, rfl⟩ := addEdgeBetween_eq_ok ran
    refine values.journey_writeEdge source target (keeps.add ?_ fits)
    cases held : graph.edgeWeight? source target with
    | none => exact keeps.zero
    | some weight => exact values.edgeWeight held

theorem AllValues.journey_truncateEdge (source target : Nat) :
    Journey good graph (graph.truncateMoments source target)
      (graph.truncateEdge source target) := by
  rw [truncateEdge, truncateMoments]
  cases held : graph.edgeWeight? source target with
  | none => exact .done
  | some weight =>
    exact values.journey_writeEdge source target (keeps.truncate (values.edgeWeight held))

theorem AllValues.journey_attach {edge : Nat × Nat × α} (fits : good edge.2.2) :
    Journey good graph (attachMoments edge graph) (attach edge graph).graph :=
  (values.journey_link keeps edge.1 edge.2.1 fits).andThen values fun () middle =>
    middle.journey_truncateEdge keeps edge.1 edge.2.1

end Edges

/-! Collapsing. -/

theorem borderWeights_values (keeps : Quantity.Keeps good) {neighbours : Nat → List (Nat × α)}
    (values : ∀ handle, ∀ entry ∈ neighbours handle, good entry.2) (members : List Nat) :
    ∀ entry ∈ (borderWeights neighbours members).entries, good entry.2 := by
  rw [borderWeights]
  have crossing {keep : Nat × α → Bool} :
      ∀ entry ∈ (members.flatMap neighbours).filter keep, good entry.2 := by
    intro entry listed
    obtain ⟨member, _, here⟩ := List.mem_flatMap.mp (List.mem_filter.mp listed).1
    exact values member entry here
  refine List.foldlRecOn (motive := fun border : WeightMap α => ∀ entry ∈ border.entries,
    good entry.2) _ _ (fun entry none => by cases none) fun border sofar entry listed => ?_
  refine WeightMap.insert_values sofar entry.1 (keeps.add ?_ (crossing entry listed))
  rw [WeightMap.weight]
  cases held : border.get? entry.1 with
  | none => exact keeps.zero
  | some weight => exact sofar (entry.1, weight) (WeightMap.mem_entries.mpr held)

/-- What merging goes through: the other members are deleted, the survivor is
detached and gets the edges of the border, and then its coverage. -/
def mergeMoments (graph : CallGraph α) (members : List Nat) (survivor : Nat) :
    List (CallGraph α) :=
  match graph.node? survivor with
  | none => []
  | some _ =>
    let inbound := graph.inboundEdges members survivor
    let outbound := graph.outboundEdges members survivor
    let others := members.filter (· != survivor)
    forEachMoments removal removalMoments others graph ++
    (forEach removal others graph).onward fun () graph =>
    (graph.detachMoments survivor ++
      forEachMoments attach attachMoments inbound (graph.detach survivor)) ++
    (forEach attach inbound (graph.detach survivor)).onward fun () graph =>
    forEachMoments attach attachMoments outbound graph ++
    (forEach attach outbound graph).onward fun () graph =>
      [graph.modifyNode survivor fun node =>
        { node with coverage := graph.inflowCoverage survivor }]

/-- What collapsing listed nodes goes through. -/
def collapseMoments (graph : CallGraph α) (listed : List Nat) : List (CallGraph α) :=
  if graph.totalSamples = 0 then []
  else match listed.find? fun handle => !graph.contains handle with
    | some _ => []
    | none =>
      match graph.mostCovered? listed.eraseDups with
      | none => []
      | some survivor => graph.mergeMoments listed.eraseDups survivor

/-- What collapsing cycles goes through, at most `fuel` of them. -/
def collapseFromMoments : Nat → CallGraph α → List (CallGraph α)
  | 0, _ => []
  | fuel + 1, graph =>
    match graph.findCycle? with
    | none => []
    | some members => graph.collapseMoments members ++
      (graph.collapse members).onward fun _ graph => collapseFromMoments fuel graph

section Collapsing
variable (values : graph.AllValues good) (keeps : Quantity.Keeps good)
include values keeps

theorem AllValues.journey_setCoverage (samples : graph.totalSamples ≠ 0) (handle : Nat) :
    let coverage := graph.inflowCoverage handle
    Journey good graph [graph.modifyNode handle fun node => { node with coverage }]
      (graph.modifyNode handle fun node => { node with coverage }) := by
  intro coverage
  have fits : good coverage := by
    have percent := keeps.mul (keeps.ofCount 100) (values.inWeight keeps handle)
    exact keeps.roundTo 1 (keeps.perSample percent samples)
  exact values.journey_modifyNode handle (fun _ => rfl) fun _ _ selfCoverage => ⟨fits, selfCoverage⟩

theorem AllValues.journey_merge (samples : graph.totalSamples ≠ 0) (members : List Nat)
    (survivor : Nat) : Journey good graph (graph.mergeMoments members survivor)
      (graph.merge members survivor).graph := by
  have inbound : ∀ edge ∈ graph.inboundEdges members survivor, good edge.2.2 := by
    intro edge listed
    obtain ⟨entry, crossing, rfl⟩ := List.mem_map.mp listed
    exact borderWeights_values keeps (fun _ => values.predecessors) members entry crossing
  have outbound : ∀ edge ∈ graph.outboundEdges members survivor, good edge.2.2 := by
    intro edge listed
    obtain ⟨entry, crossing, rfl⟩ := List.mem_map.mp listed
    exact borderWeights_values keeps (fun _ => values.successors) members entry crossing
  rw [merge, mergeMoments]
  cases graph.node? survivor with
  | none => exact .done
  | some node =>
    dsimp only
    have removed : Journey good graph
        (forEachMoments removal removalMoments (members.filter (· != survivor)) graph)
        (forEach removal (members.filter (· != survivor)) graph).graph :=
      journey_forEach (fun handle _ _ here => here.journey_removal handle) values
    have attaching {edges : List (Nat × Nat × α)} (fits : ∀ edge ∈ edges, good edge.2.2) :
        ∀ {middle : CallGraph α}, middle.AllValues good →
        Journey good middle (forEachMoments attach attachMoments edges middle)
          (forEach attach edges middle).graph :=
      journey_forEach fun edge listed _ here => here.journey_attach keeps (fits edge listed)
    refine removed.andThen values fun () here => ?_
    have detached := here.journey_detach survivor
    have first := detached.append (attaching inbound (detached.allValues here).1)
    refine first.andThen here fun () there => ?_
    have second := attaching outbound there
    refine second.andThen there fun () last => last.journey_setCoverage keeps ?_ survivor
    rwa [second.fields.1, first.fields.1, removed.fields.1]

theorem AllValues.journey_collapse (listed : List Nat) :
    Journey good graph (graph.collapseMoments listed) (graph.collapse listed).graph := by
  rw [collapse, collapseMoments]
  by_cases samples : graph.totalSamples = 0
  · rw [if_pos samples, if_pos samples]
    exact .done
  · rw [if_neg samples, if_neg samples]
    cases listed.find? fun handle => !graph.contains handle with
    | some handle => exact .done
    | none =>
      dsimp only
      cases graph.mostCovered? listed.eraseDups with
      | none => exact .done
      | some survivor => exact values.journey_merge keeps samples _ survivor

omit values in
theorem journey_collapseFrom (report : CollapseReport α) (fuel : Nat)
    (values : graph.AllValues good) :
    Journey good graph (collapseFromMoments fuel graph) (collapseFrom report fuel graph).graph := by
  induction fuel generalizing graph report with
  | zero => exact .done
  | succ fuel ih =>
    rw [collapseFrom, collapseFromMoments]
    cases graph.findCycle? with
    | none => exact .done
    | some members =>
      exact (values.journey_collapse keeps members).andThen values fun cycle middle =>
        ih (report.push cycle) middle

end Collapsing

/-! Correcting self coverage. -/

/-- Gives a node the self coverage that its edges had implied before. -/
def correctNode (graph : CallGraph α) (corrected : CallGraph α) (handle : Nat) : CallGraph α :=
  corrected.modifyNode handle fun node =>
    { node with selfCoverage := graph.impliedSelfCoverage handle }

/-- What correcting self coverage goes through. -/
def correctMoments (graph : CallGraph α) : List (CallGraph α) :=
  match graph.topologicalOrder with
  | .error _ => []
  | .ok order =>
    let inner := order.filter fun handle => !graph.isRoot handle
    if graph.totalSamples = 0 ∧ inner ≠ [] then []
    else listAlong graph.correctNode
      (fun corrected handle => [graph.correctNode corrected handle]) inner graph

section Correcting
variable (values : graph.AllValues good) (keeps : Quantity.Keeps good)
include values keeps

theorem AllValues.impliedSelfCoverage (samples : graph.totalSamples ≠ 0) (handle : Nat) :
    good (graph.impliedSelfCoverage handle) := by
  rw [CallGraph.impliedSelfCoverage]
  split
  next => exact keeps.zero
  next positive =>
    exact keeps.retained (values.inWeight keeps handle) (values.outWeight keeps handle) samples
      positive

theorem AllValues.journey_correct : Journey good graph graph.correctMoments
    (graph.attempt (graph.fixSelfCoverage.map (·.2))).graph := by
  rw [fixSelfCoverage, correctMoments]
  cases graph.topologicalOrder with
  | error error => exact .done
  | ok order =>
    dsimp only
    split
    next => exact .done
    next enough =>
      refine journey_foldl (fun handle member middle here => ?_) values
      have samples : graph.totalSamples ≠ 0 := fun lack =>
        enough ⟨lack, List.ne_nil_of_mem member⟩
      have fits := values.impliedSelfCoverage keeps samples handle
      exact here.journey_modifyNode handle (fun _ => rfl) fun _ coverage _ => ⟨coverage, fits⟩

end Correcting

/-! Pruning. -/

/-- Links a caller of a node to one of its callees. -/
def linkOver (caller : Nat) (received inWeight : α) :
    Nat × α → CallGraph α → PassResult Unit α
  | (callee, passedOn), graph => graph.attempt (graph.addEdgeBetween caller callee
      (Quantity.roundTo 2 (received * (passedOn / inWeight))))

/-- What handing over to one caller goes through. -/
def handOverMoments (selfCoverage inWeight : α) (callees : List (Nat × α)) :
    Nat × α → CallGraph α → List (CallGraph α)
  | (caller, received), graph =>
    let credited := graph.credit caller (Quantity.roundTo 2 (received / inWeight)) selfCoverage
    credited :: forEachMoments (linkOver caller received inWeight)
      (fun (callee, passedOn) graph => graph.linkMoments caller callee
        (Quantity.roundTo 2 (received * (passedOn / inWeight)))) callees credited

/-- What linking the callers of a node to its callees and deleting it goes
through. -/
def bridgeMoments (graph : CallGraph α) (handle : Nat) (node : Node α) : List (CallGraph α) :=
  let callers := graph.predecessors handle
  let callees := graph.successors handle
  let inWeight := graph.inWeight handle
  forEachMoments (handOver node.selfCoverage inWeight callees)
    (handOverMoments node.selfCoverage inWeight callees) callers graph ++
  (forEach (handOver node.selfCoverage inWeight callees) callers graph).onward fun () graph =>
    removalMoments handle graph

/-- What visiting nodes in order goes through. -/
def pruneAlongMoments (policy : RootPolicy) (graph : CallGraph α) :
    List Nat → List (CallGraph α)
  | [] => []
  | handle :: later =>
    match graph.node? handle with
    | none => pruneAlongMoments policy graph later
    | some node =>
      if node.isInterestPoint then pruneAlongMoments policy graph later
      else if graph.isRoot handle then
        match policy with
        | .retain => pruneAlongMoments policy graph later
        | .forbid => []
      else graph.bridgeMoments handle node ++
        (graph.removeAndBridge handle node).onward fun () graph =>
          pruneAlongMoments policy graph later

/-- What pruning goes through. -/
def pruneMoments (policy : RootPolicy) (graph : CallGraph α) : List (CallGraph α) :=
  match graph.topologicalOrder with
  | .error _ => []
  | .ok order => graph.pruneAlongMoments policy order

section Pruning
variable (values : graph.AllValues good) (keeps : Quantity.Keeps good)
include values keeps

theorem AllValues.journey_credit (caller : Nat) {share selfCoverage : α} (part : good share)
    (fits : good selfCoverage) :
    Journey good graph [graph.credit caller share selfCoverage]
      (graph.credit caller share selfCoverage) :=
  values.journey_modifyNode caller (fun _ => rfl) fun _ coverage own =>
    ⟨coverage, keeps.roundTo 2 (keeps.add own (keeps.mul fits part))⟩

theorem AllValues.journey_handOver {selfCoverage inWeight : α} {callees : List (Nat × α)}
    (fits : good selfCoverage) (divides : good inWeight) (nonzero : ¬ Quantity.isZero inWeight)
    (passed : ∀ entry ∈ callees, good entry.2) {entry : Nat × α} (received : good entry.2) :
    Journey good graph (handOverMoments selfCoverage inWeight callees entry graph)
      (handOver selfCoverage inWeight callees entry graph).graph := by
  have share : good (Quantity.roundTo 2 (entry.2 / inWeight)) :=
    keeps.roundTo 2 (keeps.div received divides nonzero)
  have credited := values.journey_credit keeps entry.1 share fits
  refine credited.append (journey_forEach (fun callee listed middle here => ?_)
    (credited.allValues values).1)
  have part := keeps.div (passed callee listed) divides nonzero
  exact here.journey_link keeps entry.1 callee.1 (keeps.roundTo 2 (keeps.mul received part))

theorem AllValues.journey_removeAndBridge {handle : Nat} {node : Node α}
    (held : graph.node? handle = some node) (inner : ¬ graph.isRoot handle) :
    Journey good graph (graph.bridgeMoments handle node)
      (graph.removeAndBridge handle node).graph := by
  rw [bridgeMoments, removeAndBridge]
  refine (journey_forEach (fun entry listed middle here => ?_) values).andThen values
    fun () middle => middle.journey_removal handle
  exact here.journey_handOver keeps (values.node held).2 (values.inWeight keeps handle) inner
    values.successors (values.predecessors entry listed)

omit values in
theorem journey_pruneAlong (policy : RootPolicy) (report : PruneReport) (order : List Nat)
    (values : graph.AllValues good) :
    Journey good graph (graph.pruneAlongMoments policy order)
      (graph.pruneAlong policy report order).graph := by
  induction order generalizing graph report with
  | nil => exact .done
  | cons handle later ih =>
    rw [pruneAlong]
    -- The equations of the list distinguish the policies before anything else.
    unfold pruneAlongMoments
    cases held : graph.node? handle with
    | none => exact ih report values
    | some node =>
      dsimp only
      by_cases interest : node.isInterestPoint
      · rw [if_pos interest, if_pos interest]
        exact ih report values
      · rw [if_neg interest, if_neg interest]
        by_cases root : graph.isRoot handle
        · rw [if_pos root, if_pos root]
          cases policy with
          | retain => exact ih _ values
          | forbid => exact .done
        · rw [if_neg root, if_neg root]
          exact (values.journey_removeAndBridge keeps held root).andThen values fun () middle =>
            ih _ middle

theorem AllValues.journey_prune (policy : RootPolicy) :
    Journey good graph (graph.pruneMoments policy) (graph.prune policy).graph := by
  rw [CallGraph.prune, pruneMoments]
  cases graph.topologicalOrder with
  | error error => exact .done
  | ok order => exact journey_pruneAlong keeps policy {} order values

/-- The three passes in sequence, as far as they come. -/
theorem AllValues.exists_journey_simplify (policy : RootPolicy) :
    ∃ moments, Journey good graph moments (graph.simplify policy).graph := by
  have collapsed : Journey good graph _ graph.collapseAll.graph :=
    journey_collapseFrom keeps {} _ values
  have middle := (collapsed.allValues values).1
  rw [simplify]
  dsimp only
  split
  next => exact ⟨_, collapsed⟩
  next =>
    split
    next => exact ⟨_, collapsed⟩
    next =>
      split
      next => exact ⟨_, collapsed⟩
      next ran =>
        have corrected := middle.journey_correct keeps
        rw [ran] at corrected
        have pruned := (corrected.allValues middle).1.journey_prune keeps policy
        have whole := collapsed.append (corrected.append pruned)
        split <;> exact ⟨_, whole⟩

end Pruning

/-! Stages in any order. -/

end CallGraph

/-- A stage of simplification. -/
inductive Stage where
  | collapse
  | correct
  | prune (policy : RootPolicy)
deriving DecidableEq

/-- The call that runs a stage. -/
def Stage.operation {α : Type} : Stage → Operation α
  | .collapse => .collapseAll
  | .correct => .correct
  | .prune policy => .prune policy

namespace CallGraph
variable {α : Type} [Quantity α] {good : α → Prop} {graph : CallGraph α}

/-- The graph after several stages. A stage that fails leaves what it changed,
and the next one goes on from there. -/
def runStages (graph : CallGraph α) (stages : List Stage) : CallGraph α :=
  graph.performAll (stages.map Stage.operation)

/-- What a stage goes through. -/
def stageMoments (graph : CallGraph α) : Stage → List (CallGraph α)
  | .collapse => collapseFromMoments (2 * graph.nodeCount + 1) graph
  | .correct => graph.correctMoments
  | .prune policy => graph.pruneMoments policy

/-- What several stages go through. -/
def stagesMoments (graph : CallGraph α) (stages : List Stage) : List (CallGraph α) :=
  listAlong (fun graph (stage : Stage) => graph.perform stage.operation) stageMoments stages graph

theorem AllValues.journey_stages (values : graph.AllValues good) (keeps : Quantity.Keeps good)
    (stages : List Stage) :
    Journey good graph (graph.stagesMoments stages) (graph.runStages stages) := by
  rw [runStages, performAll, List.foldl_map]
  refine journey_foldl (fun stage _ middle here => ?_) values
  cases stage with
  | collapse => exact journey_collapseFrom keeps {} _ here
  | correct => exact here.journey_correct keeps
  | prune policy => exact here.journey_prune keeps policy

end CallGraph
end ProfileGraph

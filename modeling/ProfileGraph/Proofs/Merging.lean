import ProfileGraph.Proofs.Steps
import ProfileGraph.Simplify.Collapse

/-! What collapsing one set of nodes does. The checked steps all succeed on
live nodes, and what they leave is described by `Merged`: the members are gone
except for the survivor, the survivor has an edge wherever the border of the
set was crossed, and all other edges are as before. -/
namespace ProfileGraph.CallGraph

variable {α : Type} {graph : CallGraph α}

/-! Isolating the survivor. -/

/-- The graph with all members but the survivor deleted, and the survivor
without edges. -/
def isolated (graph : CallGraph α) (members : List Nat) (survivor : Nat) : CallGraph α :=
  (graph.deleteAll (members.filter (· != survivor))).detach survivor

theorem contains_isolated (members : List Nat) (survivor handle : Nat) :
    (graph.isolated members survivor).contains handle ↔
      graph.contains handle ∧ (handle ∈ members → handle = survivor) := by
  simp only [isolated, contains_detach, contains_deleteAll, Bool.and_eq_true, Bool.not_eq_true',
    List.contains_eq_mem, decide_eq_false_iff_not, List.mem_filter, bne_iff_ne, ne_eq, not_and,
    Decidable.not_not]

theorem Consistent.isolated (consistent : graph.Consistent) (members : List Nat) (survivor : Nat) :
    (graph.isolated members survivor).Consistent :=
  (consistent.deleteAll _).detach survivor

/-- No edge at a member is left. -/
theorem Consistent.calls_isolated (consistent : graph.Consistent) {members : List Nat}
    {survivor caller callee : Nat} (inside : survivor ∈ members) :
    (graph.isolated members survivor).Calls caller callee ↔
      caller ∉ members ∧ callee ∉ members ∧ graph.Calls caller callee := by
  have cleared : ∀ handle, handle ∈ members ↔
      handle = survivor ∨ handle ∈ members.filter (· != survivor) := by
    intro handle
    by_cases same : handle = survivor <;> simp [same, inside]
  rw [Calls, CallGraph.isolated, (consistent.deleteAll _).edgeWeight_detach,
    consistent.edgeWeight_deleteAll, cleared caller, cleared callee]
  simp only [not_or]
  split
  next atSurvivor =>
    simp only [Option.isSome_none, Bool.false_eq_true, false_iff]
    rintro ⟨⟨first, _⟩, ⟨last, _⟩, _⟩
    exact atSurvivor.elim first last
  next apart =>
    split
    next atOther =>
      simp only [Option.isSome_none, Bool.false_eq_true, false_iff]
      rintro ⟨⟨_, first⟩, ⟨_, last⟩, _⟩
      exact atOther.elim first last
    next outside =>
      obtain ⟨first, last⟩ := not_or.mp apart
      obtain ⟨first', last'⟩ := not_or.mp outside
      exact ⟨fun edge => ⟨⟨first, first'⟩, ⟨last, last'⟩, edge⟩, fun kept => kept.2.2⟩

/-! What merging leaves. -/

/-- What is left once some nodes are replaced by one of them. -/
structure Merged (graph : CallGraph α) (members : List Nat) (survivor : Nat)
    (result : CallGraph α) : Prop where
  consistent : result.Consistent
  inside : survivor ∈ members
  contains_iff : ∀ handle, result.contains handle ↔
    graph.contains handle ∧ (handle ∈ members → handle = survivor)
  calls_iff : ∀ caller callee, result.Calls caller callee ↔
    (caller ∉ members ∧ callee ∉ members ∧ graph.Calls caller callee) ∨
    (callee = survivor ∧ caller ∉ members ∧ ∃ member ∈ members, graph.Calls caller member) ∨
    (caller = survivor ∧ callee ∉ members ∧ ∃ member ∈ members, graph.Calls member callee)
  node_eq : ∀ handle, handle ∉ members → result.node? handle = graph.node? handle
  survivor_eq : ∀ node, graph.node? survivor = some node →
    ∃ coverage, result.node? survivor = some { node with coverage }
  totalSamples : result.totalSamples = graph.totalSamples

theorem Merged.setCoverage {members : List Nat} {survivor : Nat} {result : CallGraph α}
    (left : graph.Merged members survivor result) (coverage : α) :
    graph.Merged members survivor
      (result.modifyNode survivor fun node => { node with coverage }) where
  consistent := left.consistent.modifyNode survivor _
  inside := left.inside
  contains_iff other := by rw [contains_modifyNode, left.contains_iff]
  calls_iff caller callee := by rw [Calls, edgeWeight_modifyNode, ← Calls, left.calls_iff]
  node_eq handle outside := by
    have different : handle ≠ survivor := fun same => outside (same ▸ left.inside)
    rw [node_modifyNode, if_neg different, left.node_eq handle outside]
  survivor_eq node held := by
    obtain ⟨_, kept⟩ := left.survivor_eq node held
    exact ⟨coverage, by rw [node_modifyNode, if_pos rfl, kept]; rfl⟩
  totalSamples := left.totalSamples

theorem Merged.congr {members listed : List Nat} {survivor : Nat} {result : CallGraph α}
    (left : graph.Merged members survivor result)
    (same : ∀ handle, handle ∈ members ↔ handle ∈ listed) : graph.Merged listed survivor result where
  consistent := left.consistent
  inside := (same survivor).mp left.inside
  contains_iff handle := by rw [left.contains_iff, same]
  calls_iff caller callee := by simp only [left.calls_iff, same]
  node_eq handle outside := left.node_eq handle fun inside => outside ((same handle).mp inside)
  survivor_eq := left.survivor_eq
  totalSamples := left.totalSamples

variable [Quantity α]

/-! Attaching edges. -/

/-- The graph with an edge attached that carries a whole number of samples. -/
def attached (graph : CallGraph α) (edge : Nat × Nat × α) : CallGraph α :=
  (graph.strengthen edge.1 edge.2.1 edge.2.2).truncateEdge edge.1 edge.2.1

@[simp] theorem contains_truncateEdge (source target handle : Nat) :
    (graph.truncateEdge source target).contains handle = graph.contains handle := by
  rw [truncateEdge]
  split <;> simp

@[simp] theorem node_truncateEdge (source target handle : Nat) :
    (graph.truncateEdge source target).node? handle = graph.node? handle := by
  rw [truncateEdge]
  split <;> simp

@[simp] theorem totalSamples_truncateEdge (source target : Nat) :
    (graph.truncateEdge source target).totalSamples = graph.totalSamples := by
  rw [truncateEdge]
  split <;> rfl

theorem calls_truncateEdge {source target caller callee : Nat} :
    (graph.truncateEdge source target).Calls caller callee ↔ graph.Calls caller callee := by
  rw [truncateEdge]
  split
  next weight held =>
    have edge := calls_of_weight held
    rw [calls_writeEdge (contains_caller edge)]
    refine or_iff_left_of_imp ?_
    rintro ⟨rfl, rfl⟩
    exact edge
  next => exact Iff.rfl

theorem Consistent.truncateEdge (consistent : graph.Consistent) (source target : Nat) :
    (graph.truncateEdge source target).Consistent := by
  rw [CallGraph.truncateEdge]
  split
  next weight held =>
    have edge := calls_of_weight held
    exact consistent.writeEdge (contains_caller edge) (consistent.contains_callee edge) _
  next => exact consistent

/-- Both ends of a listed edge are live. -/
def EndsLive (graph : CallGraph α) (edge : Nat × Nat × α) : Prop :=
  graph.contains edge.1 ∧ graph.contains edge.2.1

theorem attach_of_live {edge : Nat × Nat × α} (live : graph.EndsLive edge) :
    attach edge graph = ⟨graph.attached edge, .ok ()⟩ := by
  obtain ⟨source, target, weight⟩ := edge
  simp only [attach, addEdgeBetween_of_live live.1 live.2, attempt]
  rfl

/-- Attaches the listed edges. -/
def attachAll (graph : CallGraph α) (edges : List (Nat × Nat × α)) : CallGraph α :=
  edges.foldl attached graph

@[simp] theorem contains_attachAll (edges : List (Nat × Nat × α)) (handle : Nat) :
    (graph.attachAll edges).contains handle = graph.contains handle := by
  induction edges generalizing graph with
  | nil => rfl
  | cons edge later ih => exact (@ih (graph.attached edge)).trans (by simp [attached])

@[simp] theorem node_attachAll (edges : List (Nat × Nat × α)) (handle : Nat) :
    (graph.attachAll edges).node? handle = graph.node? handle := by
  induction edges generalizing graph with
  | nil => rfl
  | cons edge later ih => exact (@ih (graph.attached edge)).trans (by simp [attached])

@[simp] theorem totalSamples_attachAll (edges : List (Nat × Nat × α)) :
    (graph.attachAll edges).totalSamples = graph.totalSamples := by
  induction edges generalizing graph with
  | nil => rfl
  | cons edge later ih => exact (@ih (graph.attached edge)).trans (by simp [attached])

/-- Attaching edges between live nodes never fails, keeps both copies equal
and adds exactly the listed edges. -/
theorem Consistent.forEach_attach (consistent : graph.Consistent) (edges : List (Nat × Nat × α))
    (live : ∀ edge ∈ edges, graph.EndsLive edge) :
    forEach attach edges graph = ⟨graph.attachAll edges, .ok ()⟩ ∧
      (graph.attachAll edges).Consistent ∧
      ∀ caller callee, (graph.attachAll edges).Calls caller callee ↔
        graph.Calls caller callee ∨ ∃ weight, (caller, callee, weight) ∈ edges := by
  induction edges generalizing graph with
  | nil => exact ⟨rfl, consistent, by simp [attachAll]⟩
  | cons edge later ih =>
    obtain ⟨sourceLive, targetLive⟩ := live edge List.mem_cons_self
    have step : (graph.attached edge).Consistent :=
      (consistent.strengthen sourceLive targetLive edge.2.2).truncateEdge edge.1 edge.2.1
    have laterLive : ∀ other ∈ later, (graph.attached edge).EndsLive other := fun other member => by
      simpa [EndsLive, attached] using live other (List.mem_cons_of_mem edge member)
    obtain ⟨ran, kept, added⟩ := ih step laterLive
    refine ⟨?_, kept, fun caller callee => (added caller callee).trans ?_⟩
    · rw [forEach, attach_of_live ⟨sourceLive, targetLive⟩]
      exact ran
    · rw [attached, calls_truncateEdge, calls_strengthen sourceLive, or_assoc]
      refine or_congr Iff.rfl ?_
      constructor
      · rintro (⟨rfl, rfl⟩ | ⟨weight, member⟩)
        · exact ⟨edge.2.2, List.mem_cons_self⟩
        · exact ⟨weight, List.mem_cons_of_mem edge member⟩
      · rintro ⟨weight, member⟩
        rcases List.mem_cons.mp member with same | member
        · exact .inl ⟨congrArg (·.1) same, congrArg (·.2.1) same⟩
        · exact .inr ⟨weight, member⟩

/-! The border of a set of nodes. -/

private theorem get_add (border : WeightMap α) (handle other : Nat) (weight : α) :
    ((border.add handle weight).get? other).isSome ↔
      other = handle ∨ (border.get? other).isSome := by
  rw [WeightMap.add, WeightMap.get?_insert]
  split
  next same => simp [same]
  next different => simp [different]

private theorem get_border_foldl (crossing : List (Nat × α)) (border : WeightMap α) (other : Nat) :
    ((crossing.foldl (fun border (other, weight) => border.add other weight) border).get?
        other).isSome ↔ other ∈ crossing.map (·.1) ∨ (border.get? other).isSome := by
  induction crossing generalizing border with
  | nil => simp
  | cons entry later ih =>
    refine (ih _).trans ?_
    rw [get_add, List.map_cons, List.mem_cons, or_left_comm, or_assoc]

/-- The border names exactly the neighbours outside. -/
theorem mem_borderWeights {neighbours : Nat → List (Nat × α)} {members : List Nat} {other : Nat} :
    other ∈ (borderWeights neighbours members).entries.map (·.1) ↔
      other ∉ members ∧ ∃ member ∈ members, other ∈ (neighbours member).map (·.1) := by
  rw [WeightMap.mem_keys, borderWeights, get_border_foldl]
  simp only [WeightMap.get?_empty, Option.isSome_none, Bool.false_eq_true, or_false,
    List.mem_map, List.mem_filter, List.mem_flatMap]
  constructor
  · rintro ⟨entry, ⟨⟨member, inside, listed⟩, outside⟩, rfl⟩
    exact ⟨by simpa using outside, member, inside, entry, listed, rfl⟩
  · rintro ⟨outside, member, inside, entry, listed, rfl⟩
    exact ⟨entry, ⟨⟨member, inside, listed⟩, by simpa using outside⟩, rfl⟩

/-- The edges that the survivor gets from callers outside. -/
def inboundEdges (graph : CallGraph α) (members : List Nat) (survivor : Nat) :
    List (Nat × Nat × α) :=
  (borderWeights graph.predecessors members).entries.map
    fun (caller, weight) => (caller, survivor, weight)

/-- The edges that the survivor gets to callees outside. -/
def outboundEdges (graph : CallGraph α) (members : List Nat) (survivor : Nat) :
    List (Nat × Nat × α) :=
  (borderWeights graph.successors members).entries.map
    fun (callee, weight) => (survivor, callee, weight)

private theorem mem_border_edges {β : Type} {border : WeightMap β} (edge : Nat → Nat × Nat)
    {first last : Nat} :
    (∃ weight, (first, last, weight) ∈
        border.entries.map fun (other, weight) => ((edge other).1, (edge other).2, weight)) ↔
      ∃ other ∈ border.entries.map (·.1), edge other = (first, last) := by
  simp only [List.mem_map, Prod.ext_iff]
  constructor
  · rintro ⟨_, entry, member, same, same', _⟩
    exact ⟨entry.1, ⟨entry, member, rfl⟩, same, same'⟩
  · rintro ⟨_, ⟨entry, member, rfl⟩, same, same'⟩
    exact ⟨entry.2, entry, member, same, same', rfl⟩

theorem Consistent.mem_inboundEdges (consistent : graph.Consistent) {members : List Nat}
    {survivor caller callee : Nat} :
    (∃ weight, (caller, callee, weight) ∈ graph.inboundEdges members survivor) ↔
      callee = survivor ∧ caller ∉ members ∧ ∃ member ∈ members, graph.Calls caller member := by
  refine (mem_border_edges fun other => (other, survivor)).trans ?_
  simp only [mem_borderWeights, consistent.mem_callers, Prod.mk.injEq]
  constructor
  · rintro ⟨other, crossing, rfl, rfl⟩
    exact ⟨rfl, crossing⟩
  · rintro ⟨rfl, crossing⟩
    exact ⟨caller, crossing, rfl, rfl⟩

theorem mem_outboundEdges {members : List Nat} {survivor caller callee : Nat} :
    (∃ weight, (caller, callee, weight) ∈ graph.outboundEdges members survivor) ↔
      caller = survivor ∧ callee ∉ members ∧ ∃ member ∈ members, graph.Calls member callee := by
  refine (mem_border_edges fun other => (survivor, other)).trans ?_
  simp only [mem_borderWeights, mem_callees, Prod.mk.injEq]
  constructor
  · rintro ⟨other, crossing, rfl, rfl⟩
    exact ⟨rfl, crossing⟩
  · rintro ⟨rfl, crossing⟩
    exact ⟨callee, crossing, rfl, rfl⟩

/-! Merging. -/

/-- The isolated survivor with the edges of the border attached. -/
def rejoined (graph : CallGraph α) (members : List Nat) (survivor : Nat) : CallGraph α :=
  ((graph.isolated members survivor).attachAll (graph.inboundEdges members survivor)).attachAll
    (graph.outboundEdges members survivor)

/-- The graph that merging leaves. -/
def merged (graph : CallGraph α) (members : List Nat) (survivor : Nat) : CallGraph α :=
  (graph.rejoined members survivor).modifyNode survivor fun node =>
    { node with coverage := (graph.rejoined members survivor).inflowCoverage survivor }

/-- The edges of the border lead from live nodes to live nodes. -/
theorem Consistent.endsLive_border (consistent : graph.Consistent) {members : List Nat}
    {survivor : Nat} (live : ∀ member ∈ members, graph.contains member)
    (inside : survivor ∈ members) :
    (∀ edge ∈ graph.inboundEdges members survivor,
      (graph.isolated members survivor).EndsLive edge) ∧
    ∀ edge ∈ graph.outboundEdges members survivor,
      ((graph.isolated members survivor).attachAll
        (graph.inboundEdges members survivor)).EndsLive edge := by
  have survivorLive : (graph.isolated members survivor).contains survivor :=
    (contains_isolated members survivor survivor).mpr ⟨live survivor inside, fun _ => rfl⟩
  have outsideLive : ∀ {other}, graph.contains other → other ∉ members →
      (graph.isolated members survivor).contains other := fun alive outside =>
    (contains_isolated members survivor _).mpr ⟨alive, fun member => absurd member outside⟩
  refine ⟨fun edge member => ?_, fun edge member => ?_⟩
  · obtain ⟨last, outside, _, _, crossing⟩ := consistent.mem_inboundEdges.mp ⟨edge.2.2, member⟩
    exact ⟨outsideLive (contains_caller crossing) outside, last ▸ survivorLive⟩
  · obtain ⟨first, outside, _, _, crossing⟩ := mem_outboundEdges.mp ⟨edge.2.2, member⟩
    simp only [EndsLive, contains_attachAll]
    exact ⟨first ▸ survivorLive, outsideLive (consistent.contains_callee crossing) outside⟩

/-- Attaching the edges of the border never fails. -/
theorem Consistent.rejoin_spec (consistent : graph.Consistent) {members : List Nat} {survivor : Nat}
    (live : ∀ member ∈ members, graph.contains member) (inside : survivor ∈ members) :
    ((forEach attach (graph.inboundEdges members survivor)
        (graph.isolated members survivor)).andThen fun _ =>
      forEach attach (graph.outboundEdges members survivor)) =
        ⟨graph.rejoined members survivor, .ok ()⟩ ∧
      graph.Merged members survivor (graph.rejoined members survivor) := by
  obtain ⟨inLive, outLive⟩ := consistent.endsLive_border live inside
  obtain ⟨ranIn, keptIn, addedIn⟩ :=
    (consistent.isolated members survivor).forEach_attach _ inLive
  obtain ⟨ranOut, keptOut, addedOut⟩ := keptIn.forEach_attach _ outLive
  refine ⟨?_, keptOut, inside, fun handle => ?_, fun caller callee => ?_, fun handle outside => ?_,
    fun node held => ⟨node.coverage, ?_⟩, ?_⟩
  · rw [ranIn]
    exact ranOut
  · rw [rejoined, contains_attachAll, contains_attachAll, contains_isolated]
  · rw [rejoined, addedOut, addedIn, consistent.calls_isolated inside, consistent.mem_inboundEdges,
      mem_outboundEdges, or_assoc]
  · simp [rejoined, CallGraph.isolated, node_deleteAll, outside]
  · simp [rejoined, CallGraph.isolated, node_deleteAll, held]
  · simp [rejoined, CallGraph.isolated]

/-- Merging live nodes into one of them never fails. -/
theorem Consistent.merge_spec (consistent : graph.Consistent) {members : List Nat} {survivor : Nat}
    (distinct : members.Nodup) (live : ∀ member ∈ members, graph.contains member)
    (inside : survivor ∈ members) :
    graph.merge members survivor = ⟨graph.merged members survivor, .ok
      ⟨graph.profilerId survivor, (members.filter (· != survivor)).map graph.profilerId,
        (graph.rejoined members survivor).inflowCoverage survivor⟩⟩ ∧
      graph.Merged members survivor (graph.merged members survivor) := by
  obtain ⟨rejoin, left⟩ := consistent.rejoin_spec live inside
  have deleted : forEach removal (members.filter (· != survivor)) graph = _ :=
    forEach_removal (distinct.filter (· != survivor)) fun handle member =>
      live handle (List.mem_filter.mp member).1
  refine ⟨?_, left.setCoverage _⟩
  obtain ⟨node, held⟩ := contains_iff_node.mp (live survivor inside)
  have named : graph.profilerId survivor = node.profilerId := by rw [profilerId, held]
  rw [merge, held, named]
  dsimp only
  rw [deleted]
  refine (PassResult.andThen_assoc (forEach attach (graph.inboundEdges members survivor)
    (graph.isolated members survivor))
    (fun _ => forEach attach (graph.outboundEdges members survivor)) _).symm.trans ?_
  rw [rejoin]
  rfl

/-! Collapsing. -/

theorem nodup_eraseDups (handles : List Nat) : handles.eraseDups.Nodup := by
  induction length : handles.length using Nat.strongRecOn generalizing handles with
  | ind count ih =>
    cases handles with
    | nil => exact List.nodup_nil
    | cons first later =>
      rw [List.eraseDups_cons]
      have shorter : (later.filter fun other => !other == first).length < count :=
        Nat.lt_of_le_of_lt (List.length_filter_le ..) (by simp [← length])
      refine List.nodup_cons.mpr ⟨fun again => ?_, ih _ shorter _ rfl⟩
      simp at again

private theorem foldl_chooses {β : Type} {choose : Option (Nat × β) → Nat → Option (Nat × β)}
    {members : List Nat} (best : Option (Nat × β))
    (chooses : ∀ best, ∀ member ∈ members,
      choose best member = best ∧ best.isSome ∨ ∃ top, choose best member = some (member, top)) :
    members.foldl choose best = best ∧ (best.isSome ∨ members = []) ∨
      ∃ member ∈ members, ∃ top, members.foldl choose best = some (member, top) := by
  induction members generalizing best with
  | nil => exact .inl ⟨rfl, .inr rfl⟩
  | cons first later ih =>
    have rest := ih (choose best first) fun best member inside =>
      chooses best member (List.mem_cons_of_mem first inside)
    rw [List.foldl_cons]
    rcases rest with ⟨kept, _⟩ | ⟨member, inside, found⟩
    · rw [kept]
      rcases chooses best first List.mem_cons_self with ⟨same, some⟩ | found
      · exact .inl ⟨same, .inl some⟩
      · exact .inr ⟨first, List.mem_cons_self, found⟩
    · exact .inr ⟨member, List.mem_cons_of_mem first inside, found⟩

/-- Of live nodes, if there are any, one has most coverage. -/
theorem mostCovered_mem {members : List Nat} (nonempty : members ≠ [])
    (live : ∀ member ∈ members, graph.contains member) :
    ∃ survivor ∈ members, graph.mostCovered? members = some survivor := by
  have chooses : ∀ (best : Option (Nat × α)), ∀ member ∈ members,
      better graph best member = best ∧ best.isSome ∨
        ∃ top, better graph best member = some (member, top) := by
    intro best member inside
    obtain ⟨node, held⟩ := contains_iff_node.mp (live member inside)
    simp only [better, held]
    cases best with
    | none => exact .inr ⟨_, rfl⟩
    | some best =>
      dsimp only
      split
      · exact .inl ⟨rfl, rfl⟩
      · exact .inr ⟨_, rfl⟩
  rw [mostCovered?]
  rcases foldl_chooses none chooses with ⟨_, absent | empty⟩ | ⟨survivor, inside, _, chosen⟩
  · exact absurd absent Bool.false_ne_true
  · exact absurd empty nonempty
  · exact ⟨survivor, inside, by rw [chosen]; rfl⟩

theorem eraseDups_of_nodup {handles : List Nat} (distinct : handles.Nodup) :
    handles.eraseDups = handles := by
  induction handles with
  | nil => rfl
  | cons first later ih =>
    obtain ⟨fresh, distinct⟩ := List.nodup_cons.mp distinct
    have others : (later.filter fun other => !other == first) = later :=
      List.filter_eq_self.mpr fun other member => by
        simpa using fun same : other = first => fresh (same ▸ member)
    rw [List.eraseDups_cons, others, ih distinct]

/-- Whatever nodes are listed, collapsing them either is refused and changes
nothing, or merges them into one of them. It succeeds for live nodes if there
are samples. -/
theorem Consistent.collapse_merges (consistent : graph.Consistent) (listed : List Nat) :
    (∃ error, graph.collapse listed = ⟨graph, .error error⟩ ∧
      (graph.totalSamples = 0 ∨ listed = [] ∨ ∃ handle ∈ listed, graph.contains handle = false)) ∨
    ∃ survivor cycle, graph.collapse listed = ⟨graph.merged listed.eraseDups survivor, .ok cycle⟩ ∧
      (∀ member ∈ listed, graph.contains member) ∧
      graph.Merged listed survivor (graph.merged listed.eraseDups survivor) := by
  rw [collapse]
  split
  next none => exact .inl ⟨_, rfl, .inl none⟩
  next =>
    split
    next handle missing =>
      refine .inl ⟨_, rfl, .inr (.inr ⟨handle, List.mem_of_find?_eq_some missing, ?_⟩)⟩
      simpa using List.find?_some missing
    next present =>
      have live : ∀ member ∈ listed.eraseDups, graph.contains member := fun member inside => by
        simpa using List.find?_eq_none.mp present member (List.mem_eraseDups.mp inside)
      by_cases empty : listed = []
      · subst empty
        exact .inl ⟨_, rfl, .inr (.inl rfl)⟩
      · have nonempty : listed.eraseDups ≠ [] := fun none => empty <| by
          rw [List.eq_nil_iff_forall_not_mem] at none ⊢
          exact fun handle inside => none handle (List.mem_eraseDups.mpr inside)
        obtain ⟨survivor, inside, chosen⟩ := mostCovered_mem nonempty live
        obtain ⟨ran, left⟩ := consistent.merge_spec (nodup_eraseDups listed) live inside
        refine .inr ⟨survivor, _, Eq.trans ?_ ran,
          fun member inside => live member (List.mem_eraseDups.mpr inside),
          left.congr fun handle => List.mem_eraseDups⟩
        dsimp only
        rw [chosen]

theorem Consistent.collapse_spec (consistent : graph.Consistent) (listed : List Nat) :
    (∃ error, graph.collapse listed = ⟨graph, .error error⟩ ∧
      (graph.totalSamples = 0 ∨ listed = [] ∨ ∃ handle ∈ listed, graph.contains handle = false)) ∨
    ∃ survivor cycle result, graph.collapse listed = ⟨result, .ok cycle⟩ ∧
      graph.Merged listed survivor result := by
  refine (consistent.collapse_merges listed).imp_right ?_
  rintro ⟨survivor, cycle, ran, _, left⟩
  exact ⟨survivor, cycle, _, ran, left⟩

end ProfileGraph.CallGraph

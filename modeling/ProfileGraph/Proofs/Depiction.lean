import Mathlib.Algebra.Order.Ring.Nat
import ProfileGraph.Pipeline.Build
import ProfileGraph.Proofs.Registration

/-! The graph that records describe. The records alone say which nodes there
are, what is noted of them, how often they call each other and how many samples
there are; `Depicts` says that a graph is just that. Every record that fits
behind those entered before extends what the graph depicts, and every other one
is refused. -/
namespace ProfileGraph

/-! What records say. -/

/-- The declarations among records. -/
def declarations (records : List Record) : List NodeRecord :=
  records.filterMap fun
    | .node declared => some declared
    | _ => none

/-- The declared ids, each at its first declaration. -/
def nodeIds (records : List Record) : List String :=
  ((declarations records).map (·.id)).eraseDups

/-- The declaration of an id that no later one replaces. -/
def lastDeclaration? (records : List Record) (id : String) : Option NodeRecord :=
  ((declarations records).filter (·.id == id)).getLast?

/-- The counts of the calls from one function to another, in their order. -/
def callCounts (records : List Record) (source target : String) : List Nat :=
  records.filterMap fun
    | .edge call => if call.source = source ∧ call.target = target then some call.weight else none
    | _ => none

/-- The sample counts of the legends. -/
def legendCounts (records : List Record) : List Nat :=
  records.filterMap fun
    | .legend totalSamples => some totalSamples
    | _ => none

/-- Calls fit behind the declarations of both functions; all other records fit
everywhere. -/
def Record.FitsBehind (earlier : List Record) : Record → Prop
  | .edge call => call.source ∈ nodeIds earlier ∧ call.target ∈ nodeIds earlier
  | _ => True

/-- Every record fits behind those before it. -/
def Fits (records : List Record) : Prop :=
  ∀ n (record : Record), records[n]? = some record → record.FitsBehind (records.take n)

instance (record : Record) (earlier : List Record) : Decidable (record.FitsBehind earlier) :=
  match record with
  | .edge _ => inferInstanceAs (Decidable (_ ∧ _))
  | .node _ | .legend _ | .ignored => isTrue trivial

theorem fits_iff {records : List Record} : Fits records ↔
    ∀ n (inside : n < records.length), records[n].FitsBehind (records.take n) := by
  refine ⟨fun fits n inside => fits n _ (List.getElem?_eq_getElem inside), ?_⟩
  intro fits n record held
  obtain ⟨inside, rfl⟩ := List.getElem?_eq_some_iff.mp held
  exact fits n inside

instance (records : List Record) : Decidable (Fits records) := decidable_of_iff' _ fits_iff

/-! One more record. -/

/-- What depends on ids in their order and has no result for a new id is not
changed by enlisting it. -/
theorem getElem_enlist_bind {β : Type} {declared : List String} {id : String}
    {result? : String → Option β} (new : id ∉ declared → result? id = none) (n : Nat) :
    (enlist declared id)[n]?.bind result? = declared[n]?.bind result? := by
  rw [enlist]
  split
  next => rfl
  next absent =>
    rcases Nat.lt_trichotomy n declared.length with inside | rfl | outside
    · rw [List.getElem?_append_left inside]
    · rw [List.getElem?_concat_length, List.getElem?_eq_none le_rfl]
      exact new absent
    · rw [List.getElem?_eq_none outside.le,
        List.getElem?_eq_none (by simpa using Nat.succ_le_of_lt outside)]

section Concat
variable {records : List Record}

theorem mem_enlist {declared : List String} {id other : String} (member : other ∈ declared) :
    other ∈ enlist declared id := by
  rw [enlist]
  split
  next => exact member
  next => exact List.mem_append_left _ member

theorem nodeIds_concat_node (records : List Record) (declared : NodeRecord) :
    nodeIds (records ++ [.node declared]) = enlist (nodeIds records) declared.id := by
  simp only [nodeIds, declarations, List.filterMap_append, List.map_append]
  exact eraseDups_concat _ _

theorem nodeIds_concat_edge (records : List Record) (call : EdgeRecord) :
    nodeIds (records ++ [.edge call]) = nodeIds records := by
  simp [nodeIds, declarations]

theorem lastDeclaration_concat_node (declared : NodeRecord) (id : String) :
    lastDeclaration? (records ++ [.node declared]) id =
      if declared.id = id then some declared else lastDeclaration? records id := by
  simp only [lastDeclaration?, declarations, List.filterMap_append, List.filter_append]
  by_cases same : declared.id = id <;> simp [same]

theorem lastDeclaration_eq_none {id : String} (undeclared : id ∉ nodeIds records) :
    lastDeclaration? records id = none := by
  rw [nodeIds, List.mem_eraseDups, List.mem_map] at undeclared
  have others : (declarations records).filter (·.id == id) = [] := by
    refine List.filter_eq_nil_iff.mpr fun declared member same => ?_
    exact undeclared ⟨declared, member, beq_iff_eq.mp same⟩
  rw [lastDeclaration?, others, List.getLast?_nil]

theorem callCounts_concat_edge (call : EdgeRecord) (source target : String) :
    callCounts (records ++ [.edge call]) source target =
      if call.source = source ∧ call.target = target then
        callCounts records source target ++ [call.weight]
      else callCounts records source target := by
  rw [callCounts, List.filterMap_append]
  split
  next same => simp [callCounts, same]
  next other => simp [callCounts, other]

theorem fits_concat {record : Record} :
    Fits (records ++ [record]) ↔ Fits records ∧ record.FitsBehind records := by
  constructor
  · intro fits
    refine ⟨fun n earlier held => ?_, ?_⟩
    · have inside := (List.getElem?_eq_some_iff.mp held).1
      have kept := fits n earlier ((List.getElem?_append_left inside).trans held)
      rwa [List.take_append_of_le_length inside.le] at kept
    · have last := fits records.length record List.getElem?_concat_length
      rwa [List.take_left] at last
  · rintro ⟨fits, last⟩ n other held
    rcases Nat.lt_trichotomy n records.length with inside | rfl | outside
    · rw [List.getElem?_append_left inside] at held
      rw [List.take_append_of_le_length inside.le]
      exact fits n other held
    · cases List.getElem?_concat_length.symm.trans held
      rwa [List.take_left]
    · rw [List.getElem?_eq_none (by simpa using Nat.succ_le_of_lt outside)] at held
      cases held

end Concat

namespace CallGraph
variable {α : Type} [Quantity α]

/-- The node that a declaration describes. -/
def declaredNode (marker : String) (declared : NodeRecord) : Node α where
  profilerId := declared.id
  name := declared.name
  coverage := Quantity.ofReading declared.coveragePercentage
  selfCoverage := Quantity.ofReading declared.selfPercentage
  isInterestPoint := Text.occursIn marker.toList declared.name.toList
  selection := {}

/-- The weight of an edge with the given counts, added up from zero. No counts
make no edge. -/
def addedUp? (counts : List Nat) : Option α :=
  if counts = [] then none
  else some (counts.foldl (fun sum count => sum + Quantity.ofCount count) Quantity.zero)

/-- The node that records describe under a handle, the position of its id. -/
def depictedNode? (marker : String) (records : List Record) (handle : Nat) : Option (Node α) :=
  ((nodeIds records)[handle]?.bind (lastDeclaration? records)).map (declaredNode marker)

/-- The weight of the edge that records describe between two handles. -/
def depictedWeight? (records : List Record) (source target : Nat) : Option α :=
  (nodeIds records)[source]?.bind fun caller => (nodeIds records)[target]?.bind fun callee =>
    addedUp? (callCounts records caller callee)

/-- A graph shows what records say, and nothing else. -/
structure Depicts (graph : CallGraph α) (marker : String) (records : List Record) : Prop where
  marker_eq : graph.interestMarker = marker
  /-- Handles count first declarations, and the index leads to them. -/
  registered : graph.Registered (nodeIds records)
  unretired : ∀ id, ¬ graph.retired.contains id
  /-- A node has the attributes of the last declaration of its id. -/
  node_eq : ∀ handle, graph.node? handle = depictedNode? marker records handle
  /-- Calls are between declared functions. -/
  called : ∀ {source target}, callCounts records source target ≠ [] →
    source ∈ nodeIds records ∧ target ∈ nodeIds records
  /-- There is an edge exactly where there are calls, and their counts make its
  weight. -/
  weight_eq : ∀ source target, graph.edgeWeight? source target =
    depictedWeight? records source target
  consistent : graph.Consistent
  samples_eq : graph.totalSamples = (legendCounts records).sum

/-! What one more record makes of a depiction. -/

section Concat
variable {records : List Record} {call : EdgeRecord} {declared : NodeRecord}

theorem addedUp_concat (counts : List Nat) (count : Nat) :
    (addedUp? (counts ++ [count]) : Option α) =
      some ((addedUp? counts).getD Quantity.zero + Quantity.ofCount count) := by
  rw [addedUp?, if_neg (by simp), List.foldl_concat, addedUp?]
  split
  next none => rw [none]; rfl
  next => rfl

private theorem position_eq {ids : List String} (distinct : ids.Nodup) {first second : Nat}
    {id : String} (here : ids[first]? = some id) (there : ids[second]? = some id) :
    first = second :=
  (List.getElem?_inj (List.getElem?_eq_some_iff.mp here).1 distinct).mp (here.trans there.symm)

/-- A declaration describes one node anew. -/
theorem depictedNode_concat_node {handle : Nat}
    (distinct : (nodeIds (records ++ [.node declared])).Nodup)
    (first : (nodeIds (records ++ [.node declared]))[handle]? = some declared.id)
    (marker : String) (other : Nat) :
    (depictedNode? marker (records ++ [.node declared]) other : Option (Node α)) =
      if other = handle then some (declaredNode marker declared)
      else depictedNode? marker records other := by
  rw [depictedNode?]
  split
  next here =>
    rw [here, first, Option.bind_some, lastDeclaration_concat_node, if_pos rfl, Option.map_some]
  next elsewhere =>
    have before : (nodeIds records)[other]?.bind (lastDeclaration? records) =
        (nodeIds (records ++ [.node declared]))[other]?.bind (lastDeclaration? records) := by
      rw [nodeIds_concat_node, getElem_enlist_bind lastDeclaration_eq_none]
    rw [depictedNode?, before]
    cases listed : (nodeIds (records ++ [.node declared]))[other]? with
    | none => rfl
    | some id =>
      have different : declared.id ≠ id := fun same =>
        elsewhere (position_eq distinct listed (same ▸ first))
      rw [Option.bind_some, Option.bind_some, lastDeclaration_concat_node, if_neg different]

/-- A declaration makes no call. -/
theorem depictedWeight_concat_node
    (known : ∀ {source target}, callCounts records source target ≠ [] →
      source ∈ nodeIds records ∧ target ∈ nodeIds records) (source target : Nat) :
    (depictedWeight? (records ++ [.node declared]) source target : Option α) =
      depictedWeight? records source target := by
  have silent : ∀ {id other}, id ∉ nodeIds records →
      callCounts records id other = [] ∧ callCounts records other id = [] := by
    intro id other undeclared
    constructor
    · exact by_contra fun called => undeclared (known called).1
    · exact by_contra fun called => undeclared (known called).2
  have callees : ∀ caller, ((enlist (nodeIds records) declared.id)[target]?.bind fun callee =>
      addedUp? (callCounts records caller callee)) = (nodeIds records)[target]?.bind fun callee =>
      (addedUp? (callCounts records caller callee) : Option α) := fun caller =>
    getElem_enlist_bind (fun new => by rw [(silent new).2]; rfl) target
  have counts : ∀ caller callee, callCounts (records ++ [.node declared]) caller callee =
      callCounts records caller callee := fun _ _ => by simp [callCounts]
  simp only [depictedWeight?, nodeIds_concat_node, counts, callees]
  refine getElem_enlist_bind (fun new => ?_) source
  cases (nodeIds records)[target]? with
  | none => rfl
  | some callee =>
    rw [Option.bind_some, (silent new).1]
    rfl

/-- A call adds to the weight of one edge. -/
theorem depictedWeight_concat_edge (distinct : (nodeIds records).Nodup) {source target : Nat}
    (sourceFirst : (nodeIds records)[source]? = some call.source)
    (targetFirst : (nodeIds records)[target]? = some call.target) (caller callee : Nat) :
    (depictedWeight? (records ++ [.edge call]) caller callee : Option α) =
      if caller = source ∧ callee = target then
        some ((depictedWeight? records source target).getD Quantity.zero
          + Quantity.ofCount call.weight)
      else depictedWeight? records caller callee := by
  rw [depictedWeight?, nodeIds_concat_edge]
  split
  next here =>
    rw [depictedWeight?, here.1, here.2, sourceFirst, targetFirst]
    simp only [Option.bind_some, callCounts_concat_edge, and_self, if_true, addedUp_concat]
  next elsewhere =>
    rw [depictedWeight?]
    cases callerFirst : (nodeIds records)[caller]? with
    | none => rfl
    | some callerId =>
      cases calleeFirst : (nodeIds records)[callee]? with
      | none => rfl
      | some calleeId =>
        have different : ¬ (call.source = callerId ∧ call.target = calleeId) := by
          rintro ⟨rfl, rfl⟩
          exact elsewhere ⟨position_eq distinct callerFirst sourceFirst,
            position_eq distinct calleeFirst targetFirst⟩
        simp only [Option.bind_some, callCounts_concat_edge, if_neg different]

end Concat

variable {graph : CallGraph α} {marker : String} {records : List Record}

theorem depicts_empty (marker : String) : (empty marker : CallGraph α).Depicts marker [] where
  marker_eq := rfl
  registered := registered_empty marker
  unretired := by simp [empty]
  node_eq := fun _ => rfl
  called := fun some => absurd rfl some
  weight_eq := fun _ _ => rfl
  consistent := consistent_empty marker
  samples_eq := rfl

/-! A declaration. -/

theorem Depicts.enter_node (depicts : graph.Depicts marker records) (declared : NodeRecord) :
    ∃ next, graph.enter (.node declared) = .ok next ∧
      next.Depicts marker (records ++ [.node declared]) := by
  obtain ⟨retired, _⟩ | ⟨handle, next, ran, registered, first⟩ :=
    depicts.registered.addNode_spec declared.id declared.name
      (Quantity.ofReading declared.selfPercentage) (Quantity.ofReading declared.coveragePercentage)
  · exact absurd retired (depicts.unretired declared.id)
  obtain ⟨nodes, marked, samples⟩ := depicts.registered.addNode_frame ran
  rw [← nodeIds_concat_node records declared] at registered first
  refine ⟨next, by rw [enter, ran]; rfl, ?_⟩
  refine ⟨marked.trans depicts.marker_eq, registered, ?_, ?_, ?_, ?_,
    depicts.consistent.addNode ran, ?_⟩
  · exact fun id => retired_addNode ran ▸ depicts.unretired id
  · intro other
    rw [nodes, depictedNode_concat_node registered.distinct first, ← depicts.node_eq,
      isInterestName, depicts.marker_eq]
    rfl
  · intro source target called
    have before : callCounts records source target ≠ [] := by simpa [callCounts] using called
    rw [nodeIds_concat_node]
    exact (depicts.called before).imp mem_enlist mem_enlist
  · intro source target
    rw [(addNode_edges ran).1, depictedWeight_concat_node depicts.called, depicts.weight_eq]
  · rw [samples, depicts.samples_eq]
    simp [legendCounts]

/-! A call. -/

/-- The index leads from every declared id to its handle. -/
theorem Depicts.lookup_iff (depicts : graph.Depicts marker records) {id : String} {handle : Nat} :
    graph.lookup? id = some handle ↔ (nodeIds records)[handle]? = some id := by
  refine depicts.registered.lookup_iff.trans ⟨depicts.registered.declared_eq, fun first => ?_⟩
  cases held : graph.idAt? handle with
  | none =>
    have gone := depicts.registered.retired_iff.mpr ⟨handle, first, held⟩
    exact absurd gone (depicts.unretired id)
  | some other => exact (depicts.registered.declared_eq held).symm.trans first

theorem Depicts.lookup_eq_none (depicts : graph.Depicts marker records) {id : String}
    (undeclared : id ∉ nodeIds records) : graph.lookup? id = none := by
  refine Option.eq_none_iff_forall_ne_some.mpr fun handle found => undeclared ?_
  exact List.mem_of_getElem? (depicts.lookup_iff.mp found)

theorem Depicts.contains_of_lookup (depicts : graph.Depicts marker records) {id : String}
    {handle : Nat} (found : graph.lookup? id = some handle) : graph.contains handle := by
  have held := depicts.registered.lookup_iff.mp found
  exact by_contra fun absent => by rw [idAt_eq_none_iff.mpr absent] at held; cases held

theorem Depicts.enter_edge (depicts : graph.Depicts marker records) {call : EdgeRecord}
    (sourceKnown : call.source ∈ nodeIds records) (targetKnown : call.target ∈ nodeIds records) :
    ∃ next, graph.enter (.edge call) = .ok next ∧
      next.Depicts marker (records ++ [.edge call]) := by
  obtain ⟨source, sourceFirst⟩ := List.mem_iff_getElem?.mp sourceKnown
  obtain ⟨target, targetFirst⟩ := List.mem_iff_getElem?.mp targetKnown
  have sourceFound := depicts.lookup_iff.mpr sourceFirst
  have targetFound := depicts.lookup_iff.mpr targetFirst
  have sourceLive := depicts.contains_of_lookup sourceFound
  have targetLive := depicts.contains_of_lookup targetFound
  have ran : graph.enter (.edge call) =
      .ok (graph.strengthen source target (Quantity.ofCount call.weight)) := by
    simp only [enter, addEdge, sourceFound, targetFound]
    exact addEdgeBetween_of_live sourceLive targetLive _
  refine ⟨_, ran, depicts.marker_eq, ?_, depicts.unretired, ?_, ?_, ?_,
    depicts.consistent.strengthen sourceLive targetLive _, ?_⟩
  · rw [nodeIds_concat_edge]
    exact (reworked_writeEdge source target _).registered depicts.registered
  · intro handle
    rw [node_strengthen, depicts.node_eq, depictedNode?, depictedNode?, nodeIds_concat_edge]
    simp [lastDeclaration?, declarations]
  · intro caller callee called
    rw [nodeIds_concat_edge]
    rw [callCounts_concat_edge] at called
    split at called
    next same => exact ⟨same.1 ▸ sourceKnown, same.2 ▸ targetKnown⟩
    next => exact depicts.called called
  · intro caller callee
    rw [strengthen, edgeWeight_writeEdge, sourceLive, depicts.weight_eq, depicts.weight_eq,
      depictedWeight_concat_edge depicts.registered.distinct sourceFirst targetFirst]
    simp only [and_true]
  · rw [totalSamples_strengthen, depicts.samples_eq]
    simp [legendCounts]

theorem Depicts.enter_edge_refused (depicts : graph.Depicts marker records) {call : EdgeRecord} :
    (call.source ∉ nodeIds records → graph.enter (.edge call) =
      .error (.unknownNode call.source call.target call.source)) ∧
    (call.source ∈ nodeIds records → call.target ∉ nodeIds records → graph.enter (.edge call) =
      .error (.unknownNode call.source call.target call.target)) := by
  constructor
  · intro undeclared
    simp only [enter, addEdge, depicts.lookup_eq_none undeclared]
  · intro known undeclared
    obtain ⟨source, first⟩ := List.mem_iff_getElem?.mp known
    simp only [enter, addEdge, depicts.lookup_iff.mpr first, depicts.lookup_eq_none undeclared]

/-! All other records. -/

/-- Records without declarations and calls change the samples alone. -/
theorem Depicts.addSamples (depicts : graph.Depicts marker records) {later : List Record}
    {samples : Nat} (declared : declarations later = declarations records)
    (called : callCounts later = callCounts records)
    (counted : (legendCounts later).sum = (legendCounts records).sum + samples) :
    (graph.addSamples samples).Depicts marker later := by
  have ids : nodeIds later = nodeIds records := by rw [nodeIds, declared, nodeIds]
  have last : lastDeclaration? later = lastDeclaration? records := by
    funext id
    rw [lastDeclaration?, declared, lastDeclaration?]
  refine ⟨depicts.marker_eq, ?_, depicts.unretired, ?_, ?_, ?_, depicts.consistent, ?_⟩
  · rw [ids]
    exact depicts.registered.congr rfl rfl rfl fun _ => rfl
  · intro handle
    rw [depictedNode?, ids, last]
    exact depicts.node_eq handle
  · rw [ids, called]
    exact depicts.called
  · intro source target
    rw [depictedWeight?, ids, called]
    exact depicts.weight_eq source target
  · rw [counted, ← depicts.samples_eq]
    rfl

/-- Words of 64 bits add up to the rest of the sum. -/
theorem toNat_foldl_words (counts : List Nat) (start : UInt64) :
    (counts.foldl (fun total n => total + UInt64.ofNat n) start).toNat =
      (start.toNat + counts.sum) % countBound := by
  induction counts generalizing start with
  | nil => exact (Nat.mod_eq_of_lt start.toNat_lt).symm
  | cons n later ih =>
    rw [List.foldl_cons, ih, UInt64.toNat_add, UInt64.toNat_ofNat', List.sum_cons, countBound]
    omega

/-- As long as the samples are a count, the legends add up to them in words of 64 bits as
well. -/
theorem Depicts.samples_words (depicts : graph.Depicts marker records)
    (inRange : graph.totalSamples < countBound) :
    ((legendCounts records).foldl (fun total n => total + UInt64.ofNat n) 0).toNat =
      graph.totalSamples := by
  rw [toNat_foldl_words, ← depicts.samples_eq]
  exact (congrArg (· % countBound) (Nat.zero_add _)).trans (Nat.mod_eq_of_lt inRange)

/-- A record that fits is entered, and the graph depicts it from then on. -/
theorem Depicts.enter (depicts : graph.Depicts marker records) {record : Record}
    (fits : record.FitsBehind records) :
    ∃ next, graph.enter record = .ok next ∧ next.Depicts marker (records ++ [record]) := by
  cases record with
  | node declared => exact depicts.enter_node declared
  | edge call => exact depicts.enter_edge fits.1 fits.2
  | legend totalSamples =>
    refine ⟨_, rfl, depicts.addSamples ?_ ?_ ?_⟩
    · simp [declarations]
    · funext source target
      simp [callCounts]
    · simp [legendCounts]
  | ignored =>
    refine ⟨graph.addSamples 0, rfl, depicts.addSamples ?_ ?_ ?_⟩
    · simp [declarations]
    · funext source target
      simp [callCounts]
    · simp [legendCounts]

end CallGraph
end ProfileGraph

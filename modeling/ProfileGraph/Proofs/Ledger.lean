import ProfileGraph.Pipeline.Run
import ProfileGraph.Proofs.Building

/-! The ledger of a run. Every pass says in its report which ids it removed, and
these entries add up: no id is entered twice, and the ids at the end are those
at the start without the entries. A registered graph lists its ids in the order
in which they were first declared, so which ids are there also says in which
order they are listed. -/
namespace ProfileGraph

namespace CallGraph
variable {α : Type} {graph middle result : CallGraph α} {declared : List String}

/-- The profiler ids of the live nodes, in the order of declaration. -/
def ids (graph : CallGraph α) : List String := graph.nodes.map (·.profilerId)

/-- The listed ids, each once, are not there any more, and all others are. -/
structure Loses (graph : CallGraph α) (removed : List String) (result : CallGraph α) : Prop where
  mem_ids : ∀ id, id ∈ result.ids ↔ id ∈ graph.ids ∧ id ∉ removed
  distinct : removed.Nodup
  present : removed ⊆ graph.ids

/-! Ids in order. -/

theorem ids_eq_filterMap (graph : CallGraph α) :
    graph.ids = (List.range graph.slots.size).filterMap graph.idAt? := by
  rw [ids, nodes, handles, List.map_filterMap, List.filterMap_filter]
  refine List.filterMap_congr fun handle _ => ?_
  rw [contains_eq_isSome_node, idAt?]
  cases graph.node? handle <;> rfl

theorem mem_ids {id : String} : id ∈ graph.ids ↔ ∃ handle, graph.idAt? handle = some id := by
  rw [ids_eq_filterMap, List.mem_filterMap]
  refine ⟨fun ⟨handle, _, held⟩ => ⟨handle, held⟩, fun ⟨handle, held⟩ => ⟨handle, ?_, held⟩⟩
  refine List.mem_range.mpr (Nat.lt_of_not_le fun outside => ?_)
  simp [idAt?, node?, slot?, Array.getElem?_eq_none outside] at held

theorem length_ids (graph : CallGraph α) : graph.ids.length = graph.nodeCount := by
  rw [ids, nodes, List.length_map, List.length_filterMap_eq_countP, nodeCount]
  refine List.countP_eq_length.mpr fun handle member => ?_
  rw [← contains_eq_isSome_node]
  exact mem_handles.mp member

private theorem filterMap_range_eq_filter {position : Nat → Option String} {kept : String → Bool}
    (listed : List String) (agree : ∀ n, position n = listed[n]?.filter kept) :
    (List.range listed.length).filterMap position = listed.filter kept := by
  induction listed generalizing position with
  | nil => rfl
  | cons first later ih =>
    have rest := @ih (position ∘ Nat.succ) fun n => agree (n + 1)
    rw [List.length_cons, List.range_succ_eq_map, List.filterMap_cons, List.filterMap_map, rest,
      agree 0, List.getElem?_cons_zero, List.filter_cons]
    cases keep : kept first <;> simp [keep, Option.filter]

/-- A registered graph lists its ids in the order of their first declaration. -/
theorem Registered.ids_eq (registered : graph.Registered declared) :
    graph.ids = declared.filter (· ∈ graph.ids) := by
  refine (ids_eq_filterMap graph).trans ?_
  rw [registered.size_eq]
  refine filterMap_range_eq_filter declared fun handle => ?_
  cases held : graph.idAt? handle with
  | some id =>
    rw [registered.declared_eq held, Option.filter_some, if_pos]
    exact decide_eq_true (mem_ids.mpr ⟨handle, held⟩)
  | none =>
    cases first : declared[handle]? with
    | none => rfl
    | some id =>
      rw [Option.filter_some, if_neg]
      -- The id can only be found under its own handle, where nothing is left.
      intro listed
      obtain ⟨other, found⟩ := mem_ids.mp (of_decide_eq_true listed)
      rw [registered.handle_eq (registered.declared_eq found) first, held] at found
      cases found

theorem Registered.nodup_ids (registered : graph.Registered declared) : graph.ids.Nodup :=
  registered.ids_eq ▸ registered.distinct.filter _

/-! Entries add up. -/

theorem Loses.refl (graph : CallGraph α) : graph.Loses [] graph where
  mem_ids id := by simp
  distinct := List.nodup_nil
  present := List.nil_subset _

theorem Loses.trans {first second : List String} (before : graph.Loses first middle)
    (after : middle.Loses second result) : graph.Loses (first ++ second) result where
  mem_ids id := by rw [after.mem_ids, before.mem_ids, and_assoc, List.mem_append, not_or]
  distinct := by
    refine List.nodup_append.mpr ⟨before.distinct, after.distinct, ?_⟩
    rintro id early _ late rfl
    exact ((before.mem_ids id).mp (after.present late)).2 early
  present := by
    refine List.append_subset.mpr ⟨before.present, fun id late => ?_⟩
    exact ((before.mem_ids id).mp (after.present late)).1

/-- What is lost is deleted from the list, and the rest keeps its order. -/
theorem Loses.ids_eq {removed : List String} (loses : graph.Loses removed result)
    (registered : graph.Registered declared) (left : result.Registered declared) :
    result.ids = graph.ids.filter (· ∉ removed) := by
  calc result.ids
      = declared.filter (· ∈ result.ids) := left.ids_eq
    _ = declared.filter fun id => id ∈ graph.ids ∧ id ∉ removed := by simp only [loses.mem_ids]
    _ = (declared.filter (· ∈ graph.ids)).filter (· ∉ removed) := by
        rw [List.filter_filter]
        refine List.filter_congr fun id _ => ?_
        rw [Bool.decide_and, Bool.and_comm]
    _ = graph.ids.filter (· ∉ removed) := by rw [← registered.ids_eq]

theorem Loses.nodeCount_eq {removed : List String} (loses : graph.Loses removed result)
    (registered : graph.Registered declared) (left : result.Registered declared) :
    graph.nodeCount = result.nodeCount + removed.length := by
  have parts : graph.ids.Perm (result.ids ++ removed) := by
    refine (List.perm_ext_iff_of_nodup registered.nodup_ids ?_).mpr fun id => ?_
    · refine List.nodup_append.mpr ⟨left.nodup_ids, loses.distinct, ?_⟩
      rintro id kept _ gone rfl
      exact ((loses.mem_ids id).mp kept).2 gone
    · rw [List.mem_append, loses.mem_ids]
      constructor
      · intro there
        by_cases gone : id ∈ removed
        · exact .inr gone
        · exact .inl ⟨there, gone⟩
      · rintro (⟨there, _⟩ | gone)
        · exact there
        · exact loses.present gone
  rw [← length_ids, parts.length_eq, List.length_append, length_ids]

/-! Single entries. -/

theorem profilerId_eq {handle : Nat} {id : String} (held : graph.idAt? handle = some id) :
    graph.profilerId handle = id := by
  obtain ⟨node, live, rfl⟩ := idAt_eq_some_iff.mp held
  rw [profilerId, live]

theorem contains_of_idAt {handle : Nat} {id : String} (held : graph.idAt? handle = some id) :
    graph.contains handle := by
  obtain ⟨node, live, _⟩ := idAt_eq_some_iff.mp held
  exact contains_iff_node.mpr ⟨node, live⟩

theorem idAt_of_contains {handle : Nat} (live : graph.contains handle) :
    graph.idAt? handle = some (graph.profilerId handle) := by
  obtain ⟨node, held⟩ := contains_iff_node.mp live
  rw [profilerId, idAt?, held]
  rfl

/-- Different live nodes have different ids. -/
theorem Registered.eq_of_profilerId (registered : graph.Registered declared) {first second : Nat}
    (firstLive : graph.contains first) (secondLive : graph.contains second)
    (same : graph.profilerId first = graph.profilerId second) : first = second := by
  have here := registered.declared_eq (idAt_of_contains firstLive)
  have there := registered.declared_eq (idAt_of_contains secondLive)
  exact registered.handle_eq here (same ▸ there)

/-- A pass that empties some slots loses the ids in them. -/
theorem Reworked.loses (reworked : graph.Reworked result) (registered : graph.Registered declared)
    {gone : List Nat} (distinct : gone.Nodup) (live : ∀ handle ∈ gone, graph.contains handle)
    (left : ∀ handle, result.contains handle ↔ graph.contains handle ∧ handle ∉ gone) :
    graph.Loses (gone.map graph.profilerId) result where
  mem_ids id := by
    simp only [CallGraph.mem_ids, List.mem_map, not_exists, not_and]
    constructor
    · rintro ⟨handle, held⟩
      have before := reworked.idAt_eq_of_some held
      refine ⟨⟨handle, before⟩, fun other inside same => ?_⟩
      obtain ⟨there, kept⟩ := (left handle).mp (contains_of_idAt held)
      have again := registered.eq_of_profilerId (live other inside) there
        (same.trans (profilerId_eq before).symm)
      exact kept (again ▸ inside)
    · rintro ⟨⟨handle, held⟩, kept⟩
      have stays := (left handle).mpr
        ⟨contains_of_idAt held, fun inside => kept handle inside (profilerId_eq held)⟩
      have after := idAt_of_contains stays
      exact ⟨handle, after.trans ((reworked.idAt_eq_of_some after).symm.trans held)⟩
  distinct := by
    refine List.Nodup.map_on (fun first inside second inside' same => ?_) distinct
    exact registered.eq_of_profilerId (live first inside) (live second inside') same
  present id lost := by
    obtain ⟨handle, inside, rfl⟩ := List.mem_map.mp lost
    exact CallGraph.mem_ids.mpr ⟨handle, idAt_of_contains (live handle inside)⟩

/-! Collapsing. -/

section Passes
variable [Quantity α]

/-- A collapse that succeeds merges the listed nodes and reports the ids of the
survivor and of the others. -/
theorem Consistent.collapse_reports (consistent : graph.Consistent) {listed : List Nat}
    {cycle : CollapsedCycle α} (ran : graph.collapse listed = ⟨result, .ok cycle⟩) :
    ∃ survivor, graph.Merged listed survivor result ∧ (∀ member ∈ listed, graph.contains member) ∧
      cycle.survivor = graph.profilerId survivor ∧
      cycle.removed = (listed.eraseDups.filter (· != survivor)).map graph.profilerId := by
  rw [CallGraph.collapse] at ran
  split at ran
  next => cases ran
  next =>
    split at ran
    next => cases ran
    next present =>
      have live : ∀ member ∈ listed.eraseDups, graph.contains member := fun member inside => by
        simpa using List.find?_eq_none.mp present member (List.mem_eraseDups.mp inside)
      dsimp only at ran
      split at ran
      next => cases ran
      next survivor chosen =>
        have nonempty : listed.eraseDups ≠ [] := fun none => by
          rw [none] at chosen
          cases chosen
        obtain ⟨_, inside, same⟩ := mostCovered_mem nonempty live
        cases chosen.symm.trans same
        obtain ⟨merged, left⟩ := consistent.merge_spec (nodup_eraseDups listed) live inside
        cases ran.symm.trans merged
        exact ⟨survivor, left.congr fun handle => List.mem_eraseDups,
          fun member inside => live member (List.mem_eraseDups.mpr inside), rfl, rfl⟩

/-- A collapse loses the ids that it reports, and the survivor keeps its id. -/
theorem Consistent.collapse_loses (consistent : graph.Consistent)
    (registered : graph.Registered declared) {listed : List Nat} {cycle : CollapsedCycle α}
    (ran : graph.collapse listed = ⟨result, .ok cycle⟩) :
    graph.Loses cycle.removed result ∧ cycle.survivor ∈ result.ids := by
  obtain ⟨survivor, left, live, named, reported⟩ := consistent.collapse_reports ran
  have reworked : graph.Reworked result := by
    have made : graph.Reworked _ := reworked_collapse listed
    rwa [ran] at made
  have others : ∀ handle, handle ∈ listed.eraseDups.filter (· != survivor) ↔
      handle ∈ listed ∧ handle ≠ survivor := by simp
  constructor
  · rw [reported]
    refine reworked.loses registered ((nodup_eraseDups listed).filter _) (fun handle inside => ?_)
      fun handle => ?_
    · exact live handle ((others handle).mp inside).1
    · rw [left.contains_iff, others, not_and, not_ne_iff]
  · have there := live survivor left.inside
    rw [named, mem_ids]
    refine ⟨survivor, ?_⟩
    have after := idAt_of_contains ((left.contains_iff survivor).mpr ⟨there, fun _ => rfl⟩)
    exact after.trans ((reworked.idAt_eq_of_some after).symm.trans (idAt_of_contains there))

/-- A report of collapses accounts for what was lost since the start. -/
structure Accounts (start : CallGraph α) (report : CollapseReport α) (graph : CallGraph α) :
    Prop where
  loses : start.Loses (report.cycles.flatMap (·.removed)) graph
  /-- No id is removed before it is named as a survivor. -/
  survivors : report.cycles.Pairwise fun earlier later => later.survivor ∉ earlier.removed
  stripped : report.selfLoopsStripped = report.cycles.countP (·.removed.isEmpty)
  counted : report.nodesRemoved = (report.cycles.map (·.removed.length)).sum

variable {start : CallGraph α} {report : CollapseReport α} {policy : RootPolicy}

omit [Quantity α] in
theorem Accounts.push (accounts : start.Accounts report graph) {cycle : CollapsedCycle α}
    (loses : graph.Loses cycle.removed result) (left : cycle.survivor ∈ result.ids) :
    start.Accounts (report.push cycle) result where
  loses := by
    have both := accounts.loses.trans loses
    rwa [CollapseReport.push, List.flatMap_append, List.flatMap_singleton]
  survivors := by
    refine List.pairwise_append.mpr ⟨accounts.survivors, List.pairwise_singleton .., ?_⟩
    intro earlier member later last
    rw [List.mem_singleton.mp last]
    have there := ((loses.mem_ids cycle.survivor).mp left).1
    have kept := ((accounts.loses.mem_ids cycle.survivor).mp there).2
    exact fun gone => kept (List.mem_flatMap.mpr ⟨earlier, member, gone⟩)
  stripped := by
    simp only [CollapseReport.push, List.countP_append, List.countP_singleton, accounts.stripped]
    split <;> rfl
  counted := by
    simp [CollapseReport.push, accounts.counted]

/-- Along a run of collapses the accounts stay in order. -/
theorem CollapseRun.accounts {ended : PassResult (CollapseReport α) α}
    (run : CollapseRun report graph ended) (consistent : graph.Consistent)
    (registered : graph.Registered declared) (before : start.Accounts report graph)
    {final : CollapseReport α} (succeeded : ended.outcome = .ok final) :
    start.Accounts final ended.graph := by
  induction run with
  | finished =>
    cases succeeded
    exact before
  | refused => cases succeeded
  | again report graph next members cycle _ _ collapsed _ ih =>
    obtain ⟨loses, left⟩ := consistent.collapse_loses registered collapsed
    have reworked : graph.Reworked next := by
      have made : graph.Reworked _ := reworked_collapse members
      rwa [collapsed] at made
    have kept : next.Consistent := by
      have made := consistent.collapse members
      rwa [collapsed] at made
    exact ih kept (reworked.registered registered) (before.push loses left) succeeded

theorem Consistent.collapseAll_accounts (consistent : graph.Consistent)
    (registered : graph.Registered declared) {report : CollapseReport α}
    (ran : graph.collapseAll = ⟨result, .ok report⟩) : graph.Accounts report result := by
  have run := consistent.collapseAll_run
  rw [ran] at run
  have fresh : graph.Accounts {} graph := ⟨.refl graph, .nil, rfl, rfl⟩
  exact run.accounts consistent registered fresh rfl

/-! Pruning. -/

/-- Along a run of pruning, the removed ids are lost. -/
theorem PruneRun.loses {report : PruneReport} {later : List Nat} {ended : PassResult PruneReport α}
    (run : PruneRun policy graph report later ended) (registered : graph.Registered declared)
    (before : start.Loses report.removed graph) {final : PruneReport}
    (succeeded : ended.outcome = .ok final) : start.Loses final.removed ended.graph := by
  induction run with
  | finished =>
    cases succeeded
    exact before
  | absent _ _ ih | interest _ _ ih | retained _ _ _ _ _ ih => exact ih registered before succeeded
  | forbidden => cases succeeded
  | @removed graph next _ handle _ _ node held _ _ ran eliminated _ ih =>
    have reworked : graph.Reworked next := by
      have made : graph.Reworked _ := reworked_removeAndBridge handle node
      rwa [ran] at made
    have lost : graph.Loses [node.profilerId] next := by
      have live := contains_iff_node.mpr ⟨node, held⟩
      have alone := reworked.loses registered (List.nodup_singleton handle)
        (fun other same => List.mem_singleton.mp same ▸ live)
        fun other => by rw [eliminated.contains_iff, List.mem_singleton]
      rwa [List.map_singleton, profilerId, held] at alone
    exact ih (reworked.registered registered) (before.trans lost) succeeded

/-- Pruning loses the ids that it reports as removed, and none of those that it
reports as retained. -/
theorem Consistent.prune_loses (consistent : graph.Consistent)
    (registered : graph.Registered declared) {report : PruneReport}
    (ran : graph.prune policy = ⟨result, .ok report⟩) :
    graph.Loses report.removed result ∧ report.retainedRoots ⊆ result.ids := by
  rw [CallGraph.prune] at ran
  split at ran
  next => cases ran
  next order ordered =>
    have topological := consistent.isTopological_of_topologicalOrder ordered
    have run := consistent.pruneAlong_run policy {} order
    rw [ran] at run
    refine ⟨run.loses registered (.refl graph) rfl, fun id retained => ?_⟩
    rcases (run.mem_retainedRoots consistent topological.nodup rfl id).mp retained with
      earlier | ⟨handle, _, node, left, _, named⟩
    · cases earlier
    · exact mem_ids.mpr ⟨handle, idAt_eq_some_iff.mpr ⟨node, left, named⟩⟩

/-! The three passes. -/

/-- Where the three passes succeed, each of them does, and the reports are
theirs. -/
theorem simplify_passes (ended : (graph.simplify policy).error = none) :
    ∃ collapsed corrected,
      graph.collapseAll = ⟨collapsed, .ok (graph.simplify policy).collapse⟩ ∧
      collapsed.fixSelfCoverage = .ok ((graph.simplify policy).correction, corrected) ∧
      corrected.prune policy =
        ⟨(graph.simplify policy).graph, .ok (graph.simplify policy).prune⟩ := by
  revert ended
  rw [simplify]
  dsimp only
  split
  next => exact fun ended => by cases ended
  next collapse collapsed =>
    split
    next => exact fun ended => by cases ended
    next =>
      split
      next => exact fun ended => by cases ended
      next correction corrected ran =>
        split
        next => exact fun ended => by cases ended
        next prune pruned =>
          exact fun _ => ⟨_, corrected, by rw [← collapsed], ran, by rw [← pruned]⟩

/-- What the three passes lose together is what the first and the last of them
report. -/
theorem Consistent.simplify_accounts (consistent : graph.Consistent)
    (registered : graph.Registered declared) (ended : (graph.simplify policy).error = none) :
    let simplified := graph.simplify policy
    (∃ collapsed, graph.Accounts simplified.collapse collapsed) ∧
      graph.Loses (simplified.collapse.cycles.flatMap (·.removed) ++ simplified.prune.removed)
        simplified.graph ∧
      simplified.prune.retainedRoots ⊆ simplified.graph.ids := by
  obtain ⟨collapsed, corrected, first, second, third⟩ := simplify_passes ended
  have accounts := consistent.collapseAll_accounts registered first
  have kept : collapsed.Consistent := by
    have made := consistent.collapseAll_run.consistent consistent
    rwa [first] at made
  have known : collapsed.Registered declared := by
    have made : graph.Reworked _ := reworked_collapseAll
    rw [first] at made
    exact made.registered registered
  have linked := kept.linked_fixSelfCoverage second
  have reworked := reworked_fixSelfCoverage second
  have between : collapsed.Loses [] corrected :=
    reworked.loses known List.nodup_nil (by simp) fun handle => by simp [linked.contains_eq]
  obtain ⟨pruned, retained⟩ := linked.consistent.prune_loses (reworked.registered known) third
  refine ⟨⟨collapsed, accounts⟩, ?_, retained⟩
  simpa using (accounts.loses.trans between).trans pruned

end Passes

end CallGraph

/-! A whole run. -/

open CallGraph

theorem ids_ofGraph (graph : CallGraph Binary64) :
    (Snapshot.ofGraph graph).nodes.map (·.id) = graph.ids := by
  rw [Snapshot.ofGraph, List.map_map]
  rfl

/-- What a run that succeeds leaves: the snapshots of the graph that was built
and of the simplified one, and a report of these two graphs and of the passes
between them. -/
theorem run_succeeded {pipeline : Pipeline} {source : ByteSource}
    {kept state : List (String × Snapshot)} {graph : CallGraph Binary64} {report : PipelineReport}
    (ran : pipeline.run .memory source kept = ⟨state, .ok (graph, report)⟩) :
    ∃ (stats : ParseStats) (built : CallGraph Binary64),
      build pipeline.patterns pipeline.interestMarker source = ⟨stats, .ok built⟩ ∧
      (built.simplify pipeline.rootPolicy).error = none ∧
      graph = (built.simplify pipeline.rootPolicy).graph ∧
      state = kept ++ [(debugLabel, .ofGraph built), (finalLabel, .ofGraph graph)] ∧
      report = Pipeline.finalReport ((Pipeline.buildReport stats built).withPasses
        (built.simplify pipeline.rootPolicy)) graph := by
  rw [Pipeline.run, Pipeline.finish] at ran
  dsimp only [Sink.memory] at ran
  split at ran
  next => cases ran
  next built made =>
    split at ran
    next => cases ran
    next ended =>
      cases ran
      exact ⟨_, built, by rw [← made], ended, rfl, by simp, rfl⟩

/-- The ledger of a run that succeeds: the ids of the last snapshot are those of
the first one without the ids that are reported as removed, in the same order.
No id is removed twice, and none is removed that is named as a survivor or a
retained root later on; the counts of the report are those of its lists. -/
theorem run_accounts {pipeline : Pipeline} {source : ByteSource}
    {kept state : List (String × Snapshot)} {graph : CallGraph Binary64} {report : PipelineReport}
    (ran : pipeline.run .memory source kept = ⟨state, .ok (graph, report)⟩) :
    let removed := report.collapse.cycles.flatMap (·.removed) ++ report.prune.removed
    ∃ debug final, state = kept ++ [(debugLabel, debug), (finalLabel, final)] ∧
      final.nodes.map (·.id) = (debug.nodes.map (·.id)).filter (· ∉ removed) ∧
      removed ⊆ debug.nodes.map (·.id) ∧ removed.Nodup ∧
      (report.collapse.cycles.Pairwise fun earlier later => later.survivor ∉ earlier.removed) ∧
      (∀ id ∈ report.prune.retainedRoots, id ∉ removed) ∧
      report.collapse.nodesRemoved = (report.collapse.cycles.map (·.removed.length)).sum ∧
      report.collapse.selfLoopsStripped = report.collapse.cycles.countP (·.removed.isEmpty) ∧
      report.parsedNodes =
        report.finalNodes + report.collapse.nodesRemoved + report.prune.removed.length := by
  obtain ⟨stats, built, made, ended, rfl, rfl, rfl⟩ := run_succeeded ran
  obtain ⟨records, _, depicts⟩ := exists_depicted (congrArg BuildResult.outcome made)
  have registered := depicts.registered
  have reworked : built.Reworked _ := reworked_simplify pipeline.rootPolicy
  have left := reworked.registered registered
  obtain ⟨⟨_, accounts⟩, loses, retained⟩ :=
    depicts.consistent.simplify_accounts registered ended
  refine ⟨_, _, rfl, ?_, ?_, loses.distinct, accounts.survivors, ?_, accounts.counted,
    accounts.stripped, ?_⟩
  · rw [ids_ofGraph, ids_ofGraph]
    exact loses.ids_eq registered left
  · rw [ids_ofGraph]
    exact loses.present
  · exact fun id inside => ((loses.mem_ids id).mp (retained inside)).2
  · have total := loses.nodeCount_eq registered left
    rw [List.length_append, List.length_flatMap] at total
    show built.nodeCount = (built.simplify pipeline.rootPolicy).graph.nodeCount
      + (built.simplify pipeline.rootPolicy).collapse.nodesRemoved + _
    rw [total, accounts.counted, Nat.add_assoc]
    rfl

/-- A profile in which an instrumented function calls two that call each
other. -/
def recursiveCalls : List UInt8 := Text.encode <| List.flatMap String.toList [
  "Legend [label=\"Total samples: 9\"]\n", "N1 [label=\"a!\\n4 (4%)\\r\"]\n",
  "N2 [label=\"b\\n3 (3%)\\r\"]\n", "N3 [label=\"c\\n2 (2%)\\r\"]\n",
  "N1 -> N2 [label=9,]\n", "N2 -> N3 [label=6,]\n", "N3 -> N2 [label=3,]\n"]

theorem recursiveCalls_run_accounts : ∃ state graph report,
    Pipeline.run { interestMarker := "!" } .memory ⟨recursiveCalls, none⟩ [] =
      ⟨state, .ok (graph, report)⟩ ∧
    ∃ debug final, state = [(debugLabel, debug), (finalLabel, final)] ∧
      final.nodes.map (·.id) = (debug.nodes.map (·.id)).filter
        (· ∉ report.collapse.cycles.flatMap (·.removed) ++ report.prune.removed) ∧
      report.parsedNodes =
        report.finalNodes + report.collapse.nodesRemoved + report.prune.removed.length := by
  have succeeds : (Pipeline.run { interestMarker := "!" } .memory ⟨recursiveCalls, none⟩
      []).outcome.toOption.isSome := by decide +kernel
  cases ended : Pipeline.run { interestMarker := "!" } .memory ⟨recursiveCalls, none⟩ [] with
  | mk state outcome =>
    rw [ended] at succeeds
    cases outcome with
    | error => cases succeeds
    | ok pair =>
      obtain ⟨debug, final, kept, listed, _, _, _, _, _, _, total⟩ := run_accounts ended
      exact ⟨state, pair.1, pair.2, rfl, debug, final, kept, listed, total⟩

end ProfileGraph

import ProfileGraph.Proofs.Cycles
import ProfileGraph.Proofs.Merging

/-! Collapsing as contraction. Each node of the first graph has a home among
the nodes that are left, in the same strongly connected component, and the
edges between homes are the edges of the first graph. This relation composes,
so it holds along every run of the loop that collapses one cycle after the
other, and the run ends because nodes and self-loops only ever become fewer. -/
namespace ProfileGraph.CallGraph
open Relation

variable {α : Type} {graph middle result : CallGraph α} {home : Nat → Nat}

/-- Two nodes lie in one strongly connected component. -/
def SameComponent (graph : CallGraph α) (a b : Nat) : Prop := graph.Reaches a b ∧ graph.Reaches b a

theorem SameComponent.symm {a b : Nat} (together : graph.SameComponent a b) :
    graph.SameComponent b a :=
  ⟨together.2, together.1⟩

theorem SameComponent.trans {a b c : Nat} (first : graph.SameComponent a b)
    (second : graph.SameComponent b c) : graph.SameComponent a c :=
  ⟨first.1.trans second.1, second.2.trans first.2⟩

/-- A graph is left when every node of another moves to its home. -/
structure Contracted (graph result : CallGraph α) (home : Nat → Nat) : Prop where
  contains_iff : ∀ handle, result.contains handle ↔ graph.contains handle ∧ home handle = handle
  settled : ∀ handle, graph.contains handle → result.contains (home handle)
  together : ∀ handle, graph.contains handle → graph.SameComponent handle (home handle)
  calls_iff : ∀ caller callee, caller ≠ callee → (result.Calls caller callee ↔
    ∃ a b, home a = caller ∧ home b = callee ∧ graph.Calls a b)

theorem Contracted.refl (graph : CallGraph α) : graph.Contracted graph id where
  contains_iff _ := (and_iff_left rfl).symm
  settled _ live := live
  together _ _ := ⟨.refl, .refl⟩
  calls_iff caller callee _ :=
    ⟨fun edge => ⟨caller, callee, rfl, rfl, edge⟩, fun ⟨_, _, first, last, edge⟩ =>
      first ▸ last ▸ edge⟩

theorem Contracted.reaches_home (contracted : graph.Contracted result home) {a b : Nat}
    (path : graph.Reaches a b) : result.Reaches (home a) (home b) := by
  induction path with
  | refl => exact .refl
  | @tail c d _ edge ih =>
    by_cases same : home c = home d
    · exact same ▸ ih
    · exact ih.tail ((contracted.calls_iff _ _ same).mpr ⟨c, d, rfl, rfl, edge⟩)

/-- No connection is invented. -/
theorem Contracted.reaches (contracted : graph.Contracted result home)
    (consistent : graph.Consistent) {a b : Nat} (path : result.Reaches a b) :
    graph.Reaches a b := by
  induction path with
  | refl => exact .refl
  | @tail c d _ edge ih =>
    by_cases same : c = d
    · exact same ▸ ih
    · obtain ⟨caller, callee, rfl, rfl, below⟩ := (contracted.calls_iff _ _ same).mp edge
      have there := (contracted.together caller (contains_caller below)).2
      have on := (contracted.together callee (consistent.contains_callee below)).1
      exact ((ih.trans there).tail below).trans on

theorem Contracted.sameComponent_of_result (contracted : graph.Contracted result home)
    (consistent : graph.Consistent) {a b : Nat} (together : result.SameComponent a b) :
    graph.SameComponent a b :=
  ⟨contracted.reaches consistent together.1, contracted.reaches consistent together.2⟩

/-- Moving twice is moving once. -/
theorem Contracted.trans {onward : Nat → Nat} (first : graph.Contracted middle home)
    (second : middle.Contracted result onward) (consistent : graph.Consistent) :
    graph.Contracted result (onward ∘ home) where
  contains_iff handle := by
    rw [second.contains_iff, first.contains_iff, and_assoc]
    constructor
    · rintro ⟨live, stays, staysOn⟩
      exact ⟨live, (congrArg onward stays).trans staysOn⟩
    · rintro ⟨live, stays⟩
      have left : result.contains handle := stays ▸ second.settled _ (first.settled handle live)
      obtain ⟨between, staysOn⟩ := (second.contains_iff handle).mp left
      exact ⟨live, ((first.contains_iff handle).mp between).2, staysOn⟩
  settled handle live := second.settled _ (first.settled handle live)
  together handle live := (first.together handle live).trans
    (first.sameComponent_of_result consistent (second.together _ (first.settled handle live)))
  calls_iff caller callee different := by
    rw [second.calls_iff caller callee different]
    constructor
    · rintro ⟨c, d, rfl, rfl, edge⟩
      have apart : c ≠ d := fun same => different (congrArg onward same)
      obtain ⟨a, b, rfl, rfl, below⟩ := (first.calls_iff c d apart).mp edge
      exact ⟨a, b, rfl, rfl, below⟩
    · rintro ⟨a, b, rfl, rfl, below⟩
      have apart : home a ≠ home b := fun same => different (congrArg onward same)
      exact ⟨home a, home b, rfl, rfl, (first.calls_iff _ _ apart).mpr ⟨a, b, rfl, rfl, below⟩⟩

/-! Merging a cycle is one such move. -/

/-- The members of a cycle move to the survivor, all other nodes stay. -/
def moveInto (members : List Nat) (survivor handle : Nat) : Nat :=
  if handle ∈ members then survivor else handle

theorem Merged.contracted {members : List Nat} {survivor : Nat}
    (left : graph.Merged members survivor result) (consistent : graph.Consistent)
    (cycle : graph.IsCycle members) :
    graph.Contracted result (moveInto members survivor) where
  contains_iff handle := by
    rw [left.contains_iff, moveInto]
    split
    next inside =>
      exact and_congr_right fun _ => ⟨fun same => (same inside).symm, fun same _ => same.symm⟩
    next outside =>
      exact and_congr_right fun _ => ⟨fun _ => rfl, fun _ inside => absurd inside outside⟩
  settled handle live := by
    rw [left.contains_iff, moveInto]
    split
    next => exact ⟨cycle.live consistent survivor left.inside, fun _ => rfl⟩
    next outside => exact ⟨live, fun inside => absurd inside outside⟩
  together handle _ := by
    rw [moveInto]
    split
    next inside => exact ⟨cycle.reaches inside left.inside, cycle.reaches left.inside inside⟩
    next => exact ⟨.refl, .refl⟩
  calls_iff caller callee different := by
    rw [left.calls_iff]
    constructor
    · rintro (⟨first, last, edge⟩ | ⟨rfl, first, member, inside, edge⟩ |
        ⟨rfl, last, member, inside, edge⟩)
      · exact ⟨caller, callee, if_neg first, if_neg last, edge⟩
      · exact ⟨caller, member, if_neg first, if_pos inside, edge⟩
      · exact ⟨member, callee, if_pos inside, if_neg last, edge⟩
    · rintro ⟨a, b, rfl, rfl, edge⟩
      by_cases aInside : a ∈ members <;> by_cases bInside : b ∈ members <;>
        simp only [moveInto, aInside, bInside, if_true, if_false] at different ⊢
      · exact absurd rfl different
      · exact .inr (.inr ⟨trivial, not_false, a, aInside, edge⟩)
      · exact .inr (.inl ⟨trivial, not_false, b, bInside, edge⟩)
      · exact .inl ⟨not_false, not_false, edge⟩

/-! What a collapse makes smaller. -/

/-- The nodes with an edge to themselves. -/
def selfLoops (graph : CallGraph α) : List Nat :=
  graph.handles.filter fun handle => graph.Calls handle handle

/-- The number of nodes and self-loops. -/
def collapsible (graph : CallGraph α) : Nat := graph.nodeCount + graph.selfLoops.length

theorem mem_selfLoops {handle : Nat} : handle ∈ graph.selfLoops ↔ graph.Calls handle handle := by
  simp only [selfLoops, List.mem_filter, mem_handles, decide_eq_true_eq, and_iff_right_iff_imp]
  exact contains_caller

theorem collapsible_le (graph : CallGraph α) : graph.collapsible ≤ 2 * graph.nodeCount := by
  have loops : graph.selfLoops.length ≤ graph.nodeCount := List.length_filter_le ..
  rw [collapsible]
  omega

private theorem length_lt_of_subset {few many : List Nat} {gone : Nat} (distinct : few.Nodup)
    (kept : few ⊆ many) (before : gone ∈ many) (after : gone ∉ few) : few.length < many.length :=
  (List.Nodup.subperm (List.nodup_cons.mpr ⟨after, distinct⟩)
    (List.cons_subset.mpr ⟨before, kept⟩)).length_le

theorem IsCycle.calls_self {members : List Nat} (cycle : graph.IsCycle members) {handle : Nat}
    (alone : ∀ member ∈ members, member = handle) : graph.Calls handle handle := by
  match members, cycle with
  | [first], cycle =>
    have closing : graph.Calls first first := by simpa using cycle.2
    exact alone first List.mem_cons_self ▸ closing
  | first :: second :: rest, cycle =>
    have same : first = second := (alone first (by simp)).trans (alone second (by simp)).symm
    exact absurd (by simp [same]) (List.nodup_cons.mp cycle.1).1

/-- Each collapse deletes a node or strips a self-loop, and none creates a
self-loop. -/
theorem Merged.collapsible_lt {members : List Nat} {survivor : Nat}
    (left : graph.Merged members survivor result) (consistent : graph.Consistent)
    (cycle : graph.IsCycle members) : result.collapsible < graph.collapsible := by
  have nodesKept : result.handles ⊆ graph.handles := fun handle member =>
    mem_handles.mpr ((left.contains_iff handle).mp (mem_handles.mp member)).1
  have loopsKept : ∀ handle, result.Calls handle handle →
      handle ∉ members ∧ graph.Calls handle handle := by
    intro handle loop
    rcases (left.calls_iff handle handle).mp loop with
      ⟨outside, _, loop⟩ | ⟨rfl, outside, _⟩ | ⟨rfl, outside, _⟩
    · exact ⟨outside, loop⟩
    · exact absurd left.inside outside
    · exact absurd left.inside outside
  have loopsSubset : result.selfLoops ⊆ graph.selfLoops := fun handle member =>
    mem_selfLoops.mpr (loopsKept handle (mem_selfLoops.mp member)).2
  have distinct : result.selfLoops.Nodup := nodup_handles.filter _
  have nodes := (List.Nodup.subperm nodup_handles nodesKept).length_le
  have loops := (List.Nodup.subperm distinct loopsSubset).length_le
  rw [collapsible, collapsible]
  by_cases alone : ∀ member ∈ members, member = survivor
  · have stripped : survivor ∉ result.selfLoops := fun member =>
      (loopsKept survivor (mem_selfLoops.mp member)).1 left.inside
    have fewer := length_lt_of_subset distinct loopsSubset
      (mem_selfLoops.mpr (cycle.calls_self alone)) stripped
    exact Nat.add_lt_add_of_le_of_lt nodes fewer
  · obtain ⟨member, inside, other⟩ : ∃ member ∈ members, member ≠ survivor := by
      simpa using alone
    have deleted : member ∉ result.handles := fun remains =>
      other (((left.contains_iff member).mp (mem_handles.mp remains)).2 inside)
    have fewer := length_lt_of_subset nodup_handles nodesKept
      (mem_handles.mpr (cycle.live consistent member inside)) deleted
    exact Nat.add_lt_add_of_lt_of_le fewer loops

/-! The loop. -/

section Loop
variable [Quantity α]

/-- A run of the loop that collapses whatever cycle is found next, however
often, until no cycle is found or a collapse is refused. -/
inductive CollapseRun :
    CollapseReport α → CallGraph α → PassResult (CollapseReport α) α → Prop
  | finished (report : CollapseReport α) (graph : CallGraph α) : graph.findCycle? = none →
      CollapseRun report graph ⟨graph, .ok report⟩
  | refused (report : CollapseReport α) (graph result : CallGraph α) (members : List Nat)
      (error : GraphError) : graph.findCycle? = some members →
      graph.collapse members = ⟨result, .error error⟩ →
      CollapseRun report graph ⟨result, .error error⟩
  | again (report : CollapseReport α) (graph next : CallGraph α) (members : List Nat)
      (cycle : CollapsedCycle α) (ended : PassResult (CollapseReport α) α) :
      graph.findCycle? = some members → graph.collapse members = ⟨next, .ok cycle⟩ →
      CollapseRun (report.push cycle) next ended → CollapseRun report graph ended

variable {report : CollapseReport α} {ended : PassResult (CollapseReport α) α}

/-- The bound on the number of collapses never ends the loop. -/
theorem Consistent.collapseFrom_run (consistent : graph.Consistent) {fuel : Nat}
    (enough : graph.collapsible < fuel) :
    CollapseRun report graph (collapseFrom report fuel graph) := by
  induction fuel generalizing graph report with
  | zero => exact absurd enough (Nat.not_lt_zero _)
  | succ fuel ih =>
    rw [collapseFrom]
    split
    next none => exact .finished _ _ none
    next members found =>
      have cycle := consistent.isCycle_of_findCycle found
      rcases consistent.collapse_spec members with
        ⟨error, refused, _⟩ | ⟨survivor, _, next, collapsed, left⟩
      · rw [refused]
        exact .refused _ _ _ _ _ found refused
      · rw [collapsed]
        have fewer := left.collapsible_lt consistent cycle
        exact .again _ _ _ _ _ _ found collapsed (ih left.consistent (by omega))

theorem Consistent.collapseAll_run (consistent : graph.Consistent) :
    CollapseRun {} graph graph.collapseAll :=
  consistent.collapseFrom_run (Nat.lt_succ_of_le graph.collapsible_le)

/-- Whatever the loop does, both copies of every edge stay equal. -/
theorem CollapseRun.consistent (run : CollapseRun report graph ended)
    (consistent : graph.Consistent) : ended.graph.Consistent := by
  induction run with
  | finished => exact consistent
  | refused _ graph _ members _ _ refused =>
    rcases consistent.collapse_spec members with ⟨_, same, _⟩ | ⟨_, _, _, collapsed, _⟩
    · cases refused.symm.trans same
      exact consistent
    · cases refused.symm.trans collapsed
  | again _ graph _ members _ _ _ collapsed _ ih =>
    rcases consistent.collapse_spec members with ⟨_, refused, _⟩ | ⟨_, _, _, same, left⟩
    · cases collapsed.symm.trans refused
    · cases collapsed.symm.trans same
      exact ih left.consistent

/-- In a graph without samples, the first cycle found is refused. -/
theorem CollapseRun.no_samples (run : CollapseRun report graph ended)
    (none : graph.totalSamples = 0) : ended = ⟨graph, .ok report⟩ ∧ graph.findCycle? = .none ∨
      ended = ⟨graph, .error .noSamples⟩ ∧ graph.findCycle? ≠ .none := by
  have refusal : ∀ members, graph.collapse members = ⟨graph, .error .noSamples⟩ :=
    fun members => if_pos none
  cases run with
  | finished _ _ acyclic => exact .inl ⟨rfl, acyclic⟩
  | refused _ _ _ members _ found refused =>
    cases refused.symm.trans (refusal members)
    exact .inr ⟨rfl, by simp [found]⟩
  | again _ _ _ members _ _ _ collapsed _ => cases collapsed.symm.trans (refusal members)

/-- In a graph with samples, the loop goes on until no cycle is left, and every
node has then moved within its component. -/
theorem CollapseRun.contracted (run : CollapseRun report graph ended)
    (consistent : graph.Consistent) (samples : graph.totalSamples ≠ 0) :
    ∃ result report' home, ended = ⟨result, .ok report'⟩ ∧ result.Consistent ∧
      result.totalSamples = graph.totalSamples ∧ result.findCycle? = none ∧
      graph.Contracted result home := by
  induction run with
  | finished _ _ none => exact ⟨_, _, id, rfl, consistent, rfl, none, .refl _⟩
  | refused _ graph _ members _ found refused =>
    have cycle := consistent.isCycle_of_findCycle found
    rcases consistent.collapse_spec members with
      ⟨_, _, none | empty | ⟨handle, inside, gone⟩⟩ | ⟨_, _, _, collapsed, _⟩
    · exact absurd none samples
    · exact (empty ▸ cycle : graph.IsCycle []).elim
    · exact absurd (cycle.live consistent handle inside) (by simp [gone])
    · cases refused.symm.trans collapsed
  | again _ graph _ members _ _ found collapsed _ ih =>
    rcases consistent.collapse_spec members with ⟨_, refused, _⟩ | ⟨survivor, _, _, same, left⟩
    · cases collapsed.symm.trans refused
    · cases collapsed.symm.trans same
      obtain ⟨result, report', home, ended, kept, counted, none, contracted⟩ :=
        ih left.consistent (left.totalSamples ▸ samples)
      have first := left.contracted consistent (consistent.isCycle_of_findCycle found)
      exact ⟨result, report', _, ended, kept, counted.trans left.totalSamples, none,
        first.trans contracted consistent⟩

end Loop

end ProfileGraph.CallGraph

import Mathlib.Data.List.Basic
import Mathlib.Data.List.Induction
import ProfileGraph.Proofs.Merging

/-! Which member of a set is left when the set is collapsed. Coverages that are
numbers are ordered as their values are, the two zeros being one value, so the walk
along the members ends at the first of those with most coverage. -/
namespace ProfileGraph

namespace Binary64

/-- The place of a number among all numbers, in units. Infinities stand where the
numbers that are too large would. -/
def position : Binary64 → Int
  | .nan => 0
  | .infinity negative => signedUnits negative overflowUnits
  | .finite negative units _ => signedUnits negative units

/-- Numbers compare as their places do. -/
theorem le_iff_position {left right : Binary64} (first : left ≠ nan) (second : right ≠ nan) :
    left.le right ↔ left.position ≤ right.position := by
  have positive := overflowUnits_pos
  cases left with
  | nan => exact absurd rfl first
  | infinity s =>
    cases right with
    | nan => exact absurd rfl second
    | infinity t =>
      simp only [le, lt, eq, position, signedUnits]
      generalize overflowUnits = top at positive
      cases s <;> cases t <;> simp
      omega
    | finite t b inRange =>
      have below := inRange.2
      simp only [le, lt, eq, position, signedUnits]
      generalize overflowUnits = top at positive below
      cases s <;> cases t <;> simp <;> omega
  | finite s a inRange =>
    have below := inRange.2
    cases right with
    | nan => exact absurd rfl second
    | infinity t =>
      simp only [le, lt, eq, position, signedUnits]
      generalize overflowUnits = top at positive below
      cases s <;> cases t <;> simp <;> omega
    | finite t b _ => simp [le, lt, eq, position, Int.le_iff_lt_or_eq]

end Binary64

namespace CallGraph

variable {graph : CallGraph Binary64}

/-- The coverage of a live node. -/
def coverageOf? (graph : CallGraph Binary64) (handle : Nat) : Option Binary64 :=
  (graph.node? handle).map (·.coverage)

/-- Nodes whose coverages are numbers. -/
def Comparable (graph : CallGraph Binary64) (handles : List Nat) : Prop :=
  ∀ handle ∈ handles, ∃ coverage, graph.coverageOf? handle = some coverage ∧ coverage ≠ .nan

/-- The first node of a list with most coverage: those before it have less, and those
behind it have no more. -/
structure FirstMost (graph : CallGraph Binary64) (members : List Nat) (survivor : Nat)
    (top : Binary64) : Prop where
  held : graph.coverageOf? survivor = some top
  split : ∃ before behind, members = before ++ survivor :: behind ∧
    (∀ member ∈ before, ∀ coverage, graph.coverageOf? member = some coverage →
      coverage.position < top.position) ∧
    ∀ member ∈ behind, ∀ coverage, graph.coverageOf? member = some coverage →
      coverage.position ≤ top.position

variable {members : List Nat} {survivor : Nat} {top : Binary64}

theorem FirstMost.mem (first : graph.FirstMost members survivor top) : survivor ∈ members := by
  obtain ⟨before, behind, rfl, _⟩ := first.split
  exact List.mem_append_right before List.mem_cons_self

theorem FirstMost.position_le (first : graph.FirstMost members survivor top) {member : Nat}
    (inside : member ∈ members) {coverage : Binary64}
    (covered : graph.coverageOf? member = some coverage) : coverage.position ≤ top.position := by
  obtain ⟨before, behind, rfl, less, most⟩ := first.split
  rcases List.mem_append.mp inside with early | late
  · exact Int.le_of_lt (less member early coverage covered)
  · rcases List.mem_cons.mp late with rfl | late
    · exact Int.le_of_eq (congrArg _ (Option.some.inj (covered.symm.trans first.held)))
    · exact most member late coverage covered

/-- A node with no more coverage does not take the lead. -/
theorem FirstMost.keep (first : graph.FirstMost members survivor top) {member : Nat}
    {coverage : Binary64} (covered : graph.coverageOf? member = some coverage)
    (noMore : coverage.position ≤ top.position) :
    graph.FirstMost (members ++ [member]) survivor top := by
  obtain ⟨before, behind, rfl, less, most⟩ := first.split
  refine ⟨first.held, before, behind ++ [member], by simp, less, fun other inside value held => ?_⟩
  rcases List.mem_append.mp inside with early | last
  · exact most other early value held
  · rw [List.mem_singleton.mp last, covered] at held
    exact Option.some.inj held ▸ noMore

/-- A node with more coverage does. -/
theorem FirstMost.overtake (first : graph.FirstMost members survivor top) {member : Nat}
    {coverage : Binary64} (covered : graph.coverageOf? member = some coverage)
    (more : top.position < coverage.position) :
    graph.FirstMost (members ++ [member]) member coverage := by
  refine ⟨covered, members, [], rfl, fun other inside value held => ?_, by simp⟩
  exact Int.lt_of_le_of_lt (first.position_le inside held) more

theorem better_of_covered {best : Option (Nat × Binary64)} {member : Nat} {coverage : Binary64}
    (covered : graph.coverageOf? member = some coverage) : graph.better best member =
      match best with
      | none => some (member, coverage)
      | some (_, top) => if coverage.le top then best else some (member, coverage) := by
  obtain ⟨node, held, rfl⟩ := Option.map_eq_some_iff.mp covered
  cases best with
  | none => simp [better, held]
  | some => simp [better, held, Quantity.le]

/-- The walk along comparable nodes ends at the first one with most coverage. -/
theorem Comparable.foldl_better (comparable : graph.Comparable members)
    (nonempty : members ≠ []) : ∃ survivor top,
      members.foldl graph.better none = some (survivor, top) ∧ top ≠ .nan ∧
        graph.FirstMost members survivor top := by
  induction members using List.reverseRecOn with
  | nil => exact absurd rfl nonempty
  | append_singleton members member ih =>
    obtain ⟨coverage, covered, number⟩ := comparable member (by simp)
    rw [List.foldl_append, List.foldl_cons, List.foldl_nil]
    rcases eq_or_ne members [] with rfl | earlier
    · refine ⟨member, coverage, better_of_covered covered, number, covered, [], [], rfl, ?_, ?_⟩
      all_goals simp
    · have before : graph.Comparable members := fun other inside =>
        comparable other (List.mem_append_left _ inside)
      obtain ⟨survivor, top, found, topNumber, first⟩ := ih before earlier
      rw [found, better_of_covered covered]
      dsimp only
      split
      next less =>
        have noMore := (Binary64.le_iff_position number topNumber).mp less
        exact ⟨survivor, top, rfl, topNumber, first.keep covered noMore⟩
      next notLess =>
        have more := Int.not_le.mp fun less =>
          notLess ((Binary64.le_iff_position number topNumber).mpr less)
        exact ⟨member, coverage, rfl, number, first.overtake covered more⟩

/-! Listed nodes. -/

/-- The listed nodes, each once, in the order in which they are first listed. -/
structure ListsOnce (listed members : List Nat) : Prop where
  mem_iff : ∀ handle, handle ∈ members ↔ handle ∈ listed
  ordered : members.Pairwise fun first second => listed.idxOf first < listed.idxOf second

theorem ListsOnce.concat {listed : List Nat} (lists : ListsOnce listed members) (handle : Nat) :
    ListsOnce (listed ++ [handle])
      (if handle ∈ listed then members else members ++ [handle]) := by
  have kept {member : Nat} (inside : member ∈ members) :
      (listed ++ [handle]).idxOf member = listed.idxOf member :=
    List.idxOf_append_of_mem ((lists.mem_iff member).mp inside)
  have ordered : members.Pairwise fun first second =>
      (listed ++ [handle]).idxOf first < (listed ++ [handle]).idxOf second :=
    lists.ordered.imp_of_mem fun left right less => by rwa [kept left, kept right]
  split
  next again =>
    refine ⟨fun other => ?_, ordered⟩
    rw [lists.mem_iff, List.mem_append, List.mem_singleton]
    exact ⟨.inl, fun either => either.elim id fun same => same ▸ again⟩
  next fresh =>
    refine ⟨fun other => by simp only [List.mem_append, lists.mem_iff], ?_⟩
    refine List.pairwise_append.mpr ⟨ordered, List.pairwise_singleton _ _, ?_⟩
    intro member inside last same
    rw [List.mem_singleton.mp same, kept inside, List.idxOf_append_of_notMem fresh,
      List.idxOf_cons_self, Nat.add_zero]
    exact List.idxOf_lt_length_of_mem ((lists.mem_iff member).mp inside)

theorem listsOnce_eraseDups (listed : List Nat) : ListsOnce listed listed.eraseDups := by
  induction listed using List.reverseRecOn with
  | nil => exact ⟨fun _ => Iff.rfl, .nil⟩
  | append_singleton listed handle ih =>
    have concat := ih.concat handle
    have erased : (listed ++ [handle]).eraseDups =
        if handle ∈ listed then listed.eraseDups else listed.eraseDups ++ [handle] := by
      rw [List.eraseDups_append]
      by_cases again : handle ∈ listed
      · simp [again, List.removeAll]
      · simp [again, List.removeAll, List.eraseDups_cons]
    rwa [erased]

theorem ListsOnce.nodup {listed : List Nat} (lists : ListsOnce listed members) :
    members.Nodup := by
  refine lists.ordered.imp ?_
  rintro first second less rfl
  exact Nat.lt_irrefl _ less

/-- Of some listed nodes, the one that is listed first among those with most
coverage. -/
structure IsMostCovered (graph : CallGraph Binary64) (listed : List Nat) (survivor : Nat) : Prop where
  mem : survivor ∈ listed
  most : ∀ member ∈ listed, ∀ coverage top, graph.coverageOf? member = some coverage →
    graph.coverageOf? survivor = some top → coverage.le top
  first : ∀ member ∈ listed, ∀ coverage top, graph.coverageOf? member = some coverage →
    graph.coverageOf? survivor = some top → top.le coverage →
      listed.idxOf survivor ≤ listed.idxOf member

theorem FirstMost.isMostCovered {listed : List Nat} (lists : ListsOnce listed members)
    (comparable : graph.Comparable listed) (number : top ≠ .nan)
    (first : graph.FirstMost members survivor top) : graph.IsMostCovered listed survivor := by
  have numbered {member : Nat} {coverage : Binary64} (inside : member ∈ listed)
      (covered : graph.coverageOf? member = some coverage) : coverage ≠ .nan := by
    obtain ⟨value, held, valueNumber⟩ := comparable member inside
    exact Option.some.inj (held.symm.trans covered) ▸ valueNumber
  refine ⟨(lists.mem_iff survivor).mp first.mem, ?_, ?_⟩
  · intro member inside coverage best covered held
    cases first.held.symm.trans held
    refine (Binary64.le_iff_position (numbered inside covered) number).mpr ?_
    exact first.position_le ((lists.mem_iff member).mpr inside) covered
  · intro member inside coverage best covered held level
    cases first.held.symm.trans held
    have noLess := (Binary64.le_iff_position number (numbered inside covered)).mp level
    have ordered := lists.ordered
    obtain ⟨before, behind, split, less, _⟩ := first.split
    have place := split ▸ (lists.mem_iff member).mpr inside
    rw [split] at ordered
    rcases List.mem_append.mp place with early | late
    · exact absurd (less member early coverage covered) (Int.not_lt.mpr noLess)
    · rcases List.mem_cons.mp late with rfl | late
      · exact Nat.le_refl _
      · have later := (List.pairwise_append.mp ordered).2.1
        exact Nat.le_of_lt ((List.pairwise_cons.mp later).1 member late)

/-- The survivor of listed nodes is the one listed first among those with most
coverage. -/
theorem Comparable.mostCovered {listed : List Nat} (comparable : graph.Comparable listed)
    (nonempty : listed ≠ []) :
    ∃ survivor, graph.mostCovered? listed.eraseDups = some survivor ∧
      graph.IsMostCovered listed survivor := by
  have lists := listsOnce_eraseDups listed
  obtain ⟨handle, inside⟩ := List.exists_mem_of_ne_nil listed nonempty
  have some : listed.eraseDups ≠ [] := List.ne_nil_of_mem ((lists.mem_iff handle).mpr inside)
  have members : graph.Comparable listed.eraseDups := fun member once =>
    comparable member ((lists.mem_iff member).mp once)
  obtain ⟨survivor, top, found, number, first⟩ := members.foldl_better some
  exact ⟨survivor, by rw [mostCovered?, found]; rfl, first.isMostCovered lists comparable number⟩

end CallGraph
end ProfileGraph

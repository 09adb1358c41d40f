import ProfileGraph.Proofs.Crediting
import ProfileGraph.Proofs.NegativeTenths
import ProfileGraph.Proofs.Recomputing

/-! Clamping. Correction puts zero in place of a self coverage below zero and reports
the node, but what it looks at is rounded to a tenth of a percent by then. A node
whose callees outweigh its callers by half a tenth at most is given the negative zero,
which is not below zero, and is not reported. -/
namespace ProfileGraph.CallGraph

variable {graph : CallGraph Binary64}

/-- The callees of a node outweigh its callers. -/
def Outweighed (graph : CallGraph Binary64) (handle : Nat) : Prop :=
  (graph.inWeight handle).lt (graph.outWeight handle)

/-- What flows into a node and does not flow out, in tenths of a percent of all
samples and not rounded. -/
def keptTenths (graph : CallGraph Binary64) (handle : Nat) : Binary64 :=
  .tenths (graph.inWeight handle) (graph.outWeight handle) graph.totalSamples

/-- The callees of a node outweigh its callers by more than half a tenth of a percent
of all samples. -/
def ClearlyOutweighed (graph : CallGraph Binary64) (handle : Nat) : Prop :=
  graph.Outweighed handle ∧ (graph.keptTenths handle).lt (.ofRatio true 1 2)

theorem retainedCoverage_eq_tenth (graph : CallGraph Binary64) (handle : Nat) :
    graph.retainedCoverage handle = (graph.keptTenths handle).roundTiesEven / .ofNat 10 := by
  show Binary64.roundTo 1 _ = _
  rw [Binary64.roundTo, Binary64.power_ten_one]
  rfl

section Receiving
variable {handle : Nat} (receives : ¬ Quantity.isZero (graph.inWeight handle))
  (sampled : graph.totalSamples ≠ 0) (inRange : graph.totalSamples < countBound)
include receives sampled inRange

/-- The sign bit is kept by all that is computed from the difference. -/
theorem isNegativeSigned_retainedCoverage :
    (graph.retainedCoverage handle).isNegativeSigned ↔ graph.Outweighed handle := by
  have ten : (Binary64.ofNat 10).IsWeight :=
    Binary64.isWeight_ofNat (by decide) (by decide)
  rw [retainedCoverage_eq_tenth, Binary64.isNegativeSigned_div ten,
    Binary64.isNegativeSigned_roundTiesEven, keptTenths,
    Binary64.isNegativeSigned_tenths receives sampled inRange]
  rfl

theorem isNegative_retainedCoverage_iff :
    Quantity.isNegative (graph.retainedCoverage handle) ↔ graph.ClearlyOutweighed handle := by
  have below : Quantity.isNegative (graph.retainedCoverage handle) ↔
      (graph.keptTenths handle).lt (.ofRatio true 1 2) := by
    rw [retainedCoverage_eq_tenth]
    exact Binary64.isNegative_tenth_iff
  refine ⟨fun negative => ⟨?_, below.mp negative⟩, fun clearly => below.mpr clearly.2⟩
  exact (isNegativeSigned_retainedCoverage receives sampled inRange).mp
    (Binary64.isNegative_iff.mp negative).1

/-- The value that is written has a sign bit where it is the negative zero of a node
that is outweighed by too little. -/
theorem isNegativeSigned_impliedSelfCoverage :
    (graph.impliedSelfCoverage handle).isNegativeSigned ↔
      graph.Outweighed handle ∧ ¬ graph.ClearlyOutweighed handle := by
  have clearly := isNegative_retainedCoverage_iff receives sampled inRange
  rw [impliedSelfCoverage]
  split
  next negative =>
    exact iff_of_false Bool.false_ne_true fun slightly => slightly.2 (clearly.mp negative)
  next rest =>
    rw [isNegativeSigned_retainedCoverage receives sampled inRange, ← clearly]
    exact (and_iff_left rest).symm

end Receiving

/-- No value below zero is written. -/
theorem impliedSelfCoverage_eq_of_signed {handle : Nat}
    (signed : (graph.impliedSelfCoverage handle).isNegativeSigned) :
    graph.impliedSelfCoverage handle = .signedZero true := by
  have unsigned : (graph.impliedSelfCoverage handle).Unsigned := by
    rw [impliedSelfCoverage]
    split
    next => exact Binary64.unsigned_signedZero false
    next rest => exact rest
  generalize graph.impliedSelfCoverage handle = value at signed unsigned
  cases value with
  | nan => cases signed
  | infinity s =>
    obtain rfl := unsigned.eq_false
    cases signed
  | finite s m =>
    obtain rfl : s = true := signed
    obtain rfl := unsigned.eq_zero rfl
    rfl

/-- In an acyclic graph with samples, correction reports the nodes that receive weight
and are outweighed by their callees, if it is by more than half a tenth of a percent of
all samples. The others that are outweighed, and no other nodes, are given a value with
a sign, which is the negative zero. Where the weights add up to whole numbers, half a
tenth of a percent is one sample in two thousand, so that with fewer samples than that
every node that is outweighed is reported. -/
theorem Reachable.fixSelfCoverage_clamps (reachable : graph.Reachable) (acyclic : graph.Acyclic)
    (sampled : graph.totalSamples ≠ 0) (inRange : graph.totalSamples < countBound) :
    ∃ report next, graph.fixSelfCoverage = .ok (report, next) ∧
      (∀ id, id ∈ report.clamped ↔ ∃ handle, graph.contains handle ∧
        ¬ Quantity.isZero (graph.inWeight handle) ∧ graph.ClearlyOutweighed handle ∧
        graph.profilerId handle = id) ∧
      (∀ handle node, next.node? handle = some node →
        ¬ Quantity.isZero (graph.inWeight handle) →
        (node.selfCoverage.isNegativeSigned ↔
          graph.Outweighed handle ∧ ¬ graph.ClearlyOutweighed handle) ∧
        (node.selfCoverage.isNegativeSigned → node.selfCoverage = .signedZero true)) ∧
      ∀ handle, ¬ Quantity.isZero (graph.inWeight handle) →
        (graph.inWeight handle).IsCount → (graph.inWeight handle).count ≤ Binary64.wholeBound →
        (graph.outWeight handle).IsCount → (graph.outWeight handle).count ≤ Binary64.wholeBound →
        (graph.Outweighed handle ↔
          (graph.inWeight handle).count < (graph.outWeight handle).count) ∧
        (graph.ClearlyOutweighed handle ↔ graph.totalSamples <
          2000 * ((graph.outWeight handle).count - (graph.inWeight handle).count)) := by
  obtain ⟨report, next, ran, corrected⟩ :=
    reachable.consistent.exists_corrected acyclic sampled
  refine ⟨report, next, ran, fun id => ?_, fun handle node left receives => ?_,
    fun handle receives whole bounded whole' bounded' => ?_⟩
  · rw [corrected.clamped]
    refine exists_congr fun handle => and_congr_right fun _ => and_congr_right fun receives => ?_
    rw [isNegative_retainedCoverage_iff receives sampled inRange]
  · rw [corrected.selfCoverage_eq left receives]
    exact ⟨isNegativeSigned_impliedSelfCoverage receives sampled inRange,
      impliedSelfCoverage_eq_of_signed⟩
  · have less := Binary64.lt_iff_count_lt whole whole' bounded bounded'
    refine ⟨less, ?_⟩
    rw [← Binary64.tenths_lt_minusHalf_iff whole whole' bounded bounded' receives sampled inRange]
    exact and_iff_right_of_imp fun below =>
      (Binary64.isNegativeSigned_tenths receives sampled inRange).symm.trans
        (Binary64.lt_minusHalf_iff.mp below).1

/-- Two functions whose callees outweigh their callers, the first one by a sample in a
million. -/
def shortfall : CallGraph Binary64 :=
  (empty "!").performAll [
    .declare "N1" "main" (.ofNat 10) (.ofNat 100), .declare "N2" "parse" (.ofNat 1) (.ofNat 2),
    .declare "N3" "scan" (.ofNat 1) (.ofNat 2), .declare "N4" "leaf!" (.ofNat 1) (.ofNat 1),
    .sample 1000000, .connect "N1" "N2" 10, .connect "N2" "N3" 11, .connect "N3" "N4" 5000]

theorem reachable_shortfall : shortfall.Reachable := (Reachable.fresh "!").performAll _

theorem acyclic_shortfall : shortfall.Acyclic :=
  reachable_shortfall.consistent.findCycle_eq_none_iff.mp (by decide +kernel)

theorem shortfall_fixSelfCoverage_clamps : shortfall.totalSamples ≠ 0 ∧
    shortfall.totalSamples < countBound ∧ shortfall.Outweighed 1 ∧
    ∃ report next, shortfall.fixSelfCoverage = .ok (report, next) ∧ "N2" ∉ report.clamped ∧
      ∃ node, next.node? 1 = some node ∧ node.selfCoverage = .signedZero true := by
  have samples : shortfall.totalSamples = 1000000 := by decide +kernel
  have sampled : shortfall.totalSamples ≠ 0 := by rw [samples]; decide
  have inRange : shortfall.totalSamples < countBound := by rw [samples]; decide
  obtain ⟨report, next, ran, clamped, written, counts⟩ :=
    reachable_shortfall.fixSelfCoverage_clamps acyclic_shortfall sampled inRange
  have receives : ¬ Quantity.isZero (shortfall.inWeight 1) := by decide +kernel
  have incoming : shortfall.inWeight 1 = .ofNat 10 := by decide +kernel
  have outgoing : shortfall.outWeight 1 = .ofNat 11 := by decide +kernel
  have ten : 10 ≤ Binary64.exactBound := by decide
  have eleven : 11 ≤ Binary64.exactBound := by decide
  have compared := counts 1 receives
  rw [incoming, outgoing, samples, Binary64.count_ofNat ten, Binary64.count_ofNat eleven] at compared
  obtain ⟨less, clearly⟩ := compared (Binary64.isCount_ofNat ten) (by decide)
    (Binary64.isCount_ofNat eleven) (by decide)
  have outweighed : shortfall.Outweighed 1 := less.mpr (by decide)
  have slightly : ¬ shortfall.ClearlyOutweighed 1 := clearly.not.mpr (by decide)
  have live : shortfall.fixSelfCoverage.toOption.map (·.2.contains 1) = some true := by
    decide +kernel
  rw [ran] at live
  obtain ⟨node, left⟩ := contains_iff_node.mp (Option.some.inj live)
  obtain ⟨signed, zero⟩ := written 1 node left receives
  refine ⟨sampled, inRange, outweighed, report, next, ran, fun listed => ?_,
    node, left, zero (signed.mpr ⟨outweighed, slightly⟩)⟩
  obtain ⟨handle, there, _, clear, named⟩ := (clamped "N2").mp listed
  have alone : ∀ handle ∈ shortfall.handles, shortfall.profilerId handle = "N2" → handle = 1 := by
    decide +kernel
  exact slightly (alone handle (mem_handles.mpr there) named ▸ clear)

/-- The callees of the first one outweigh its callers, and yet it is not reported and its
self coverage is given a sign. -/
theorem shortfall_fixSelfCoverage_misses : shortfall.Reachable ∧ shortfall.Acyclic ∧
    (∀ edge ∈ shortfall.edges, ¬ Quantity.isNegative edge.2.2) ∧ shortfall.totalSamples ≠ 0 ∧
    ¬ Quantity.isZero (shortfall.inWeight 1) ∧ shortfall.Outweighed 1 ∧
    shortfall.profilerId 1 = "N2" ∧ ∃ next,
      shortfall.fixSelfCoverage = .ok (⟨3, 1, ["N3"]⟩, next) ∧
        next.selfCoverageAt 1 = .signedZero true := by
  have reported : shortfall.fixSelfCoverage.map (·.1) = .ok ⟨3, 1, ["N3"]⟩ := by decide +kernel
  have written : shortfall.fixSelfCoverage.toOption.map (·.2.selfCoverageAt 1) =
      some (.signedZero true) := by decide +kernel
  have outweighed : (shortfall.inWeight 1).lt (shortfall.outWeight 1) := by decide +kernel
  refine ⟨reachable_shortfall, acyclic_shortfall, by decide +kernel, by decide +kernel,
    by decide +kernel, outweighed, by decide +kernel, ?_⟩
  cases ran : shortfall.fixSelfCoverage with
  | error error => cases ran ▸ reported
  | ok pair =>
    obtain ⟨report, next⟩ := pair
    rw [ran] at reported written
    obtain rfl : report = ⟨3, 1, ["N3"]⟩ := Except.ok.inj reported
    exact ⟨next, rfl, Option.some.inj written⟩

end ProfileGraph.CallGraph

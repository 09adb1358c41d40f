import ProfileGraph.Proofs.Divisors
import ProfileGraph.Proofs.Ledger
import ProfileGraph.Proofs.RationalRounding

/-! The signs of weights and coverages. No record states a negative number, and no
stage makes one out of others that are not negative: what could be negative, the
difference of what a node receives and passes on, is set to zero. Quotients are
formed by sums of weights that are not zero and by counts of samples that are
not zero, so that over rationals in which a quotient by zero is undefined, all
values stay defined. -/
namespace ProfileGraph

/-! Exact rationals. -/

theorem Quantity.keeps_nonneg : Quantity.Keeps fun x : Rat => 0 ≤ x where
  zero := le_refl (0 : Rat)
  emptySum := le_refl (0 : Rat)
  ofCount := Nat.cast_nonneg
  add := add_nonneg
  mul := mul_nonneg
  roundTo decimals := roundTo_nonneg decimals
  truncate := truncate_nonneg
  div left right _ := div_nonneg left right
  perSample left _ := div_nonneg left (Nat.cast_nonneg _)
  retained _ _ _ := by simp [Quantity.isNegative]

/-- A rational, or the result of a computation that has none. -/
structure PartialRational where
  value? : Option Rat
deriving DecidableEq

namespace PartialRational

/-- The result of an operation on two values, if both are there. -/
def combine (operate : Rat → Rat → Option Rat) (x y : PartialRational) : PartialRational :=
  ⟨x.value?.bind fun left => y.value?.bind fun right => operate left right⟩

instance : Add PartialRational := ⟨combine fun x y => some (x + y)⟩
instance : Sub PartialRational := ⟨combine fun x y => some (x - y)⟩
instance : Mul PartialRational := ⟨combine fun x y => some (x * y)⟩
instance : Div PartialRational := ⟨combine fun x y => if y = 0 then none else some (x / y)⟩

instance : Quantity PartialRational where
  zero := ⟨some 0⟩
  emptySum := ⟨some 0⟩
  ofCount n := ⟨some n⟩
  ofReading x := ⟨x.toRat?⟩
  isZero x := x.value? == some 0
  isNegative x := x.value?.any (· < 0)
  le x y := match x.value?, y.value? with
    | some x, some y => x ≤ y
    | _, _ => false
  roundTo decimals x := ⟨x.value?.map (Quantity.roundTo decimals)⟩
  truncate x := ⟨x.value?.map Quantity.truncate⟩

/-- A value that is there and not negative. -/
def IsNonneg (x : PartialRational) : Prop := ∃ value, x.value? = some value ∧ 0 ≤ value

theorem isNonneg_mk {value : Rat} : IsNonneg ⟨some value⟩ ↔ 0 ≤ value :=
  ⟨fun ⟨_, same, nonneg⟩ => Option.some.inj same ▸ nonneg, fun nonneg => ⟨value, rfl, nonneg⟩⟩

theorem div_mk (x : Rat) {y : Rat} (nonzero : y ≠ 0) :
    (⟨some x⟩ / ⟨some y⟩ : PartialRational) = ⟨some (x / y)⟩ :=
  congrArg PartialRational.mk (if_neg nonzero)

theorem keeps_isNonneg : Quantity.Keeps IsNonneg where
  zero := isNonneg_mk.mpr (le_refl 0)
  emptySum := isNonneg_mk.mpr (le_refl 0)
  ofCount n := isNonneg_mk.mpr n.cast_nonneg
  add := by
    rintro ⟨_⟩ ⟨_⟩ ⟨x, rfl, left⟩ ⟨y, rfl, right⟩
    exact isNonneg_mk.mpr (add_nonneg left right)
  mul := by
    rintro ⟨_⟩ ⟨_⟩ ⟨x, rfl, left⟩ ⟨y, rfl, right⟩
    exact isNonneg_mk.mpr (mul_nonneg left right)
  roundTo := by
    rintro ⟨_⟩ decimals ⟨x, rfl, nonneg⟩
    exact isNonneg_mk.mpr (Quantity.roundTo_nonneg decimals nonneg)
  truncate := by
    rintro ⟨_⟩ ⟨x, rfl, nonneg⟩
    exact isNonneg_mk.mpr (Quantity.truncate_nonneg nonneg)
  div := by
    rintro ⟨_⟩ ⟨_⟩ ⟨x, rfl, left⟩ ⟨y, rfl, right⟩ nonzero
    rw [div_mk x fun zero => nonzero (by simp [Quantity.isZero, zero])]
    exact isNonneg_mk.mpr (div_nonneg left right)
  perSample := by
    rintro ⟨_⟩ samples ⟨x, rfl, nonneg⟩ enough
    rw [show (Quantity.ofCount samples : PartialRational) = ⟨some samples⟩ from rfl,
      div_mk x (Nat.cast_ne_zero.mpr enough)]
    exact isNonneg_mk.mpr (div_nonneg nonneg samples.cast_nonneg)
  retained := by
    rintro ⟨_⟩ ⟨_⟩ samples ⟨x, rfl, _⟩ ⟨y, rfl, _⟩ enough share positive
    have computed : share =
        ⟨some (Quantity.roundTo 1 ((100 : Nat) * (x - y) / samples))⟩ := by
      have quotient := div_mk ((100 : Nat) * (x - y)) (Nat.cast_ne_zero.mpr enough)
      exact congrArg (Quantity.roundTo 1) quotient
    rw [computed] at positive ⊢
    exact isNonneg_mk.mpr (by simpa [Quantity.isNegative] using positive)

end PartialRational

/-! Readings. -/

/-- A number of the kind that records hold for amounts: finite and not below
zero. -/
def Binary64.IsAmount (x : Binary64) : Prop := x.isFinite ∧ (Binary64.signedZero false).le x

theorem Binary64.IsAmount.exists_units {x : Binary64} (amount : x.IsAmount) :
    ∃ negative units magnitude, x = .finite negative units magnitude ∧
      0 ≤ signedUnits negative units := by
  obtain ⟨finite, above⟩ := amount
  cases x with
  | nan => cases finite
  | infinity negative => cases finite
  | finite negative units magnitude =>
    refine ⟨negative, units, magnitude, rfl, ?_⟩
    simp only [le, lt, eq, signedZero, signedUnits, Bool.or_eq_true, beq_iff_eq] at above ⊢
    grind

theorem Binary64.IsAmount.toRat {x : Binary64} (amount : x.IsAmount) :
    ∃ value, x.toRat? = some value ∧ 0 ≤ value := by
  obtain ⟨negative, units, _, rfl, signed⟩ := amount.exists_units
  refine ⟨_, rfl, ?_⟩
  rw [Rat.mkRat_eq_div]
  exact div_nonneg (by exact_mod_cast signed) (Nat.cast_nonneg _)

theorem readAmount_isAmount {text : List Char} {x : Binary64} (read : readAmount? text = some x) :
    x.IsAmount := by
  rw [readAmount?] at read
  split at read
  next =>
    split at read
    next amount =>
      cases read
      exact Bool.and_eq_true_iff.mp amount
    next => cases read
  next => cases read

/-- The percentages of a record are amounts. -/
def Record.HasAmounts : Record → Prop
  | .node declared => declared.selfPercentage.IsAmount ∧ declared.coveragePercentage.IsAmount
  | _ => True

namespace RecordPatterns

theorem field_eq_ok {β : Type} {read? : List Char → Option β} {line : Nat} {kind : RecordKind}
    {found : Match} {number : Nat} {name : RecordField} {value : β}
    (ran : field read? line kind found number name = .ok value) :
    read? (found.group number) = some value := by
  rw [field] at ran
  split at ran
  next read => rw [read, Except.ok.inj ran]
  next => cases ran

theorem bind_eq_ok {β γ : Type} {first : Except RecordError β} {next : β → Except RecordError γ}
    {result : γ} (ran : first >>= next = .ok result) :
    ∃ value, first = .ok value ∧ next value = .ok result := by
  cases first with
  | error error => cases ran
  | ok value => exact ⟨value, rfl, ran⟩

/-- Lines with a percentage that is no amount are refused. -/
theorem readLine_hasAmounts {patterns : RecordPatterns} {line : Nat} {bytes : List UInt8}
    {record : Record} (read : patterns.readLine line bytes = .ok record) : record.HasAmounts := by
  rw [readLine, readText] at read
  split at read
  next kind found _ =>
    cases kind with
    | nodeWithInclusive =>
      obtain ⟨own, ran, read⟩ := bind_eq_ok read
      obtain ⟨inclusive, ran', read⟩ := bind_eq_ok read
      cases read
      exact ⟨readAmount_isAmount (field_eq_ok ran), readAmount_isAmount (field_eq_ok ran')⟩
    | nodeSelfOnly =>
      obtain ⟨own, ran, read⟩ := bind_eq_ok read
      cases read
      have amount := readAmount_isAmount (field_eq_ok ran)
      exact ⟨amount, amount⟩
    | edge =>
      obtain ⟨_, _, read⟩ := bind_eq_ok read
      cases read
      trivial
    | legend =>
      obtain ⟨_, _, read⟩ := bind_eq_ok read
      cases read
      trivial
    | ignored =>
      cases read
      trivial
  next =>
    cases read
    trivial

end RecordPatterns

/-! Building. -/

namespace CallGraph

section Building
variable {α : Type} [Quantity α] {good : α → Prop} {graph next : CallGraph α}
  (keeps : Quantity.Keeps good)
  (reads : ∀ x : Binary64, x.IsAmount → good (Quantity.ofReading x))
include keeps reads

theorem AllValues.enter (values : graph.AllValues good) {record : Record}
    (amounts : record.HasAmounts) (ran : graph.enter record = .ok next) :
    next.AllValues good := by
  cases record with
  | node declared =>
    have coverage := reads _ amounts.2
    have selfCoverage := reads _ amounts.1
    rw [CallGraph.enter, addNode] at ran
    split at ran
    next => cases ran
    next =>
      dsimp only at ran
      split at ran
      next handle _ =>
        cases ran
        exact values.modifySlot handle fun slot here =>
          ⟨coverage, selfCoverage, here.successors, here.predecessors⟩
      next =>
        cases ran
        intro handle slot held
        rw [slot_push] at held
        split at held
        · cases held
          exact ⟨coverage, selfCoverage, by simp [WeightMap.empty], by simp [WeightMap.empty]⟩
        · exact values handle slot held
  | edge call =>
    rw [CallGraph.enter, addEdge] at ran
    split at ran
    next => cases ran
    next => cases ran
    next source target _ _ =>
      have linked := values.journey_link keeps source target (keeps.ofCount call.weight)
      rw [ran] at linked
      exact (linked.allValues values).1
  | legend totalSamples =>
    cases ran
    exact values
  | ignored =>
    cases ran
    exact values

theorem AllValues.enterLines (patterns : RecordPatterns) (stats : ParseStats)
    {lines : List (List UInt8)} (values : graph.AllValues good)
    (ran : (enterLines patterns graph stats lines).outcome = .ok next) : next.AllValues good := by
  induction lines generalizing graph stats with
  | nil =>
    cases ran
    exact values
  | cons bytes later ih =>
    rw [CallGraph.enterLines] at ran
    dsimp only at ran
    split at ran
    next => cases ran
    next record read =>
      split at ran
      next => cases ran
      next entered =>
        have amounts := RecordPatterns.readLine_hasAmounts read
        exact ih _ (values.enter keeps reads amounts entered) ran

theorem build_values {patterns : RecordPatterns} {marker : String} {source : ByteSource}
    (built : (build patterns marker source).outcome = .ok graph) : graph.AllValues good := by
  have fresh : (empty marker : CallGraph α).AllValues good := fun handle slot held => by cases held
  rw [build] at built
  split at built
  next => cases built
  next => exact fresh.enterLines keeps reads patterns {} built

end Building

/-- Whatever stages are run on a graph that is built from a profile, in whatever
order and whether they fail or not: at every moment, all weights and coverages
are non-negative, and no stage divides by zero. So nothing hangs on what a
quotient by zero is; where it is undefined, all values stay defined. -/
theorem build_stages_nonnegative (patterns : RecordPatterns) (marker : String)
    (source : ByteSource) (stages : List Stage) :
    (∀ graph : CallGraph Rat, (build patterns marker source).outcome = .ok graph →
      Journey (0 ≤ ·) graph (graph.stagesMoments stages) (graph.runStages stages) ∧
      (∀ moment ∈ graph :: graph.stagesMoments stages, moment.AllValues (0 ≤ ·)) ∧
      ∀ divisor ∈ graph.stagesDivisors stages, divisor ≠ 0) ∧
    ∀ graph : CallGraph PartialRational, (build patterns marker source).outcome = .ok graph →
      Journey PartialRational.IsNonneg graph (graph.stagesMoments stages)
        (graph.runStages stages) ∧
      ∀ moment ∈ graph :: graph.stagesMoments stages,
        moment.AllValues PartialRational.IsNonneg := by
  refine ⟨fun graph built => ?_, fun graph built => ?_⟩
  · have reads : ∀ x : Binary64, x.IsAmount → (0 : Rat) ≤ Quantity.ofReading x := by
      intro x amount
      obtain ⟨value, same, nonneg⟩ := amount.toRat
      simpa [Quantity.ofReading, same] using nonneg
    have counts : ∀ n : Nat, n ≠ 0 → ¬ Quantity.isZero (Quantity.ofCount n : Rat) := by
      simp [Quantity.isZero, Quantity.ofCount]
    have values := build_values Quantity.keeps_nonneg reads built
    have journey := values.journey_stages Quantity.keeps_nonneg stages
    refine ⟨journey, List.forall_mem_cons.mpr ⟨values, (journey.allValues values).2⟩, ?_⟩
    simpa [Quantity.isZero] using stagesDivisors_nonzero counts stages
  · have values := build_values PartialRational.keeps_isNonneg (fun x amount => amount.toRat) built
    have journey := values.journey_stages PartialRational.keeps_isNonneg stages
    exact ⟨journey, List.forall_mem_cons.mpr ⟨values, (journey.allValues values).2⟩⟩

/-- Pruning fails at first, because of the recursion. -/
theorem recursiveCalls_stages_nonnegative :
    let stages : List Stage := [.prune .retain, .collapse, .correct, .prune .retain]
    (∃ graph : CallGraph Rat, (build .standard "!" ⟨recursiveCalls, none⟩).outcome = .ok graph ∧
      graph.stagesMoments stages ≠ [] ∧ graph.stagesDivisors stages ≠ [] ∧
      (∀ moment ∈ graph :: graph.stagesMoments stages, moment.AllValues (0 ≤ ·)) ∧
      ∀ divisor ∈ graph.stagesDivisors stages, divisor ≠ 0) ∧
    ∃ graph : CallGraph PartialRational,
      (build .standard "!" ⟨recursiveCalls, none⟩).outcome = .ok graph ∧
      ∀ moment ∈ graph :: graph.stagesMoments stages,
        moment.AllValues PartialRational.IsNonneg := by
  intro stages
  obtain ⟨exact, partly⟩ :=
    build_stages_nonnegative .standard "!" ⟨recursiveCalls, none⟩ stages
  constructor
  · have changes : (build (α := Rat) .standard "!" ⟨recursiveCalls, none⟩).outcome.toOption.any
        fun graph => !(graph.stagesMoments stages).isEmpty &&
          !(graph.stagesDivisors stages).isEmpty := by decide +kernel
    cases built : (build (α := Rat) .standard "!" ⟨recursiveCalls, none⟩).outcome with
    | error error => simp [built, Except.toOption] at changes
    | ok graph =>
      have moves : graph.stagesMoments stages ≠ [] ∧ graph.stagesDivisors stages ≠ [] := by
        simpa [built, Except.toOption] using changes
      obtain ⟨_, values, divisors⟩ := exact graph built
      exact ⟨graph, rfl, moves.1, moves.2, values, divisors⟩
  · have succeeds : (build (α := PartialRational) .standard "!"
        ⟨recursiveCalls, none⟩).outcome.toOption.isSome := by decide +kernel
    cases built : (build (α := PartialRational) .standard "!" ⟨recursiveCalls, none⟩).outcome with
    | error error => simp [built, Except.toOption] at succeeds
    | ok graph => exact ⟨graph, rfl, (partly graph built).2⟩

end CallGraph
end ProfileGraph

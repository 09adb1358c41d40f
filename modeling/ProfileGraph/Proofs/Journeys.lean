import ProfileGraph.Proofs.Reworking

/-! The graphs that a pass goes through. Whatever a pass does, it does by writing
one slot after the other, and a failure leaves what was written before it. The
moments of a pass are the graphs behind its writes, also those between the two
copies of one edge. A journey checks them: each comes from the one before by one
write, the last one is what the pass leaves, and none of them holds a value
without the property that the arithmetic of the passes keeps. -/
namespace ProfileGraph

/-- A property of quantities that the arithmetic of the passes keeps. They divide
only by what is not zero and by counts of samples that are not zero, and a
difference is kept only if its share of all samples is not negative. -/
structure Quantity.Keeps {α : Type} [Quantity α] (good : α → Prop) : Prop where
  zero : good Quantity.zero
  emptySum : good Quantity.emptySum
  ofCount (n : Nat) : good (Quantity.ofCount n)
  add {x y : α} : good x → good y → good (x + y)
  mul {x y : α} : good x → good y → good (x * y)
  roundTo {x : α} (decimals : Int) : good x → good (Quantity.roundTo decimals x)
  truncate {x : α} : good x → good (Quantity.truncate x)
  div {x y : α} : good x → good y → ¬ Quantity.isZero y → good (x / y)
  perSample {x : α} {samples : Nat} : good x → samples ≠ 0 → good (x / Quantity.ofCount samples)
  retained {x y : α} {samples : Nat} : good x → good y → samples ≠ 0 →
    let share := Quantity.roundTo 1 (Quantity.ofCount 100 * (x - y) / Quantity.ofCount samples)
    ¬ Quantity.isNegative share → good share

theorem Quantity.Keeps.sum {α : Type} [Quantity α] {good : α → Prop} (keeps : Keeps good)
    {terms : List α} (each : ∀ term ∈ terms, good term) : good (Quantity.sum terms) :=
  List.foldlRecOn (motive := good) terms _ keeps.emptySum fun _ sofar term listed =>
    keeps.add sofar (each term listed)

theorem Quantity.keeps_true {α : Type} [Quantity α] : Keeps fun _ : α => True := by
  constructor <;> intros <;> trivial

/-- Nodes that differ in their coverages at most. -/
def Node.Resembles {α : Type} (after before : Node α) : Prop :=
  after = { before with coverage := after.coverage, selfCoverage := after.selfCoverage }

theorem Node.Resembles.refl {α : Type} (node : Node α) : node.Resembles node := rfl

theorem Node.Resembles.trans {α : Type} {last middle first : Node α}
    (after : last.Resembles middle) (before : middle.Resembles first) : last.Resembles first := by
  rw [Node.Resembles] at before
  rw [before] at after
  exact after

/-- All values in a slot have a property. -/
structure Slot.AllValues {α : Type} (good : α → Prop) (slot : Slot α) : Prop where
  coverage : good slot.node.coverage
  selfCoverage : good slot.node.selfCoverage
  successors : ∀ entry ∈ slot.successors.entries, good entry.2
  predecessors : ∀ entry ∈ slot.predecessors.entries, good entry.2

namespace CallGraph
variable {α : Type} {good : α → Prop} {graph middle next result : CallGraph α}
  {moments later : List (CallGraph α)}

/-- Both coverages of all nodes and both copies of all weights have a
property. -/
def AllValues (good : α → Prop) (graph : CallGraph α) : Prop :=
  ∀ handle slot, graph.slot? handle = some slot → slot.AllValues good

theorem allValues_true (graph : CallGraph α) : graph.AllValues fun _ => True :=
  fun _ _ _ => ⟨trivial, trivial, fun _ _ => trivial, fun _ _ => trivial⟩

/-- One write: a slot is edited, but no field of its node other than the
coverages, or it is emptied and its id retired. -/
inductive Wrote (graph : CallGraph α) : CallGraph α → Prop
  | edit (handle : Nat) (change : Slot α → Slot α) :
      (∀ slot, (change slot).node.Resembles slot.node) →
      Wrote graph (graph.modifySlot handle change)
  | vacate {handle : Nat} {id : String} :
      graph.idAt? handle = some id → Wrote graph (graph.vacate handle id)

/-- The listed graphs lead from one graph to another by one write each, and all
their values have a property. -/
inductive Journey (good : α → Prop) : CallGraph α → List (CallGraph α) → CallGraph α → Prop
  | done {graph : CallGraph α} : Journey good graph [] graph
  | write {graph next result : CallGraph α} {later : List (CallGraph α)} :
      graph.Wrote next → next.AllValues good → Journey good next later result →
      Journey good graph (next :: later) result

theorem Journey.append (first : Journey good graph moments middle)
    (second : Journey good middle later result) : Journey good graph (moments ++ later) result := by
  induction first with
  | done => exact second
  | write wrote values _ ih => exact .write wrote values (ih second)

theorem Journey.single (wrote : graph.Wrote next) (values : next.AllValues good) :
    Journey good graph [next] next :=
  .write wrote values .done

theorem Journey.allValues (journey : Journey good graph moments result)
    (values : graph.AllValues good) :
    result.AllValues good ∧ ∀ moment ∈ moments, moment.AllValues good := by
  induction journey with
  | done => exact ⟨values, by simp⟩
  | write _ here _ ih =>
    obtain ⟨last, between⟩ := ih here
    exact ⟨last, List.forall_mem_cons.mpr ⟨here, between⟩⟩

/-! What a write changes. -/

theorem Wrote.node_before (wrote : graph.Wrote next) {handle : Nat} {after : Node α}
    (left : next.node? handle = some after) :
    ∃ before, graph.node? handle = some before ∧ after.Resembles before := by
  cases wrote with
  | edit edited change keeps =>
    rw [node?, slot_modifySlot] at left
    rw [node?]
    split at left
    · obtain ⟨slot, changed, rfl⟩ := Option.map_eq_some_iff.mp left
      obtain ⟨slot, held, rfl⟩ := Option.map_eq_some_iff.mp changed
      exact ⟨slot.node, by rw [held, Option.map_some], keeps slot⟩
    · exact ⟨after, left, .refl after⟩
  | vacate _ =>
    refine ⟨after, ?_, .refl after⟩
    rw [node?, slot_vacate] at left
    split at left
    · cases left
    · exact left

theorem Wrote.fields (wrote : graph.Wrote next) : next.totalSamples = graph.totalSamples ∧
    next.coverage = graph.coverage ∧ next.selector = graph.selector := by
  cases wrote <;> exact ⟨rfl, rfl, rfl⟩

/-- Along a journey the nodes that are left keep all but their coverages. -/
theorem Journey.node_before (journey : Journey good graph moments result) {handle : Nat}
    {after : Node α} (left : result.node? handle = some after) :
    ∃ before, graph.node? handle = some before ∧ after.Resembles before := by
  induction journey with
  | done => exact ⟨after, left, .refl after⟩
  | write wrote _ _ ih =>
    obtain ⟨between, held, alike⟩ := ih left
    obtain ⟨before, first, same⟩ := wrote.node_before held
    exact ⟨before, first, alike.trans same⟩

theorem Journey.fields (journey : Journey good graph moments result) :
    result.totalSamples = graph.totalSamples ∧ result.coverage = graph.coverage ∧
      result.selector = graph.selector := by
  induction journey with
  | done => exact ⟨rfl, rfl, rfl⟩
  | write wrote _ _ ih =>
    obtain ⟨samples, coverage, selector⟩ := wrote.fields
    obtain ⟨samples', coverage', selector'⟩ := ih
    exact ⟨samples'.trans samples, coverage'.trans coverage, selector'.trans selector⟩

theorem AllValues.modifySlot (values : graph.AllValues good) (handle : Nat)
    {change : Slot α → Slot α}
    (keeps : ∀ slot, slot.AllValues good → (change slot).AllValues good) :
    (graph.modifySlot handle change).AllValues good := by
  intro other slot held
  rw [slot_modifySlot] at held
  split at held
  · obtain ⟨before, there, rfl⟩ := Option.map_eq_some_iff.mp held
    exact keeps before (values other before there)
  · exact values other slot held

theorem AllValues.vacate (values : graph.AllValues good) (handle : Nat) (id : String) :
    (graph.vacate handle id).AllValues good := by
  intro other slot held
  rw [slot_vacate] at held
  split at held
  · cases held
  · exact values other slot held

/-! Values in a graph. -/

section Values
variable (values : graph.AllValues good)
include values

theorem AllValues.node {handle : Nat} {node : Node α} (held : graph.node? handle = some node) :
    good node.coverage ∧ good node.selfCoverage := by
  obtain ⟨slot, there, rfl⟩ := Option.map_eq_some_iff.mp held
  have here := values handle slot there
  exact ⟨here.coverage, here.selfCoverage⟩

theorem AllValues.successors {handle : Nat} : ∀ entry ∈ graph.successors handle, good entry.2 := by
  rw [CallGraph.successors]
  split
  next slot held => exact (values handle slot held).successors
  next => simp

theorem AllValues.predecessors {handle : Nat} :
    ∀ entry ∈ graph.predecessors handle, good entry.2 := by
  rw [CallGraph.predecessors]
  split
  next slot held => exact (values handle slot held).predecessors
  next => simp

theorem AllValues.edgeWeight {source target : Nat} {weight : α}
    (held : graph.edgeWeight? source target = some weight) : good weight :=
  values.successors (target, weight) (mem_successors.mpr held)

variable [Quantity α] (keeps : Quantity.Keeps good)
include keeps

theorem AllValues.inWeight (handle : Nat) : good (graph.inWeight handle) :=
  keeps.sum (by simpa using fun weight other => values.predecessors (other, weight))

theorem AllValues.outWeight (handle : Nat) : good (graph.outWeight handle) :=
  keeps.sum (by simpa using fun weight other => values.successors (other, weight))

end Values

end CallGraph
end ProfileGraph

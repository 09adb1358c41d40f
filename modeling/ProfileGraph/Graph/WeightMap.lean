import ProfileGraph.Numeric.Quantity

/-! Weights of the neighbours of a node. A node is named by its handle, the
natural number that is its position in the order of declaration. Neighbours
are listed in ascending order of their handles, each once, so that sums over
them and walks along them have one order. What a map holds is said by `get?`;
two maps that answer alike are equal. -/
namespace ProfileGraph

namespace WeightMap
variable {α : Type}

/-- Nats with weights, in ascending order of the handles. -/
def Ascending (entries : List (Nat × α)) : Prop :=
  entries.Pairwise fun x y => x.1 < y.1

/-- Gives a handle a weight, at its place in an ascending list. -/
def insertEntry (h : Nat) (w : α) : List (Nat × α) → List (Nat × α)
  | [] => [(h, w)]
  | (k, v) :: rest =>
    if h < k then (h, w) :: (k, v) :: rest
    else if h = k then (h, w) :: rest
    else (k, v) :: insertEntry h w rest

theorem mem_insertEntry {h : Nat} {w : α} {entry : Nat × α} {entries : List (Nat × α)}
    (mem : entry ∈ insertEntry h w entries) : entry = (h, w) ∨ entry ∈ entries := by
  induction entries with
  | nil => simpa [insertEntry] using mem
  | cons head rest ih =>
    simp only [insertEntry] at mem
    split at mem
    · simpa using mem
    · split at mem
      · rcases List.mem_cons.mp mem with same | later
        · exact .inl same
        · exact .inr (List.mem_cons_of_mem _ later)
      · rcases List.mem_cons.mp mem with same | later
        · exact .inr (same ▸ List.mem_cons_self ..)
        · exact (ih later).imp_right (List.mem_cons_of_mem _)

theorem Ascending.insertEntry {entries : List (Nat × α)} (sorted : Ascending entries)
    (h : Nat) (w : α) : Ascending (WeightMap.insertEntry h w entries) := by
  induction entries with
  | nil => simp [WeightMap.insertEntry, Ascending]
  | cons head rest ih =>
    obtain ⟨above, tail⟩ := List.pairwise_cons.mp sorted
    simp only [WeightMap.insertEntry]
    split
    next less =>
      refine List.pairwise_cons.mpr ⟨fun entry mem => ?_, sorted⟩
      rcases List.mem_cons.mp mem with same | later
      · exact same ▸ less
      · exact Nat.lt_trans less (above entry later)
    next notLess =>
      split
      next same => exact List.pairwise_cons.mpr ⟨fun entry mem => same ▸ above entry mem, tail⟩
      next other =>
        refine List.pairwise_cons.mpr ⟨fun entry mem => ?_, ih tail⟩
        rcases mem_insertEntry mem with same | later
        · subst same
          show head.1 < h
          omega
        · exact above entry later

/-- The weight listed for a handle. -/
def lookup (h : Nat) : List (Nat × α) → Option α
  | [] => none
  | (k, w) :: rest => if h = k then some w else lookup h rest

theorem lookup_insertEntry (h k : Nat) (w : α) (entries : List (Nat × α)) :
    lookup k (insertEntry h w entries) = if k = h then some w else lookup k entries := by
  induction entries with
  | nil => rfl
  | cons head rest ih =>
    simp only [insertEntry]
    split
    · rfl
    · split <;> simp only [lookup] <;> grind

theorem lookup_filter (h k : Nat) (entries : List (Nat × α)) :
    lookup k (entries.filter (·.1 != h)) = if k = h then none else lookup k entries := by
  induction entries with
  | nil => simp [lookup]
  | cons head rest ih => grind [lookup]

theorem lookup_eq_none {h : Nat} {entries : List (Nat × α)}
    (above : ∀ entry ∈ entries, h < entry.1) : lookup h entries = none := by
  induction entries with
  | nil => rfl
  | cons head rest ih => grind [lookup]

/-- An ascending list holds exactly the entries that it answers with. -/
theorem Ascending.lookup_eq_some_iff {h : Nat} {w : α} {entries : List (Nat × α)}
    (sorted : Ascending entries) : lookup h entries = some w ↔ (h, w) ∈ entries := by
  induction entries with
  | nil => simp [lookup]
  | cons head rest ih =>
    obtain ⟨above, tail⟩ := List.pairwise_cons.mp sorted
    simp only [lookup, List.mem_cons]
    split
    next first =>
      subst first
      constructor
      · intro found
        exact .inl (Prod.ext rfl (Option.some.inj found).symm)
      · rintro (same | later)
        · rw [← same]
        · exact absurd (above _ later) (Nat.lt_irrefl _)
    next other =>
      rw [ih tail]
      constructor
      · exact .inr
      · rintro (same | later)
        · exact absurd (congrArg Prod.fst same) other
        · exact later

/-- Ascending lists that answer alike are equal. -/
theorem Ascending.ext {xs ys : List (Nat × α)} (sortedX : Ascending xs) (sortedY : Ascending ys)
    (same : ∀ h, lookup h xs = lookup h ys) : xs = ys := by
  induction xs generalizing ys with
  | nil =>
    cases ys with
    | nil => rfl
    | cons y ys => exact absurd (same y.1) (by simp [lookup])
  | cons x xs ih =>
    cases ys with
    | nil => exact absurd (same x.1) (by simp [lookup])
    | cons y ys =>
      obtain ⟨aboveX, tailX⟩ := List.pairwise_cons.mp sortedX
      obtain ⟨aboveY, tailY⟩ := List.pairwise_cons.mp sortedY
      have noneX := lookup_eq_none aboveX
      have noneY := lookup_eq_none aboveY
      have key : x.1 = y.1 := by
        rcases Nat.lt_trichotomy x.1 y.1 with less | equal | greater
        · have := lookup_eq_none fun entry mem => Nat.lt_trans less (aboveY entry mem)
          have := same x.1
          grind [lookup]
        · exact equal
        · have := lookup_eq_none fun entry mem => Nat.lt_trans greater (aboveX entry mem)
          have := same y.1
          grind [lookup]
      have head : x = y := by
        have := same x.1
        grind [lookup]
      subst head
      refine congrArg (x :: ·) (ih tailX tailY fun h => ?_)
      by_cases first : h = x.1
      · rw [first, noneX, noneY]
      · simpa [lookup, first] using same h

theorem Ascending.filter {entries : List (Nat × α)} (sorted : Ascending entries)
    (keep : Nat × α → Bool) : Ascending (entries.filter keep) :=
  List.Pairwise.filter keep sorted

end WeightMap

/-- Weights by handle. -/
structure WeightMap (α : Type) where
  /-- The handles with their weights, ascending. -/
  entries : List (Nat × α)
  ascending : WeightMap.Ascending entries

namespace WeightMap
variable {α : Type}

/-- The map without keys. -/
def empty : WeightMap α := ⟨[], List.Pairwise.nil⟩

instance : Inhabited (WeightMap α) := ⟨empty⟩

/-- The weight of a handle. -/
def get? (map : WeightMap α) (h : Nat) : Option α := lookup h map.entries

/-- Whether a key has a weight. -/
def contains (map : WeightMap α) (h : Nat) : Bool := (map.get? h).isSome

/-- The map in which a handle has the given weight and all others keep theirs. -/
def insert (map : WeightMap α) (h : Nat) (w : α) : WeightMap α :=
  ⟨insertEntry h w map.entries, map.ascending.insertEntry h w⟩

/-- The map without a handle. -/
def erase (map : WeightMap α) (h : Nat) : WeightMap α :=
  ⟨map.entries.filter (·.1 != h), map.ascending.filter _⟩

/-- The handles, ascending. -/
def keys (map : WeightMap α) : List Nat := map.entries.map (·.1)

/-- The number of handles. -/
def size (map : WeightMap α) : Nat := map.entries.length

/-- The weight of a handle; a handle without one has the weight zero. -/
def weight [Quantity α] (map : WeightMap α) (h : Nat) : α := (map.get? h).getD Quantity.zero

/-- Adds to the weight of a handle. -/
def add [Quantity α] (map : WeightMap α) (h : Nat) (w : α) : WeightMap α :=
  map.insert h (map.weight h + w)

/-- The sum of the weights, in the order of the handles. -/
def total [Quantity α] (map : WeightMap α) : α := Quantity.sum (map.entries.map (·.2))

@[simp] theorem get?_empty (h : Nat) : (empty : WeightMap α).get? h = none := rfl

@[simp] theorem get?_insert (map : WeightMap α) (h k : Nat) (w : α) :
    (map.insert h w).get? k = if k = h then some w else map.get? k :=
  lookup_insertEntry h k w map.entries

@[simp] theorem get?_erase (map : WeightMap α) (h k : Nat) :
    (map.erase h).get? k = if k = h then none else map.get? k :=
  lookup_filter h k map.entries

theorem mem_entries {map : WeightMap α} {h : Nat} {w : α} :
    (h, w) ∈ map.entries ↔ map.get? h = some w :=
  map.ascending.lookup_eq_some_iff.symm

theorem mem_keys {map : WeightMap α} {h : Nat} :
    h ∈ map.entries.map (·.1) ↔ (map.get? h).isSome := by
  rw [Option.isSome_iff_exists]
  simp [mem_entries]

/-- No handle is listed twice. -/
theorem nodup_keys (map : WeightMap α) : (map.entries.map (·.1)).Nodup := by
  refine List.pairwise_map.mpr (map.ascending.imp ?_)
  intro x y less
  exact Nat.ne_of_lt less

/-- A map is determined by the weights it gives. -/
@[ext] theorem ext {left right : WeightMap α} (same : ∀ h, left.get? h = right.get? h) :
    left = right := by
  obtain ⟨entriesL, ascendingL⟩ := left
  obtain ⟨entriesR, ascendingR⟩ := right
  obtain rfl : entriesL = entriesR := ascendingL.ext ascendingR same
  rfl

end WeightMap
end ProfileGraph

import Mathlib.Data.List.Basic
import Mathlib.Data.List.Infix

/-! Separators in a text. When one text is put together from parts in two ways,
with separators between them, the separators settle which parts are the same. A
separator here starts with a character that it holds only once, so two of its
occurrences never overlap. -/
namespace ProfileGraph.Text

variable {α : Type} {s : α} {t t' u v x y part : List α}

/-- What stands in front of a character that a text lacks reaches beyond it. -/
theorem exists_of_append_eq_append_cons (fresh : s ∉ t) (whole : t ++ v = x ++ s :: y) :
    ∃ w, x = t ++ w ∧ v = w ++ s :: y := by
  rcases List.append_eq_append_iff.mp whole with ⟨w, front, back⟩ | ⟨w, rfl, same⟩
  · exact ⟨w, front, back⟩
  · cases w with
    | nil => exact ⟨[], by simp, same.symm⟩
    | cons c w =>
      obtain ⟨rfl, _⟩ := List.cons.inj same
      exact absurd (List.mem_append_right x List.mem_cons_self) fresh

/-- A separator that is not in the front part of a text stands where that part
ends, or behind the separator that is there. -/
theorem separator_at_or_behind (fresh : s ∉ t) (fresh' : s ∉ t') (absent : ¬ s :: t <:+: x)
    (whole : u ++ s :: (t ++ v) = x ++ s :: (t' ++ y)) :
    (u = x ∧ t ++ v = t' ++ y) ∨ ∃ w, y = w ++ s :: (t ++ v) := by
  rcases List.append_eq_append_iff.mp whole with ⟨w, rfl, same⟩ | ⟨w, rfl, same⟩
  · cases w with
    | nil => exact .inl ⟨by simp, (List.cons.inj same).2⟩
    | cons c w =>
      obtain ⟨rfl, behind⟩ := List.cons.inj same
      obtain ⟨w, rfl, _⟩ := exists_of_append_eq_append_cons fresh behind
      exact absurd ⟨u, w, by simp⟩ absent
  · cases w with
    | nil => exact .inl ⟨by simp, (List.cons.inj same).2.symm⟩
    | cons c w =>
      obtain ⟨rfl, front⟩ := List.cons.inj same
      obtain ⟨w, _, behind⟩ := exists_of_append_eq_append_cons fresh' front
      exact .inr ⟨w, behind⟩

/-- A separator that is in neither part of a text stands between them. -/
theorem separator_between (fresh : s ∉ t) (before : ¬ s :: t <:+: x) (behind : ¬ s :: t <:+: y)
    (whole : u ++ s :: (t ++ v) = x ++ s :: (t ++ y)) : u = x ∧ v = y := by
  rcases separator_at_or_behind fresh fresh before whole with ⟨front, back⟩ | ⟨w, rfl⟩
  · exact ⟨front, List.append_cancel_left back⟩
  · exact absurd ⟨w, v, by simp⟩ behind

/-- A run of characters with a property ends where the first one without it
stands. -/
theorem run_ends {holds : α → Prop} {a b : α} (inside : ∀ c ∈ u, holds c)
    (inside' : ∀ c ∈ x, holds c) (outside : ¬ holds a) (outside' : ¬ holds b)
    (whole : u ++ a :: v = x ++ b :: y) : u = x ∧ a = b ∧ v = y := by
  induction u generalizing x with
  | nil =>
    cases x with
    | nil =>
      obtain ⟨rfl, rfl⟩ := List.cons.inj whole
      exact ⟨rfl, rfl, rfl⟩
    | cons c x =>
      obtain ⟨rfl, _⟩ := List.cons.inj whole
      exact absurd (inside' a List.mem_cons_self) outside
  | cons c u ih =>
    obtain ⟨first, inside⟩ := List.forall_mem_cons.mp inside
    cases x with
    | nil =>
      obtain ⟨rfl, _⟩ := List.cons.inj whole
      exact absurd first outside'
    | cons d x =>
      obtain ⟨rfl, later⟩ := List.cons.inj whole
      obtain ⟨rfl, same⟩ := ih inside (List.forall_mem_cons.mp inside').2 later
      exact ⟨rfl, same⟩

/-- A text without a character occurs on one side of it. -/
theorem infix_append_cons (fresh : s ∉ part) (inside : part <:+: x ++ s :: y) :
    part <:+: x ∨ part <:+: y := by
  rcases List.infix_append_iff.mp inside with front | back | ⟨l, r, rfl, left, right⟩
  · exact .inl front
  · rcases List.infix_cons_iff.mp back with first | later
    · cases part with
      | nil => exact .inl List.nil_infix
      | cons c part =>
        obtain ⟨rfl, _⟩ := List.cons_prefix_cons.mp first
        exact absurd List.mem_cons_self fresh
    · exact .inr later
  · cases r with
    | nil => exact .inl (by simpa using left.isInfix)
    | cons c r =>
      obtain ⟨rfl, _⟩ := List.cons_prefix_cons.mp right
      exact absurd (List.mem_append_right l List.mem_cons_self) fresh

/-- A text that starts with a character does not occur where that is missing. -/
theorem not_infix_of_not_mem (missing : s ∉ x) : ¬ s :: t <:+: x :=
  fun inside => missing (inside.subset List.mem_cons_self)

end ProfileGraph.Text

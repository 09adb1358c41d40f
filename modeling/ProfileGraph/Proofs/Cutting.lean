import Mathlib.Data.List.Basic
import ProfileGraph.Text.Bytes

/-! Lines as cuts of a byte stream. A cut that puts every line feed at the end
of a line, and nothing behind an unfinished line, is the only one of its kind,
and it is the one that reading makes. -/
namespace ProfileGraph.Text

/-- The lines of a byte stream: texts without line feeds, each with one behind
it, and a rest without line feeds, which is a line unless it is empty. -/
def IsLines (bytes : List UInt8) (lines : List (List UInt8)) : Prop :=
  ∃ (bodies : List (List UInt8)) (rest : List UInt8),
    (∀ body ∈ bodies, lineFeed ∉ body) ∧ lineFeed ∉ rest ∧
      bytes = bodies.flatMap (· ++ [lineFeed]) ++ rest ∧
      lines = bodies.map (· ++ [lineFeed]) ++ if rest.isEmpty then [] else [rest]

theorem Lines.ofBytes_cons (byte : UInt8) (bytes : List UInt8) :
    ofBytes (byte :: bytes) = (ofBytes bytes).cons byte := rfl

theorem Lines.ofBytes_of_not_mem {rest : List UInt8} (unfinished : lineFeed ∉ rest) :
    ofBytes rest = ⟨[], rest⟩ := by
  induction rest with
  | nil => rfl
  | cons byte later ih =>
    obtain ⟨other, unfinished⟩ := List.ne_and_not_mem_of_not_mem_cons unfinished
    rw [ofBytes_cons, ih unfinished, cons, if_neg other.symm]

/-- A first line is cut off at its line feed. -/
theorem Lines.ofBytes_append {body : List UInt8} (unbroken : lineFeed ∉ body)
    (later : List UInt8) : ofBytes (body ++ lineFeed :: later) =
      ⟨(body ++ [lineFeed]) :: (ofBytes later).finished, (ofBytes later).unfinished⟩ := by
  induction body with
  | nil => rw [List.nil_append, ofBytes_cons, cons, if_pos rfl, List.nil_append]
  | cons byte body ih =>
    obtain ⟨other, unbroken⟩ := List.ne_and_not_mem_of_not_mem_cons unbroken
    rw [List.cons_append, ofBytes_cons, ih unbroken, cons, if_neg other.symm]
    rfl

/-- Reading gives back the lines of which a stream is made. -/
theorem Lines.ofBytes_flatMap {bodies : List (List UInt8)} {rest : List UInt8}
    (unbroken : ∀ body ∈ bodies, lineFeed ∉ body) (unfinished : lineFeed ∉ rest) :
    ofBytes (bodies.flatMap (· ++ [lineFeed]) ++ rest) =
      ⟨bodies.map (· ++ [lineFeed]), rest⟩ := by
  induction bodies with
  | nil => exact ofBytes_of_not_mem unfinished
  | cons body bodies ih =>
    obtain ⟨first, unbroken⟩ := List.forall_mem_cons.mp unbroken
    have joined : (body :: bodies).flatMap (· ++ [lineFeed]) ++ rest =
        body ++ lineFeed :: (bodies.flatMap (· ++ [lineFeed]) ++ rest) := by simp
    rw [joined, ofBytes_append first, ih unbroken, List.map_cons]

/-- Every stream is made of lines. -/
theorem exists_bodies (bytes : List UInt8) :
    ∃ (bodies : List (List UInt8)) (rest : List UInt8), (∀ body ∈ bodies, lineFeed ∉ body) ∧ lineFeed ∉ rest ∧
      bytes = bodies.flatMap (· ++ [lineFeed]) ++ rest := by
  induction bytes with
  | nil => exact ⟨[], [], by simp, by simp, rfl⟩
  | cons byte later ih =>
    obtain ⟨bodies, rest, unbroken, unfinished, rfl⟩ := ih
    by_cases feed : byte = lineFeed
    · refine ⟨[] :: bodies, rest, ?_, unfinished, by simp [feed]⟩
      exact List.forall_mem_cons.mpr ⟨List.not_mem_nil, unbroken⟩
    · cases bodies with
      | nil => exact ⟨[], byte :: rest, unbroken, by simp [Ne.symm feed, unfinished], rfl⟩
      | cons body bodies =>
        obtain ⟨first, unbroken⟩ := List.forall_mem_cons.mp unbroken
        refine ⟨(byte :: body) :: bodies, rest, ?_, unfinished, by simp⟩
        exact List.forall_mem_cons.mpr ⟨by simp [Ne.symm feed, first], unbroken⟩

theorem isLines_iff {bytes : List UInt8} {lines : List (List UInt8)} :
    IsLines bytes lines ↔ lines = (Lines.ofBytes bytes).all := by
  constructor
  · rintro ⟨bodies, rest, unbroken, unfinished, rfl, rfl⟩
    rw [Lines.ofBytes_flatMap unbroken unfinished, Lines.all]
    split <;> simp
  · rintro rfl
    obtain ⟨bodies, rest, unbroken, unfinished, rfl⟩ := exists_bodies bytes
    refine ⟨bodies, rest, unbroken, unfinished, rfl, ?_⟩
    rw [Lines.ofBytes_flatMap unbroken unfinished, Lines.all]
    split <;> simp

end ProfileGraph.Text

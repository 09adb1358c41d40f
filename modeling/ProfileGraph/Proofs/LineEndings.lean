import ProfileGraph.Proofs.LineTexts

/-! Line endings. A carriage return in front of a line feed belongs to the end of
the line and is dropped with it, and so is the line feed itself; a build sees
neither. A line that ends in a line feed is the same as an unfinished last line,
if that line is not empty. -/
namespace ProfileGraph

namespace Text

/-- Puts a carriage return in front of every line feed. -/
def withCarriageReturns (bytes : List UInt8) : List UInt8 :=
  bytes.flatMap fun byte => if byte = lineFeed then [carriageReturn, lineFeed] else [byte]

theorem withCarriageReturns_of_not_mem {bytes : List UInt8} (unbroken : lineFeed ∉ bytes) :
    withCarriageReturns bytes = bytes := by
  induction bytes with
  | nil => rfl
  | cons byte later ih =>
    obtain ⟨other, unbroken⟩ := List.ne_and_not_mem_of_not_mem_cons unbroken
    have rest := ih unbroken
    rw [withCarriageReturns] at rest ⊢
    rw [List.flatMap_cons, rest, if_neg other.symm, List.singleton_append]

/-- The carriage returns stand at the ends of the lines that were there. -/
theorem withCarriageReturns_flatMap {bodies : List (List UInt8)} {rest : List UInt8}
    (unbroken : ∀ body ∈ bodies, lineFeed ∉ body) (unfinished : lineFeed ∉ rest) :
    withCarriageReturns (bodies.flatMap (· ++ [lineFeed]) ++ rest) =
      (bodies.map (· ++ [carriageReturn])).flatMap (· ++ [lineFeed]) ++ rest := by
  induction bodies with
  | nil => exact withCarriageReturns_of_not_mem unfinished
  | cons body bodies ih =>
    obtain ⟨first, unbroken⟩ := List.forall_mem_cons.mp unbroken
    have rest := ih unbroken
    have kept := withCarriageReturns_of_not_mem first
    rw [withCarriageReturns] at rest kept ⊢
    simp [List.flatMap_append, kept, ← rest]

end Text

namespace CallGraph
variable {α : Type} [Quantity α]

/-- Carriage returns in front of all line feeds change nothing, wherever others
stand and whether reading fails or not. -/
theorem build_withCarriageReturns (patterns : RecordPatterns) (marker : String)
    (bytes : List UInt8) (failure : Option String) :
    (build patterns marker ⟨Text.withCarriageReturns bytes, failure⟩ : BuildResult α) =
      build patterns marker ⟨bytes, failure⟩ := by
  refine build_congr patterns marker ?_ rfl
  obtain ⟨bodies, rest, unbroken, unfinished, rfl⟩ := Text.exists_bodies bytes
  have returned : ∀ body ∈ bodies.map (· ++ [Text.carriageReturn]), Text.lineFeed ∉ body := by
    intro line member
    obtain ⟨body, listed, rfl⟩ := List.mem_map.mp member
    simpa [Text.lineFeed, Text.carriageReturn] using unbroken body listed
  have trimmed : Text.ofLine ∘ (· ++ [Text.carriageReturn]) = Text.ofLine :=
    funext Text.ofLine_carriageReturn
  rw [Text.withCarriageReturns_flatMap unbroken unfinished,
    ByteSource.texts_eq returned unfinished, ByteSource.texts_eq unbroken unfinished,
    List.map_map, trimmed]

/-- A line feed behind an unfinished last line changes nothing. -/
theorem build_finished (patterns : RecordPatterns) (marker : String) {bytes : List UInt8}
    (inhabited : bytes ≠ []) (unended : bytes.getLast? ≠ some Text.lineFeed) :
    (build patterns marker ⟨bytes ++ [Text.lineFeed], none⟩ : BuildResult α) =
      build patterns marker ⟨bytes, none⟩ := by
  refine build_congr patterns marker ?_ rfl
  obtain ⟨bodies, rest, unbroken, unfinished, rfl⟩ := Text.exists_bodies bytes
  have tail : rest ≠ [] := by
    rintro rfl
    rcases List.eq_nil_or_concat bodies with rfl | ⟨earlier, body, rfl⟩
    · exact inhabited rfl
    · exact unended (by simp)
  have finished : bodies.flatMap (· ++ [Text.lineFeed]) ++ rest ++ [Text.lineFeed] =
      (bodies ++ [rest]).flatMap (· ++ [Text.lineFeed]) ++ [] := by simp
  have unbroken' : ∀ body ∈ bodies ++ [rest], Text.lineFeed ∉ body := by
    intro body member
    rcases List.mem_append.mp member with earlier | last
    · exact unbroken body earlier
    · rwa [List.mem_singleton.mp last]
  rw [finished, ByteSource.texts_eq unbroken' List.not_mem_nil,
    ByteSource.texts_eq unbroken unfinished]
  simp [tail]

/-- Two sources that differ in their line endings only are built alike: the same
records are counted, and the same graph or the same error comes out. -/
theorem build_lineEndings (patterns : RecordPatterns) (marker : String) (bytes : List UInt8) :
    (∀ failure, (build patterns marker ⟨Text.withCarriageReturns bytes, failure⟩ :
      BuildResult α) = build patterns marker ⟨bytes, failure⟩) ∧
    (bytes ≠ [] → bytes.getLast? ≠ some Text.lineFeed →
      (build patterns marker ⟨bytes ++ [Text.lineFeed], none⟩ : BuildResult α) =
        build patterns marker ⟨bytes, none⟩) :=
  ⟨build_withCarriageReturns patterns marker bytes, build_finished patterns marker⟩

/-- A profile with carriage returns at the ends of lines, between them and inside
of a name, and with an unfinished last line. -/
def strayReturns : List UInt8 := Text.encode <| String.toList <|
  "Legend [label=\"Total samples: 10\"]\r\r\n" ++ "\n\r\n" ++
    "\rN1 [label=\"ma\rin\\n4 (40%)\\r\"]\n" ++ "N1 [label=\"ma\rin\\n4 (40%)\\r\"]\r"

theorem strayReturns_build_lineEndings :
    (build .standard "!" ⟨Text.withCarriageReturns strayReturns, none⟩ : BuildResult Binary64) =
      build .standard "!" ⟨strayReturns, none⟩ ∧
    (build .standard "!" ⟨strayReturns ++ [Text.lineFeed], none⟩ : BuildResult Binary64) =
      build .standard "!" ⟨strayReturns, none⟩ ∧
    (build .standard "!" ⟨strayReturns, none⟩ : BuildResult Binary64).stats =
      { lines := 5, nodesSelfOnly := 1, legends := 1, ignored := 3 } := by
  obtain ⟨returned, finished⟩ := build_lineEndings (α := Binary64) .standard "!" strayReturns
  exact ⟨returned none, finished (by decide) (by decide), by decide +kernel⟩

end CallGraph
end ProfileGraph

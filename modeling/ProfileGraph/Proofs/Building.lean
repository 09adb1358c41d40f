import ProfileGraph.Proofs.Cutting
import ProfileGraph.Proofs.Depiction
import ProfileGraph.Proofs.ExactCounts

/-! What is built from a rendered profile. Its lines are read as records, each
by itself; a build succeeds exactly if all of them are records that fit behind
those before them, and then the graph depicts the records. Otherwise the first
line that is no such record ends the build, and its error says which line it is
and what is wrong there. -/
namespace ProfileGraph

/-! Lines and records. -/

/-- Every line is read as a record, under its own number. -/
def Transcribes (patterns : RecordPatterns) (lines : List (List UInt8)) (records : List Record) :
    Prop :=
  lines.mapIdx (fun n bytes => patterns.readLine (n + 1) (Text.trimLineEnd bytes)) =
    records.map .ok

instance (patterns : RecordPatterns) (lines : List (List UInt8)) (records : List Record) :
    Decidable (Transcribes patterns lines records) :=
  inferInstanceAs (Decidable (_ = _))

/-- What is wrong with a line that follows the lines of some records. -/
inductive Offends (patterns : RecordPatterns) (earlier : List Record) (line : Nat)
    (bytes : List UInt8) : PipelineError → Prop
  /-- The line is of a known kind, but one of its numbers is none. -/
  | malformed {kind : RecordKind} {field : RecordField} {value : String} :
      patterns.readLine line (Text.trimLineEnd bytes) =
        .error (.malformedField line kind field value) →
      Offends patterns earlier line bytes (.parse (.malformedField line kind field value))
  | undeclaredSource {call : EdgeRecord} :
      patterns.readLine line (Text.trimLineEnd bytes) = .ok (.edge call) →
      call.source ∉ nodeIds earlier →
      Offends patterns earlier line bytes
        (.graph line (.unknownNode call.source call.target call.source))
  | undeclaredTarget {call : EdgeRecord} :
      patterns.readLine line (Text.trimLineEnd bytes) = .ok (.edge call) →
      call.source ∈ nodeIds earlier → call.target ∉ nodeIds earlier →
      Offends patterns earlier line bytes
        (.graph line (.unknownNode call.source call.target call.target))

/-- The error of the first line that is no record that fits behind those of the
lines before it. -/
def FirstOffence (patterns : RecordPatterns) (lines : List (List UInt8)) (error : PipelineError) :
    Prop :=
  ∃ earlier bytes later records, lines = earlier ++ bytes :: later ∧
    Transcribes patterns earlier records ∧ Fits records ∧
    Offends patterns records (earlier.length + 1) bytes error

/-- An error that names a line and one of its fields. -/
def RecordError.IsAt (line : Nat) (error : RecordError) : Prop :=
  ∃ kind field value, error = .malformedField line kind field value

theorem RecordPatterns.field_refused {β : Type} {read? : List Char → Option β} {line : Nat}
    {kind : RecordKind} {found : Match} {number : Nat} {name : RecordField} {error : RecordError}
    (refused : field read? line kind found number name = .error error) : error.IsAt line := by
  rw [field] at refused
  split at refused
  next => cases refused
  next =>
    cases refused
    exact ⟨_, _, _, rfl⟩

/-- An error of a reader that goes on after a field is at the field or later. -/
theorem RecordPatterns.bind_refused {β γ : Type} {first : Except RecordError β}
    {next : β → Except RecordError γ} {line : Nat} {error : RecordError}
    (refused : first >>= next = .error error)
    (here : ∀ error, first = .error error → error.IsAt line)
    (later : ∀ value error, next value = .error error → error.IsAt line) : error.IsAt line := by
  cases first with
  | error failure =>
    cases refused
    exact here _ rfl
  | ok value => exact later value error refused

/-- A matched line that is refused is refused under its number, for one of its
fields. -/
theorem RecordPatterns.record_refused {line : Nat} {kind : RecordKind} {found : Match}
    {error : RecordError} (refused : record line kind found = .error error) :
    error.IsAt line := by
  cases kind with
  | nodeWithInclusive =>
    refine bind_refused refused (fun _ => field_refused) fun _ _ refused => ?_
    exact bind_refused refused (fun _ => field_refused) fun _ _ refused => by cases refused
  | nodeSelfOnly =>
    exact bind_refused refused (fun _ => field_refused) fun _ _ refused => by cases refused
  | edge => exact bind_refused refused (fun _ => field_refused) fun _ _ refused => by cases refused
  | legend => exact bind_refused refused (fun _ => field_refused) fun _ _ refused => by cases refused
  | ignored => cases refused

theorem RecordPatterns.readLine_refused {patterns : RecordPatterns} {line : Nat}
    {bytes : List UInt8} {error : RecordError}
    (refused : patterns.readLine line bytes = .error error) : error.IsAt line := by
  rw [readLine, readText] at refused
  split at refused
  next => exact record_refused refused
  next => cases refused

section Lines
variable {patterns : RecordPatterns} {lines : List (List UInt8)} {bytes : List UInt8}
  {records : List Record}

theorem transcribes_nil : Transcribes patterns [] records ↔ records = [] := by
  rw [Transcribes, List.mapIdx_nil, eq_comm, List.map_eq_nil_iff]

theorem transcribes_concat : Transcribes patterns (lines ++ [bytes]) records ↔
    ∃ earlier record, records = earlier ++ [record] ∧ Transcribes patterns lines earlier ∧
      patterns.readLine (lines.length + 1) (Text.trimLineEnd bytes) = .ok record := by
  rw [Transcribes, List.mapIdx_concat, eq_comm, List.map_eq_append_iff]
  constructor
  · rintro ⟨earlier, last, rfl, transcribed, read⟩
    obtain ⟨record, rfl, ok⟩ := List.map_eq_singleton_iff.mp read
    exact ⟨earlier, record, rfl, transcribed.symm, ok.symm⟩
  · rintro ⟨earlier, record, rfl, transcribed, read⟩
    exact ⟨earlier, [record], rfl, transcribed.symm, congrArg ([·]) read.symm⟩

/-- A line is read as one record only. -/
theorem Transcribes.unique {others : List Record} (left : Transcribes patterns lines records)
    (right : Transcribes patterns lines others) : records = others :=
  List.map_injective_iff.mpr (fun _ _ => Except.ok.inj) (left.symm.trans right)

theorem FirstOffence.concat {error : PipelineError} (offence : FirstOffence patterns lines error)
    (bytes : List UInt8) : FirstOffence patterns (lines ++ [bytes]) error := by
  obtain ⟨earlier, first, later, records, rfl, offends⟩ := offence
  exact ⟨earlier, first, later ++ [bytes], records, by simp, offends⟩

/-- Lines are a transcript of records that fit, or one of them is the first
that offends. -/
theorem exists_transcript_or_offence (patterns : RecordPatterns) (lines : List (List UInt8)) :
    (∃ records, Transcribes patterns lines records ∧ Fits records) ∨
      ∃ error, FirstOffence patterns lines error := by
  induction lines using List.reverseRecOn with
  | nil => exact .inl ⟨[], transcribes_nil.mpr rfl, fun n record held => by cases held⟩
  | append_singleton lines bytes ih =>
    rcases ih with ⟨records, transcribed, fits⟩ | ⟨error, offence⟩
    · have ends {error : PipelineError}
          (offends : Offends patterns records (lines.length + 1) bytes error) :
          ∃ error, FirstOffence patterns (lines ++ [bytes]) error :=
        ⟨error, lines, bytes, [], records, rfl, transcribed, fits, offends⟩
      cases read : patterns.readLine (lines.length + 1) (Text.trimLineEnd bytes) with
      | error error =>
        obtain ⟨kind, field, value, rfl⟩ := RecordPatterns.readLine_refused read
        exact .inr (ends (.malformed read))
      | ok record =>
        by_cases behind : record.FitsBehind records
        · refine .inl ⟨records ++ [record], ?_, fits_concat.mpr ⟨fits, behind⟩⟩
          exact transcribes_concat.mpr ⟨records, record, rfl, transcribed, read⟩
        · cases record with
          | node declared => exact absurd trivial behind
          | edge call =>
            by_cases source : call.source ∈ nodeIds records
            · have target : call.target ∉ nodeIds records := fun known => behind ⟨source, known⟩
              exact .inr (ends (.undeclaredTarget read source target))
            · exact .inr (ends (.undeclaredSource read source))
          | legend totalSamples => exact absurd trivial behind
          | ignored => exact absurd trivial behind
    · exact .inr ⟨error, offence.concat bytes⟩

end Lines

/-! Entering lines. -/

namespace CallGraph
variable {α : Type} [Quantity α] {patterns : RecordPatterns} {marker : String}
  {lines : List (List UInt8)} {records : List Record}

/-- Lines of records that fit are entered one after the other. -/
theorem enterLines_of_transcribes (marker : String)
    (transcribed : Transcribes patterns lines records) (fits : Fits records) :
    ∃ (graph : CallGraph α) (stats : ParseStats),
      graph.Depicts marker records ∧ stats.lines = lines.length ∧
      ∀ later, enterLines patterns (empty marker) {} (lines ++ later) =
        enterLines patterns graph stats later := by
  induction lines using List.reverseRecOn generalizing records with
  | nil =>
    obtain rfl := transcribes_nil.mp transcribed
    exact ⟨empty marker, {}, depicts_empty marker, rfl, fun later => rfl⟩
  | append_singleton lines bytes ih =>
    obtain ⟨earlier, record, rfl, transcribed, read⟩ := transcribes_concat.mp transcribed
    obtain ⟨fits, behind⟩ := fits_concat.mp fits
    obtain ⟨graph, stats, depicts, counted, entered⟩ := ih transcribed fits
    obtain ⟨next, ran, depicted⟩ := depicts.enter behind
    refine ⟨next, { stats with lines := stats.lines + 1 }.count record.kind, depicted, ?_, ?_⟩
    · rw [List.length_append, ← counted]
      cases record.kind <;> rfl
    · intro later
      rw [List.append_assoc, entered, List.singleton_append, enterLines, counted]
      simp only [read, ran]

/-- A line that offends ends the build. -/
theorem Depicts.enterLines_of_offends {graph : CallGraph α} {stats : ParseStats}
    {bytes : List UInt8} {error : PipelineError} (depicts : graph.Depicts marker records)
    (offends : Offends patterns records (stats.lines + 1) bytes error)
    (later : List (List UInt8)) :
    (enterLines patterns graph stats (bytes :: later)).outcome = .error error := by
  cases offends with
  | malformed read => simp only [enterLines, read]
  | undeclaredSource read undeclared =>
    simp only [enterLines, read, depicts.enter_edge_refused.1 undeclared]
  | undeclaredTarget read known undeclared =>
    simp only [enterLines, read, depicts.enter_edge_refused.2 known undeclared]

theorem enterLines_of_firstOffence {error : PipelineError}
    (offence : FirstOffence patterns lines error) :
    (enterLines patterns (empty marker : CallGraph α) {} lines).outcome = .error error := by
  obtain ⟨earlier, bytes, later, records, rfl, transcribed, fits, offends⟩ := offence
  obtain ⟨graph, stats, depicts, counted, entered⟩ :=
    enterLines_of_transcribes (α := α) marker transcribed fits
  rw [entered]
  exact depicts.enterLines_of_offends (counted ▸ offends) later

/-- Whether entering lines succeeds, which graph it makes and which error it
ends with is determined by the records that the lines are read as. -/
theorem enterLines_spec (patterns : RecordPatterns) (marker : String)
    (lines : List (List UInt8)) :
    let outcome := (enterLines patterns (empty marker : CallGraph α) {} lines).outcome
    ((∃ graph, outcome = .ok graph) ↔
      ∃ records, Transcribes patterns lines records ∧ Fits records) ∧
    (∀ error, outcome = .error error ↔ FirstOffence patterns lines error) ∧
    ∀ graph records, outcome = .ok graph → Transcribes patterns lines records →
      graph.Depicts marker records := by
  intro outcome
  have succeeds : ∀ {records}, Transcribes patterns lines records → Fits records →
      ∃ graph, outcome = .ok graph ∧ graph.Depicts marker records := by
    intro records transcribed fits
    obtain ⟨graph, stats, depicts, _, entered⟩ :=
      enterLines_of_transcribes (α := α) marker transcribed fits
    have whole := entered []
    rw [List.append_nil] at whole
    exact ⟨graph, congrArg BuildResult.outcome whole, depicts⟩
  have fails : ∀ {error}, FirstOffence patterns lines error → outcome = .error error :=
    enterLines_of_firstOffence
  rcases exists_transcript_or_offence patterns lines with
    ⟨records, transcribed, fits⟩ | ⟨error, offence⟩
  · obtain ⟨graph, ended, depicts⟩ := succeeds transcribed fits
    refine ⟨⟨fun _ => ⟨records, transcribed, fits⟩, fun _ => ⟨graph, ended⟩⟩, fun error => ?_, ?_⟩
    · refine ⟨fun failed => ?_, fails⟩
      cases ended.symm.trans failed
    · intro result others same again
      cases ended.symm.trans same
      exact transcribed.unique again ▸ depicts
  · have ended := fails offence
    refine ⟨⟨?_, ?_⟩, fun other => ⟨fun failed => ?_, fails⟩, ?_⟩
    · rintro ⟨graph, succeeded⟩
      cases ended.symm.trans succeeded
    · rintro ⟨records, transcribed, fits⟩
      obtain ⟨graph, succeeded, _⟩ := succeeds transcribed fits
      exact ⟨graph, succeeded⟩
    · cases ended.symm.trans failed
      exact offence
    · intro graph records succeeded
      cases ended.symm.trans succeeded

/-! What is built. -/

theorem build_of_readable {bytes : List UInt8} :
    (build patterns marker ⟨bytes, none⟩ : BuildResult α) =
      enterLines patterns (empty marker) {} (Text.Lines.ofBytes bytes).all := by
  rw [build]
  dsimp only [ByteSource.lines]
  split
  next => contradiction
  next => rfl

/-- A graph that is built, whether reading would go on or not, depicts the
records of the lines that were read. -/
theorem exists_depicted {source : ByteSource} {graph : CallGraph α}
    (built : (build patterns marker source).outcome = .ok graph) :
    ∃ records, Transcribes patterns source.lines records ∧ graph.Depicts marker records := by
  have entered : (enterLines patterns (empty marker) {} source.lines).outcome = .ok graph := by
    rw [build] at built
    split at built
    next => cases built
    next => exact built
  obtain ⟨succeeds, _, shows⟩ := enterLines_spec (α := α) patterns marker source.lines
  obtain ⟨records, transcribed, _⟩ := succeeds.mp ⟨graph, entered⟩
  exact ⟨records, transcribed, shows graph records entered transcribed⟩

/-- All handles that were given out are there. -/
theorem Depicts.handles_eq {graph : CallGraph α} (depicts : graph.Depicts marker records) :
    graph.handles = List.range (nodeIds records).length := by
  rw [handles, depicts.registered.size_eq]
  refine List.filter_eq_self.mpr fun handle inside => ?_
  have first := List.getElem?_eq_getElem (List.mem_range.mp inside)
  exact depicts.contains_of_lookup (depicts.lookup_iff.mpr first)

/-- Edges of doubles weigh what their counts sum up to. -/
theorem Depicts.edgeWeight_iff {graph : CallGraph Binary64} (depicts : graph.Depicts marker records)
    {source target : Nat} {weight : Binary64} : graph.edgeWeight? source target = some weight ↔
      ∃ caller callee, (nodeIds records)[source]? = some caller ∧
        (nodeIds records)[target]? = some callee ∧ callCounts records caller callee ≠ [] ∧
        weight = Quantity.sum ((callCounts records caller callee).map Binary64.ofNat) := by
  rw [depicts.weight_eq, depictedWeight?]
  simp only [Option.bind_eq_some_iff]
  refine exists_congr fun caller => ?_
  rw [← exists_and_left]
  refine exists_congr fun callee => and_congr_right fun _ => and_congr_right fun _ => ?_
  rw [addedUp?]
  split
  next silent => exact iff_of_false (by simp) fun called => called.1 silent
  next called =>
    rw [Option.some.injEq, eq_comm, and_iff_right called]
    exact Eq.congr_right (Binary64.foldl_eq_sum called)

/-- A profile that is read to its end is built into a graph exactly if each of
its lines is a record that fits behind those before it, and into an error
exactly if that is the one of the first line that is not. The graph depicts the
records: it has the declared nodes, numbered by first declarations, and an edge
between two of them exactly if there are calls. The weight of an edge is the
sum of the counts from left to right, and their exact sum up to the bound. -/
theorem build_spec (patterns : RecordPatterns) (marker : String) (bytes : List UInt8) :
    let outcome := (build patterns marker ⟨bytes, none⟩ : BuildResult Binary64).outcome
    ∃ lines, Text.IsLines bytes lines ∧
      ((∃ graph, outcome = .ok graph) ↔
        ∃ records, Transcribes patterns lines records ∧ Fits records) ∧
      (∀ error, outcome = .error error ↔ FirstOffence patterns lines error) ∧
      ∀ graph records, outcome = .ok graph → Transcribes patterns lines records →
        graph.Depicts marker records ∧
        graph.handles = List.range (nodeIds records).length ∧
        (∀ source target weight, graph.edgeWeight? source target = some weight ↔
          ∃ caller callee, (nodeIds records)[source]? = some caller ∧
            (nodeIds records)[target]? = some callee ∧ callCounts records caller callee ≠ [] ∧
            weight = Quantity.sum ((callCounts records caller callee).map Binary64.ofNat)) ∧
        ∀ caller callee, callCounts records caller callee ≠ [] →
          (callCounts records caller callee).sum ≤ Binary64.exactBound →
          (Quantity.sum ((callCounts records caller callee).map Binary64.ofNat)).toRat? =
            some ((callCounts records caller callee).sum : Rat) := by
  intro outcome
  have entered : outcome = (enterLines patterns (empty marker : CallGraph Binary64) {}
      (Text.Lines.ofBytes bytes).all).outcome := congrArg BuildResult.outcome build_of_readable
  refine ⟨(Text.Lines.ofBytes bytes).all, Text.isLines_iff.mpr rfl, ?_⟩
  obtain ⟨succeeds, fails, shows⟩ := enterLines_spec (α := Binary64) patterns marker
    (Text.Lines.ofBytes bytes).all
  rw [← entered] at succeeds fails shows
  refine ⟨succeeds, fails, fun graph records ended transcribed => ?_⟩
  have depicts := shows graph records ended transcribed
  refine ⟨depicts, depicts.handles_eq, fun _ _ _ => depicts.edgeWeight_iff, ?_⟩
  intro caller callee called bounded
  rw [Binary64.sum_map_ofNat called bounded, Binary64.toRat_ofNat bounded]

/-- A profile with two calls of the same function by the same one. -/
def repeatedCalls : List UInt8 := Text.encode <| String.toList <|
  "Legend [label=\"Total samples: 10\"]\n" ++
    "N1 [label=\"main\\n4 (40%)\\r\"]\n" ++ "N2 [label=\"leaf!\\n6 (60%)\\r\"]\n" ++
    "N1 -> N2 [label=2, weight=2]\n" ++ "N1 -> N2 [label=3, weight=3]"

/-- What its lines say. -/
def repeatedRecords : List Record := [
  .legend 10, .node ⟨"N1", "main", some (.ofNat 4), .ofNat 40, false, none, .ofNat 40⟩,
  .node ⟨"N2", "leaf!", some (.ofNat 6), .ofNat 60, false, none, .ofNat 60⟩,
  .edge ⟨"N1", "N2", 2⟩, .edge ⟨"N1", "N2", 3⟩]

theorem repeatedCalls_build_spec : ∃ graph : CallGraph Binary64,
    (build .standard "!" ⟨repeatedCalls, none⟩).outcome = .ok graph ∧
      graph.handles = [0, 1] ∧ graph.edgeWeight? 0 1 = some (.ofNat 5) := by
  obtain ⟨lines, cut, succeeds, _, shows⟩ := build_spec .standard "!" repeatedCalls
  have transcribed : Transcribes .standard lines repeatedRecords := by
    rw [Text.isLines_iff.mp cut]
    decide +kernel
  have fits : Fits repeatedRecords := by decide +kernel
  obtain ⟨graph, ended⟩ := succeeds.mpr ⟨repeatedRecords, transcribed, fits⟩
  obtain ⟨_, numbered, weighs, _⟩ := shows graph repeatedRecords ended transcribed
  refine ⟨graph, ended, numbered.trans (by decide +kernel), (weighs 0 1 _).mpr ⟨"N1", "N2", ?_⟩⟩
  decide +kernel

end CallGraph
end ProfileGraph

import ProfileGraph.Proofs.Histories
import ProfileGraph.Proofs.NumberTexts
import ProfileGraph.Proofs.QuotedStrings
import ProfileGraph.Snapshot.Files

/-! Drawings of snapshots, read with the quoting rule of their language. Ids stand
between quotes as they are, and so do the numbers; in a name each quote has a
backslash put in front of it. The drawing is read as it was meant exactly if the ids
can stand between quotes and no name has a quote behind an odd number of
backslashes. -/
namespace ProfileGraph
open Quoted

/-! Numbers. -/

/-- A text without quotes and backslashes. -/
def IsBare (text : List Char) : Prop := ∀ c ∈ text, c ≠ '"' ∧ c ≠ '\\'

instance : DecidablePred IsBare := List.decidableBAll fun c => c ≠ '"' ∧ c ≠ '\\'

theorem isBare_append {text more : List Char} :
    IsBare (text ++ more) ↔ IsBare text ∧ IsBare more := by
  simp only [IsBare, List.forall_mem_append]

theorem isBare_cons {c : Char} {text : List Char} :
    IsBare (c :: text) ↔ (c ≠ '"' ∧ c ≠ '\\') ∧ IsBare text := by
  simp only [IsBare, List.forall_mem_cons]

theorem IsDigits.isBare {digits : List Char} (inside : IsDigits digits) : IsBare digits := by
  intro c member
  refine ⟨?_, ?_⟩ <;> rintro rfl <;> exact inside.not_mem rfl member

/-- Digits with a point between them. -/
theorem IsDigits.isBare_pointed {digits : List Char} (inside : IsDigits digits) (places : Nat) :
    IsBare (digits.take places ++ '.' :: digits.drop places) := by
  refine isBare_append.mpr ⟨?_, isBare_cons.mpr ⟨by decide, ?_⟩⟩
  · exact IsDigits.isBare fun c member => inside c (List.mem_of_mem_take member)
  · exact IsDigits.isBare fun c member => inside c (List.mem_of_mem_drop member)

namespace Binary64

theorem isBare_signText (negative : Bool) : IsBare (signText negative) := by
  cases negative <;> decide

theorem isBare_wordText (x : Binary64) : IsBare x.wordText := by
  cases x with
  | nan => decide
  | infinity negative => exact isBare_append.mpr ⟨isBare_signText negative, by decide⟩
  | finite negative units magnitude => exact fun c member => by cases member

theorem isBare_positional (decimal : Scientific) : IsBare (positional decimal []) := by
  have digits := isDigits_toDigits decimal.digits
  unfold positional
  dsimp only
  split_ifs
  · rw [List.append_nil]
    exact (digits.append (isDigits_zeros _)).isBare
  · exact digits.isBare_pointed _
  · refine isBare_cons.mpr ⟨by decide, isBare_cons.mpr ⟨by decide, ?_⟩⟩
    exact ((isDigits_zeros _).append digits).isBare

theorem isBare_plainText (x : Binary64) : IsBare x.plainText := by
  cases x with
  | nan => exact isBare_wordText nan
  | infinity negative => exact isBare_wordText (infinity negative)
  | finite negative units magnitude =>
    refine isBare_append.mpr ⟨isBare_signText negative, ?_⟩
    split_ifs
    · decide
    · exact isBare_positional _

theorem isBare_fixedText (places : Nat) (x : Binary64) : IsBare (x.fixedText places) := by
  cases x with
  | nan => exact isBare_wordText nan
  | infinity negative => exact isBare_wordText (infinity negative)
  | finite negative units magnitude =>
    have digits := isDigits_toDigits (roundDiv .toEven (units * Nat.pow 10 places) unitsPerOne)
    rw [fixedText, List.append_assoc]
    exact isBare_append.mpr
      ⟨isBare_signText negative, ((isDigits_zeros _).append digits).isBare_pointed _⟩

end Binary64

/-! Names. -/

theorem escapeLabel_quote (name : List Char) :
    escapeLabel (name ++ ['"']) = escapeLabel name ++ ['\\'] ++ ['"'] := by
  simp [escapeLabel]

theorem escapeLabel_concat (name : List Char) {c : Char} (other : c ≠ '"') :
    escapeLabel (name ++ [c]) = escapeLabel name ++ [c] := by
  simp [escapeLabel, other]

theorem backslashes_escapeLabel (name : List Char) :
    backslashes (escapeLabel name) = backslashes name := by
  induction name using List.reverseRecOn with
  | nil => rfl
  | append_singleton name c ih =>
    by_cases quote : c = '"'
    · rw [quote, escapeLabel_quote, backslashes_concat _ '"', backslashes_concat _ '"']
      rfl
    · rw [escapeLabel_concat name quote, backslashes_concat, backslashes_concat, ih]

/-- The backslash that a quote gets makes it one unit with it, unless there is one
before it already that has no unit yet. -/
theorem quotesBehind_escapeLabel {name : List Char} :
    QuotesBehind 1 (escapeLabel name) ↔ QuotesBehind 0 name := by
  induction name using List.reverseRecOn with
  | nil => exact iff_of_true quotesBehind_nil quotesBehind_nil
  | append_singleton name c ih =>
    by_cases quote : c = '"'
    · -- the new backslash stands behind those of the name, and turns their parity
      have parity : (backslashes name + 1) % 2 = 1 ↔ backslashes name % 2 = 0 := by omega
      rw [quote, escapeLabel_quote, quotesBehind_concat, quotesBehind_concat,
        quotesBehind_concat, ih, backslashes_concat, backslashes_escapeLabel]
      simp [parity]
    · rw [escapeLabel_concat name quote, quotesBehind_concat, quotesBehind_concat, ih]
      simp [quote]

theorem IsBare.not_mem {text : List Char} (bare : IsBare text) : '"' ∉ text :=
  fun member => (bare _ member).1 rfl

theorem IsBare.closed {text : List Char} (bare : IsBare text) : Closed text := by
  have guarded : QuotesBehind 1 ([] ++ text) :=
    (quotesBehind_append bare.not_mem).mpr quotesBehind_nil
  have plain : '\\' ∉ text := fun member => (bare _ member).2 rfl
  exact ⟨guarded, by rw [backslashes_of_not_mem plain]⟩

/-! Statements. -/

namespace NodeSnapshot

/-- The label of a node. -/
def label (node : NodeSnapshot) : List Char :=
  escapeLabel node.name.toList ++ "\\n".toList ++ percentText node.selfCoverage ++ " / ".toList
    ++ percentText node.coverage

/-- The statement of a node as it is meant: one id and one label. -/
def fragments (node : NodeSnapshot) : List Fragment :=
  [.symbols "  ".toList, .string node.id.toList, .symbols " [label=".toList, .string node.label,
    .symbols ((if node.isInterestPoint then ", style=filled, fillcolor=lightblue".toList else [])
      ++ "];\n".toList)]

/-- The id and the name of a node can be drawn. -/
structure Drawable (node : NodeSnapshot) : Prop where
  id : Closed node.id.toList
  name : QuotesBehind 0 node.name.toList

theorem dotStatement_eq (node : NodeSnapshot) :
    node.dotStatement = node.fragments.flatMap (·.text) := by
  have start : "  \"".toList = "  ".toList ++ ['"'] := rfl
  have middle : "\" [label=\"".toList = '"' :: " [label=".toList ++ ['"'] := rfl
  unfold dotStatement
  rw [start, middle]
  simp only [fragments, label, List.flatMap_cons, List.flatMap_nil, Fragment.text_symbols,
    Fragment.text_string, List.append_assoc, List.cons_append, List.nil_append, List.append_nil]

/-- The coverages of a node keep its name apart from the end of its label. -/
theorem closed_label {node : NodeSnapshot} :
    Closed node.label ↔ QuotesBehind 0 node.name.toList := by
  have coverages : '"' ∉ "\\n".toList ++ percentText node.selfCoverage ++ " / ".toList
      ++ percentText node.coverage := by
    have before := (Binary64.isBare_fixedText 1 node.selfCoverage).not_mem
    have behind := (Binary64.isBare_fixedText 1 node.coverage).not_mem
    simp [percentText, before, behind]
  have split : node.label = escapeLabel node.name.toList ++ ("\\n".toList
      ++ percentText node.selfCoverage ++ " / ".toList ++ percentText node.coverage) := by
    simp [label]
  have guarded : QuotesBehind 1 node.label ↔ QuotesBehind 0 node.name.toList := by
    rw [split, quotesBehind_append coverages, quotesBehind_escapeLabel]
  have ends : backslashes node.label = 0 := by
    rw [label, percentText, percentText, ← List.append_assoc, backslashes_concat]
    rfl
  exact ⟨fun closed => guarded.mp closed.guarded, fun name => ⟨guarded.mpr name, by rw [ends]⟩⟩

theorem unquoted_symbols {node : NodeSnapshot} {text : List Char}
    (member : .symbols text ∈ node.fragments) : '"' ∉ text := by
  simp only [fragments, List.mem_cons, List.not_mem_nil, or_false, Fragment.symbols.injEq,
    reduceCtorEq, false_or] at member
  rcases member with rfl | rfl | rfl
  · decide
  · decide
  · cases node.isInterestPoint <;> decide

theorem closed_strings {node : NodeSnapshot} :
    (∀ body, .string body ∈ node.fragments → Closed body) ↔ node.Drawable := by
  have strings (body : List Char) :
      .string body ∈ node.fragments ↔ body = node.id.toList ∨ body = node.label := by
    simp only [fragments, List.mem_cons, List.not_mem_nil, or_false, Fragment.string.injEq,
      reduceCtorEq, false_or]
  simp only [strings, forall_eq_or_imp, forall_eq, closed_label]
  exact ⟨fun both => ⟨both.1, both.2⟩, fun drawable => ⟨drawable.id, drawable.name⟩⟩

theorem dotStatement_read {node : NodeSnapshot} :
    read? node.dotStatement = some (node.fragments.flatMap (·.tokens)) ↔ node.Drawable := by
  rw [dotStatement_eq, read_fragments fun text => unquoted_symbols, closed_strings]

end NodeSnapshot

namespace EdgeSnapshot

/-- The statement of an edge as it is meant: two ids and one label. -/
def fragments (edge : EdgeSnapshot) : List Fragment :=
  [.symbols "  ".toList, .string edge.source.toList, .symbols " -> ".toList,
    .string edge.target.toList, .symbols " [label=".toList, .string edge.weight.plainText,
    .symbols "];\n".toList]

/-- The ids of an edge can be drawn. -/
structure Drawable (edge : EdgeSnapshot) : Prop where
  source : Closed edge.source.toList
  target : Closed edge.target.toList

theorem dotStatement_eq (edge : EdgeSnapshot) :
    edge.dotStatement = edge.fragments.flatMap (·.text) := by
  have start : "  \"".toList = "  ".toList ++ ['"'] := rfl
  have arrow : "\" -> \"".toList = '"' :: " -> ".toList ++ ['"'] := rfl
  have middle : "\" [label=\"".toList = '"' :: " [label=".toList ++ ['"'] := rfl
  have ending : "\"];\n".toList = '"' :: "];\n".toList := rfl
  unfold dotStatement
  rw [start, arrow, middle, ending]
  simp only [fragments, List.flatMap_cons, List.flatMap_nil, Fragment.text_symbols,
    Fragment.text_string, List.append_assoc, List.cons_append, List.nil_append, List.append_nil]

theorem unquoted_symbols {edge : EdgeSnapshot} {text : List Char}
    (member : .symbols text ∈ edge.fragments) : '"' ∉ text := by
  simp only [fragments, List.mem_cons, List.not_mem_nil, or_false, Fragment.symbols.injEq,
    reduceCtorEq, false_or] at member
  rcases member with rfl | rfl | rfl | rfl <;> decide

theorem closed_strings {edge : EdgeSnapshot} :
    (∀ body, .string body ∈ edge.fragments → Closed body) ↔ edge.Drawable := by
  have strings (body : List Char) : .string body ∈ edge.fragments ↔
      body = edge.source.toList ∨ body = edge.target.toList ∨ body = edge.weight.plainText := by
    simp [fragments]
  have weight := (Binary64.isBare_plainText edge.weight).closed
  simp only [strings, forall_eq_or_imp, forall_eq, weight, and_true]
  exact ⟨fun both => ⟨both.1, both.2⟩, fun drawable => ⟨drawable.source, drawable.target⟩⟩

theorem dotStatement_read {edge : EdgeSnapshot} :
    read? edge.dotStatement = some (edge.fragments.flatMap (·.tokens)) ↔ edge.Drawable := by
  rw [dotStatement_eq, read_fragments fun text => unquoted_symbols, closed_strings]

end EdgeSnapshot

namespace Snapshot

/-- What stands in front of the statements. -/
def heading (snapshot : Snapshot) : List Fragment :=
  [.symbols "digraph callgraph \x7b\n  graph [label=".toList,
    .string ("total samples: ".toList ++ Nat.toDigits 10 snapshot.totalSamples),
    .symbols "];\n  node [shape=box];\n".toList]

/-- The drawing of a snapshot as it is meant. -/
def fragments (snapshot : Snapshot) : List Fragment :=
  snapshot.heading ++ snapshot.nodes.flatMap (·.fragments)
    ++ snapshot.edges.flatMap (·.fragments) ++ [.symbols "\x7d\n".toList]

/-- All ids and names can be drawn. -/
structure Drawable (snapshot : Snapshot) : Prop where
  nodes : ∀ node ∈ snapshot.nodes, node.Drawable
  edges : ∀ edge ∈ snapshot.edges, edge.Drawable

theorem dotText_eq (snapshot : Snapshot) :
    snapshot.dotText = snapshot.fragments.flatMap (·.text) := by
  have start : "digraph callgraph \x7b\n  graph [label=\"total samples: ".toList
      = "digraph callgraph \x7b\n  graph [label=".toList ++ '"' :: "total samples: ".toList := rfl
  have middle : "\"];\n  node [shape=box];\n".toList
      = '"' :: "];\n  node [shape=box];\n".toList := rfl
  unfold dotText
  rw [start, middle]
  simp only [fragments, heading, List.flatMap_append, List.flatMap_cons, List.flatMap_nil,
    List.flatMap_assoc, ← NodeSnapshot.dotStatement_eq, ← EdgeSnapshot.dotStatement_eq,
    Fragment.text_symbols, Fragment.text_string, List.append_assoc, List.cons_append,
    List.nil_append, List.append_nil]

theorem unquoted_symbols {snapshot : Snapshot} {text : List Char}
    (member : .symbols text ∈ snapshot.fragments) : '"' ∉ text := by
  simp only [fragments, heading, List.mem_append, List.mem_flatMap, List.mem_cons,
    List.not_mem_nil, or_false, Fragment.symbols.injEq, reduceCtorEq, false_or] at member
  rcases member with (((rfl | rfl) | ⟨node, _, inside⟩) | ⟨edge, _, inside⟩) | rfl
  · decide
  · decide
  · exact NodeSnapshot.unquoted_symbols inside
  · exact EdgeSnapshot.unquoted_symbols inside
  · decide

theorem closed_strings {snapshot : Snapshot} :
    (∀ body, .string body ∈ snapshot.fragments → Closed body) ↔ snapshot.Drawable := by
  have total : Closed ("total samples: ".toList ++ Nat.toDigits 10 snapshot.totalSamples) :=
    (isBare_append.mpr ⟨by decide, (isDigits_toDigits _).isBare⟩).closed
  have strings (body : List Char) : .string body ∈ snapshot.fragments ↔
      body = "total samples: ".toList ++ Nat.toDigits 10 snapshot.totalSamples ∨
      (∃ node ∈ snapshot.nodes, .string body ∈ node.fragments) ∨
      ∃ edge ∈ snapshot.edges, .string body ∈ edge.fragments := by
    simp [fragments, heading]
  constructor
  · intro closed
    refine ⟨fun node member => ?_, fun edge member => ?_⟩
    · exact NodeSnapshot.closed_strings.mp fun body inside =>
        closed body ((strings body).mpr (.inr (.inl ⟨node, member, inside⟩)))
    · exact EdgeSnapshot.closed_strings.mp fun body inside =>
        closed body ((strings body).mpr (.inr (.inr ⟨edge, member, inside⟩)))
  · intro drawable body member
    rcases (strings body).mp member with rfl | ⟨node, held, inside⟩ | ⟨edge, held, inside⟩
    · exact total
    · exact NodeSnapshot.closed_strings.mpr (drawable.nodes node held) body inside
    · exact EdgeSnapshot.closed_strings.mpr (drawable.edges edge held) body inside

/-- The drawing of a snapshot is read as it is meant exactly if each of its ids can
stand between quotes as it is and no name has a quote behind an odd number of
backslashes; and so is each of its statements. -/
theorem dotText_read (snapshot : Snapshot) :
    (Quoted.read? snapshot.dotText = some (snapshot.fragments.flatMap (·.tokens)) ↔
      snapshot.Drawable) ∧
    (∀ node ∈ snapshot.nodes, Quoted.read? node.dotStatement =
      some (node.fragments.flatMap (·.tokens)) ↔ node.Drawable) ∧
    ∀ edge ∈ snapshot.edges, Quoted.read? edge.dotStatement =
      some (edge.fragments.flatMap (·.tokens)) ↔ edge.Drawable := by
  refine ⟨?_, fun node _ => NodeSnapshot.dotStatement_read,
    fun edge _ => EdgeSnapshot.dotStatement_read⟩
  rw [dotText_eq, read_fragments fun text => unquoted_symbols, closed_strings]

/-- A graph with a name whose quotes have backslashes already, and with a quote in an
id. -/
def quoted : Snapshot :=
  ofGraph ((CallGraph.empty "!").performAll [
    .declare "N1" "say \\\"hi\\\"" (.ofNat 0) (.ofNat 0),
    .declare "N\"2" "b" (.ofNat 0) (.ofNat 0)])

theorem quoted_dotText_misread :
    quoted.nodes.map (fun node => Quoted.read? node.dotStatement) = [
      some ([.symbols "  ".toList, .string "N1".toList, .symbols " [label=".toList,
        .string "say \\\\".toList, .symbols "hi\\\\".toList,
        .string "\\n0.0% / 0.0%".toList, .symbols "];\n".toList].flatMap Fragment.tokens),
      none] ∧
    Quoted.read? quoted.dotText ≠ some (quoted.fragments.flatMap (·.tokens)) := by
  decide +kernel

end Snapshot
end ProfileGraph

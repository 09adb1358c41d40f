import Mathlib.Data.List.Induction

/-! Quoted strings in a text. Inside of quotes a backslash makes one unit with a
quote or a backslash behind it, and any other quote ends the string. A string that
is put between quotes ends at the second one exactly if each of its own quotes
stands behind an odd number of backslashes and its end behind an even one. -/
namespace ProfileGraph.Quoted

/-! Reading. -/

/-- A place inside of a string. -/
inductive Place where
  | plain
  /-- Behind a backslash that does not belong to the unit before it. -/
  | escaped
deriving DecidableEq, Repr

/-- The place behind a character of a string, unless that ends the string. -/
def Place.next? : Place → Char → Option Place
  | .escaped, _ => some .plain
  | .plain, c => if c = '"' then none else if c = '\\' then some .escaped else some .plain

/-- A character outside of all strings, or a string without its quotes. -/
inductive Token where
  | symbol (c : Char)
  | string (body : List Char)
deriving DecidableEq, Repr

/-- Adds a character in front of a string. -/
def consToString (c : Char) : List Token → List Token
  | .string body :: later => .string (c :: body) :: later
  | tokens => tokens

/-- Reads a text from outside of all strings, or from a place inside of one, which
must end. -/
def readFrom : Option Place → List Char → Option (List Token)
  | none, [] => some []
  | some _, [] => none
  | none, c :: rest =>
    if c = '"' then readFrom (some .plain) rest
    else (readFrom none rest).map (.symbol c :: ·)
  | some place, c :: rest =>
    match place.next? c with
    | none => (readFrom none rest).map (.string [] :: ·)
    | some next => (readFrom (some next) rest).map (consToString c)

/-- Reads a text. -/
def read? (text : List Char) : Option (List Token) := readFrom none text

theorem consToString_eq {c : Char} {tokens later : List Token} {body : List Char} :
    consToString c tokens = .string (c :: body) :: later ↔ tokens = .string body :: later := by
  match tokens with
  | [] => simp [consToString]
  | .symbol d :: rest => simp [consToString]
  | .string other :: rest => simp [consToString]

theorem consToString_ne_nil {c : Char} {tokens later : List Token} :
    consToString c tokens ≠ .string [] :: later := by
  match tokens with
  | [] => simp [consToString]
  | .symbol d :: rest => simp [consToString]
  | .string other :: rest => simp [consToString]

/-- A string between quotes is read as it was put there exactly if all its
characters stay inside and none of them reaches over its end. -/
theorem readFrom_string {place : Place} {body rest : List Char} {tokens : List Token} :
    readFrom (some place) (body ++ '"' :: rest) = some (.string body :: tokens) ↔
      body.foldlM Place.next? place = some .plain ∧ readFrom none rest = some tokens := by
  induction body generalizing place with
  | nil =>
    cases place with
    | plain => simp [readFrom, Place.next?]
    | escaped => simp [readFrom, Place.next?, consToString_ne_nil]
  | cons c body ih =>
    rw [List.cons_append, readFrom, List.foldlM_cons]
    cases place.next? c with
    | none => simp
    | some next => simp [consToString_eq, ih]

theorem readFrom_symbols {text : List Char} (unquoted : '"' ∉ text) (rest : List Char) :
    readFrom none (text ++ rest) = (readFrom none rest).map (text.map .symbol ++ ·) := by
  induction text with
  | nil => simp
  | cons c text ih =>
    obtain ⟨other, unquoted⟩ := List.ne_and_not_mem_of_not_mem_cons unquoted
    rw [List.cons_append, readFrom, if_neg other.symm, ih unquoted]
    simp [Function.comp_def]

/-! Writing. -/

/-- A part of a text: symbols as they stand, or a string to be put between quotes. -/
inductive Fragment where
  | symbols (text : List Char)
  | string (body : List Char)
deriving DecidableEq, Repr

namespace Fragment

def text : Fragment → List Char
  | symbols text => text
  | string body => '"' :: (body ++ ['"'])

def tokens : Fragment → List Token
  | symbols text => text.map .symbol
  | string body => [.string body]

@[simp] theorem text_symbols (text : List Char) : (symbols text).text = text := rfl

@[simp] theorem text_string (body : List Char) : (string body).text = '"' :: (body ++ ['"']) := rfl

@[simp] theorem tokens_symbols (text : List Char) :
    (symbols text).tokens = text.map .symbol := rfl

@[simp] theorem tokens_string (body : List Char) : (string body).tokens = [.string body] := rfl

end Fragment

/-! Backslashes and quotes. -/

/-- The number of backslashes at the end of a text. -/
def backslashes (text : List Char) : Nat := (text.reverse.takeWhile (· = '\\')).length

theorem backslashes_concat (text : List Char) (c : Char) :
    backslashes (text ++ [c]) = if c = '\\' then backslashes text + 1 else 0 := by
  rw [backslashes, backslashes, List.reverse_concat, List.takeWhile_cons]
  by_cases same : c = '\\' <;> simp [same]

theorem backslashes_of_not_mem {text : List Char} (plain : '\\' ∉ text) :
    backslashes text = 0 := by
  rcases List.eq_nil_or_concat text with rfl | ⟨front, last, rfl⟩
  · rfl
  · have other : last ≠ '\\' := fun same => plain (by simp [same])
    rw [List.concat_eq_append, backslashes_concat, if_neg other]

/-- Each quote of a text stands behind a number of backslashes of the same parity. -/
def QuotesBehind (parity : Nat) (text : List Char) : Prop :=
  ∀ front back, text = front ++ '"' :: back → backslashes front % 2 = parity

section QuotesBehind
variable {parity : Nat} {text more : List Char} {c : Char}

theorem quotesBehind_nil : QuotesBehind parity [] := by
  intro front back same
  simp at same

theorem quotesBehind_concat :
    QuotesBehind parity (text ++ [c]) ↔
      QuotesBehind parity text ∧ (c = '"' → backslashes text % 2 = parity) := by
  constructor
  · intro behind
    refine ⟨fun front back same => behind front (back ++ [c]) (by simp [same]), ?_⟩
    rintro rfl
    exact behind text [] rfl
  · rintro ⟨behind, last⟩ front back same
    rcases List.eq_nil_or_concat back with rfl | ⟨back, d, rfl⟩
    · obtain ⟨rfl, single⟩ := List.append_inj' same rfl
      exact last (List.singleton_inj.mp single)
    · have joined : front ++ '"' :: (back ++ [d]) = (front ++ '"' :: back) ++ [d] := by simp
      rw [List.concat_eq_append, joined] at same
      exact behind front back (List.append_inj' same rfl).1

theorem quotesBehind_append (unquoted : '"' ∉ more) :
    QuotesBehind parity (text ++ more) ↔ QuotesBehind parity text := by
  induction more using List.reverseRecOn with
  | nil => rw [List.append_nil]
  | append_singleton more c ih =>
    obtain ⟨front, last⟩ := not_or.mp (mt List.mem_append.mpr unquoted)
    have other : c ≠ '"' := fun same => last (List.mem_singleton.mpr same.symm)
    rw [← List.append_assoc, quotesBehind_concat, ih front]
    simp [other]

end QuotesBehind

/-- A text that a string can end behind. -/
structure Closed (body : List Char) : Prop where
  guarded : QuotesBehind 1 body
  ends : backslashes body % 2 = 0

/-- The place behind a text is told by the backslashes at its end. -/
theorem foldlM_next {text : List Char} {place : Place} :
    text.foldlM Place.next? .plain = some place ↔
      QuotesBehind 1 text ∧ place = if backslashes text % 2 = 1 then .escaped else .plain := by
  induction text using List.reverseRecOn generalizing place with
  | nil => simp [quotesBehind_nil, backslashes, eq_comm]
  | append_singleton text c ih =>
    simp only [List.foldlM_append, List.foldlM_cons, List.foldlM_nil, quotesBehind_concat,
      backslashes_concat, Option.bind_eq_bind, Option.bind_eq_some_iff, ih, and_assoc,
      exists_eq_left, exists_and_left]
    refine and_congr_right fun _ => ?_
    by_cases odd : backslashes text % 2 = 1
    · -- the next character belongs to the unit of the last backslash
      have even : ¬ (backslashes text + 1) % 2 = 1 := by omega
      by_cases slash : c = '\\' <;> simp [odd, even, slash, Place.next?, eq_comm]
    · have odd' : (backslashes text + 1) % 2 = 1 := by omega
      by_cases quote : c = '"'
      · simp [odd, quote, Place.next?]
      · by_cases slash : c = '\\' <;> simp [odd, odd', quote, slash, Place.next?, eq_comm]

theorem closed_iff {body : List Char} :
    body.foldlM Place.next? .plain = some .plain ↔ Closed body := by
  rw [foldlM_next]
  by_cases odd : backslashes body % 2 = 1
  · simp only [if_pos odd, reduceCtorEq, and_false, false_iff]
    exact fun closed => by simp [closed.ends] at odd
  · simp only [if_neg odd, and_true]
    exact ⟨fun guarded => ⟨guarded, by omega⟩, fun closed => closed.guarded⟩

instance : DecidablePred Closed := fun _ => decidable_of_iff _ closed_iff

example : Closed "a\\\"b".toList ∧ ¬ Closed "a\"b".toList ∧ ¬ Closed "b\\".toList := by decide

/-- A text is read as the fragments of which it is made exactly if its strings can
end where they do. -/
theorem read_fragments {fragments : List Fragment}
    (unquoted : ∀ text, .symbols text ∈ fragments → '"' ∉ text) :
    read? (fragments.flatMap (·.text)) = some (fragments.flatMap (·.tokens)) ↔
      ∀ body, .string body ∈ fragments → Closed body := by
  rw [read?]
  induction fragments with
  | nil => simp [readFrom]
  | cons fragment later ih =>
    have rest := ih fun text member => unquoted text (List.mem_cons_of_mem _ member)
    rw [List.flatMap_cons, List.flatMap_cons]
    cases fragment with
    | symbols text =>
      have read := readFrom_symbols (unquoted text List.mem_cons_self) (later.flatMap (·.text))
      simp [read, rest]
    | string body =>
      have read : readFrom (some .plain) (body ++ '"' :: later.flatMap (·.text)) =
          some (.string body :: later.flatMap (·.tokens)) ↔
          Closed body ∧ ∀ body, .string body ∈ later → Closed body := by
        rw [readFrom_string, closed_iff, rest]
      simp [readFrom, read]

example : read? "x=\"a\\\"b\";".toList
    = some [.symbol 'x', .symbol '=', .string "a\\\"b".toList, .symbol ';'] := by decide

end ProfileGraph.Quoted

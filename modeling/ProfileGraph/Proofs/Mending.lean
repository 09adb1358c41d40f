import Mathlib.Tactic.SplitIfs
import ProfileGraph.Proofs.Decoding
import ProfileGraph.Proofs.LineTexts

/-! Mended bytes: any bytes, decoded as a whole and encoded again. The decoder is
looked at byte by byte. A byte below 128 ends whatever was begun and stands for
itself, so nothing that is invalid reaches over it, and no other byte ever becomes
a character below 128. Lines and line ends are therefore where they were, and each
line decodes as it does inside of the whole. -/
namespace ProfileGraph.Text

/-! One byte. -/

/-- What a byte at the start of a character gives at once, and what it begins. -/
def start (byte : UInt8) : List Char × Option Begun :=
  match opening byte with
  | .finished c => ([c], none)
  | .begun pending => ([], some pending)

/-- What a byte gives at once, and what it begins or carries on. -/
def meet : Option Begun → UInt8 → List Char × Option Begun
  | none, byte => start byte
  | some pending, byte =>
    if pending.low ≤ byte ∧ byte ≤ pending.high then
      let bits := pending.bits * 64 + (byte.toNat - 0x80)
      match pending.further with
      | 0 => ([Char.ofNat bits], none)
      | further + 1 => ([], some { bits, further })
    else (replacement :: (start byte).1, (start byte).2)

theorem decodeAfter_cons (state : Option Begun) (byte : UInt8) (rest : List UInt8) :
    decodeAfter state (byte :: rest) =
      (meet state byte).1 ++ decodeAfter (meet state byte).2 rest := by
  cases state with
  | none =>
    rw [decodeAfter, meet, start]
    cases opening byte <;> rfl
  | some pending =>
    rw [decodeAfter, meet, start]
    by_cases inside : pending.low ≤ byte ∧ byte ≤ pending.high
    · simp only [if_pos inside]
      cases pending.further <;> rfl
    · simp only [if_neg inside]
      cases opening byte <;> rfl

/-! What is begun. -/

theorem toNat_ofNat_of_valid {n : Nat} (valid : n.isValidChar) : (Char.ofNat n).toNat = n := by
  rw [Char.ofNat, dif_pos valid]
  rfl

/-- The least number that can come of what has begun. -/
def Begun.least (pending : Begun) : Nat :=
  (pending.bits * 64 + (pending.low.toNat - 0x80)) * Nat.pow 64 pending.further

/-- The first number beyond those that can come of what has begun. -/
def Begun.bound (pending : Begun) : Nat :=
  (pending.bits * 64 + (pending.high.toNat - 0x80) + 1) * Nat.pow 64 pending.further

/-- Only bytes from 128 on carry on what has begun, and all that can come of it are
characters from 128 on. -/
structure Begun.Sound (pending : Begun) : Prop where
  high_bytes : 0x80 ≤ pending.low.toNat
  high_chars : 0x80 ≤ pending.least
  valid : pending.bound ≤ 0xD800 ∨ 0xDFFF < pending.least ∧ pending.bound ≤ 0x110000

/-- Nothing has begun, or something sound. -/
def SoundState (state : Option Begun) : Prop := ∀ pending ∈ state, pending.Sound

theorem sound_of_opening {byte : UInt8} {pending : Begun}
    (opened : opening byte = .begun pending) : pending.Sound := by
  have small := byte.toNat_lt
  unfold opening at opened
  generalize byte.toNat = b at opened small
  dsimp only at opened
  -- one case for each row of the table of first bytes
  split_ifs at opened <;> injection opened <;> subst pending <;> constructor <;>
    simp only [Begun.least, Begun.bound, UInt8.reduceToNat, Nat.pow_eq, Nat.reducePow] <;> omega

section Continued
variable {pending : Begun} {byte : UInt8} (sound : pending.Sound)
  (inside : pending.low ≤ byte ∧ byte ≤ pending.high)
include sound inside

/-- A byte more leaves less that can come of what has begun. -/
theorem Begun.Sound.further {further : Nat} (more : pending.further = further + 1) :
    Begun.Sound { bits := pending.bits * 64 + (byte.toNat - 0x80), further } := by
  obtain ⟨bits, _, low, high⟩ := pending
  dsimp only at more inside ⊢
  subst more
  obtain ⟨high_bytes, high_chars, valid⟩ := sound
  simp only [UInt8.le_iff_toNat_le] at inside
  simp only [least, bound, Nat.pow_eq, Nat.pow_succ'] at high_chars valid
  have least : (bits * 64 + (low.toNat - 0x80)) * (64 * 64 ^ further) ≤
      (bits * 64 + (byte.toNat - 0x80)) * 64 * 64 ^ further := by
    rw [← Nat.mul_assoc]
    exact Nat.mul_le_mul_right _ (by omega)
  have bound : ((bits * 64 + (byte.toNat - 0x80)) * 64 + 64) * 64 ^ further ≤
      (bits * 64 + (high.toNat - 0x80) + 1) * (64 * 64 ^ further) := by
    rw [← Nat.mul_assoc]
    exact Nat.mul_le_mul_right _ (by omega)
  constructor <;>
    simp only [Begun.least, Begun.bound, UInt8.reduceToNat, Nat.pow_eq, Nat.reduceSub,
      Nat.add_zero, Nat.add_assoc, Nat.reduceAdd] at least bound high_chars valid ⊢ <;> omega

/-- The last byte finishes a character from 128 on. -/
theorem Begun.Sound.char (last : pending.further = 0) :
    0x80 ≤ (Char.ofNat (pending.bits * 64 + (byte.toNat - 0x80))).toNat := by
  obtain ⟨bits, _, low, high⟩ := pending
  dsimp only at last inside ⊢
  subst last
  obtain ⟨high_bytes, high_chars, valid⟩ := sound
  simp only [UInt8.le_iff_toNat_le] at inside
  simp only [least, bound, Nat.pow_eq, Nat.pow_zero, Nat.mul_one] at high_chars valid
  have char : (bits * 64 + (byte.toNat - 0x80)).isValidChar := by
    change _ < 0xD800 ∨ 0xDFFF < _ ∧ _ < 0x110000
    omega
  rw [toNat_ofNat_of_valid char]
  omega

end Continued

/-! A byte below 128 or from there on. -/

section Bytes
variable {state : Option Begun} {byte : UInt8}

theorem meet_ascii (sound : SoundState state) (ascii : byte.toNat < 0x80) :
    meet state byte = (decodeAfter state [] ++ [Char.ofNat byte.toNat], none) := by
  have opened : start byte = ([Char.ofNat byte.toNat], none) := by
    rw [start, opening, if_pos ascii]
  cases state with
  | none => exact opened
  | some pending =>
    have outside : ¬ (pending.low ≤ byte ∧ byte ≤ pending.high) := by
      rintro ⟨low, _⟩
      have high_bytes := (sound pending rfl).high_bytes
      rw [UInt8.le_iff_toNat_le] at low
      omega
    rw [meet, if_neg outside, opened]
    rfl

theorem start_high (high : 0x80 ≤ byte.toNat) :
    (∀ c ∈ (start byte).1, 0x80 ≤ c.toNat) ∧ SoundState (start byte).2 := by
  rw [start]
  cases opened : opening byte with
  | begun pending =>
    refine ⟨by simp, fun other same => ?_⟩
    cases same
    exact sound_of_opening opened
  | finished c =>
    refine ⟨?_, by simp [SoundState]⟩
    have replaced : c = replacement := by
      unfold opening at opened
      dsimp only at opened
      rw [if_neg (Nat.not_lt.mpr high)] at opened
      split_ifs at opened
      injection opened with same
      exact same.symm
    simp [replaced, replacement]

theorem meet_high (sound : SoundState state) (high : 0x80 ≤ byte.toNat) :
    (∀ c ∈ (meet state byte).1, 0x80 ≤ c.toNat) ∧ SoundState (meet state byte).2 := by
  obtain ⟨chars, next⟩ := start_high high
  cases state with
  | none => exact ⟨chars, next⟩
  | some pending =>
    have begun := sound pending rfl
    by_cases inside : pending.low ≤ byte ∧ byte ≤ pending.high
    · simp only [meet, if_pos inside]
      cases more : pending.further with
      | zero => exact ⟨by simpa using begun.char inside more, by simp [SoundState]⟩
      | succ further => exact ⟨by simp, by simpa [SoundState] using begun.further inside more⟩
    · simp only [meet, if_neg inside]
      exact ⟨List.forall_mem_cons.mpr ⟨by decide, chars⟩, next⟩

/-- A byte that gives nothing at once begins something or carries it on. -/
theorem meet_silent (silent : (meet state byte).1 = []) : (meet state byte).2 ≠ none := by
  have started : (start byte).1 = [] → (start byte).2 ≠ none := by
    rw [start]
    cases opening byte <;> simp
  cases state with
  | none => exact started silent
  | some pending =>
    by_cases inside : pending.low ≤ byte ∧ byte ≤ pending.high
    · simp only [meet, if_pos inside] at silent ⊢
      cases more : pending.further <;> simp_all
    · simp [meet, if_neg inside] at silent

end Bytes

/-! Many bytes. -/

theorem soundState_none : SoundState none := by simp [SoundState]

theorem meet_sound {state : Option Begun} (sound : SoundState state) (byte : UInt8) :
    SoundState (meet state byte).2 := by
  by_cases ascii : byte.toNat < 0x80
  · rw [meet_ascii sound ascii]
    exact soundState_none
  · exact (meet_high sound (Nat.not_lt.mp ascii)).2

section Runs
variable {state : Option Begun} (sound : SoundState state)
include sound

/-- Bytes are read with what the bytes before them have begun. -/
theorem exists_state (front : List UInt8) : ∃ text next, SoundState next ∧
    ∀ back, decodeAfter state (front ++ back) = text ++ decodeAfter next back := by
  induction front generalizing state with
  | nil => exact ⟨[], state, sound, fun back => rfl⟩
  | cons byte front ih =>
    obtain ⟨text, next, keeps, reads⟩ := ih (meet_sound sound byte)
    refine ⟨(meet state byte).1 ++ text, next, keeps, fun back => ?_⟩
    rw [List.cons_append, decodeAfter_cons, reads, List.append_assoc]

/-- A character below 128 stands for a byte of the same number. -/
theorem ascii_mem_of_decodeAfter {bytes : List UInt8} {c : Char}
    (member : c ∈ decodeAfter state bytes) (ascii : c.toNat < 0x80) :
    UInt8.ofNat c.toNat ∈ bytes := by
  have replaced {state : Option Begun} : c ∉ decodeAfter state [] := by
    cases state with
    | none => exact List.not_mem_nil
    | some pending =>
      rw [decodeAfter, List.mem_singleton]
      rintro rfl
      simp [replacement] at ascii
  induction bytes generalizing state with
  | nil => exact absurd member replaced
  | cons byte rest ih =>
    rw [decodeAfter_cons] at member
    rcases List.mem_append.mp member with here | later
    · by_cases low : byte.toNat < 0x80
      · rw [meet_ascii sound low, List.mem_append, or_iff_right replaced,
          List.mem_singleton] at here
        rw [here, toNat_ofNat_of_valid (.inl (by omega)), UInt8.ofNat_toNat]
        exact List.mem_cons_self
      · have high := (meet_high sound (Nat.not_lt.mp low)).1 c here
        omega
    · exact List.mem_cons_of_mem byte (ih (meet_sound sound byte) later)

end Runs

/-- Bytes that give nothing are none, behind nothing that has begun. -/
theorem decodeAfter_eq_nil {state : Option Begun} {bytes : List UInt8}
    (empty : decodeAfter state bytes = []) : state = none ∧ bytes = [] := by
  induction bytes generalizing state with
  | nil =>
    cases state with
    | none => exact ⟨rfl, rfl⟩
    | some pending => cases empty
  | cons byte rest ih =>
    rw [decodeAfter_cons] at empty
    obtain ⟨silent, later⟩ := List.append_eq_nil_iff.mp empty
    exact absurd (ih later).1 (meet_silent silent)

theorem decode_append_ascii (front back : List UInt8) {byte : UInt8} (ascii : byte.toNat < 0x80) :
    decode (front ++ byte :: back) = decode front ++ Char.ofNat byte.toNat :: decode back := by
  obtain ⟨text, next, sound, reads⟩ := exists_state soundState_none front
  have alone := reads []
  rw [List.append_nil] at alone
  rw [decode, reads, decodeAfter_cons, meet_ascii sound ascii, decode, alone, decode]
  simp

/-! Mended bytes. -/

/-- The bytes of the text that any bytes are decoded as. -/
def mend (bytes : List UInt8) : List UInt8 := encode (decode bytes)

theorem decode_mend (bytes : List UInt8) : decode (mend bytes) = decode bytes :=
  decode_encode (decode bytes)

theorem encode_append (front back : List Char) :
    encode (front ++ back) = encode front ++ encode back :=
  List.flatMap_append

theorem encodeChar_ascii {c : Char} (ascii : c.toNat < 0x80) :
    String.utf8EncodeChar c = [UInt8.ofNat c.toNat] := by
  have value : c.val.toNat = c.toNat := rfl
  rw [String.utf8EncodeChar, value, if_pos (by omega)]

/-- The bytes of a character from 128 on are from 128 on. -/
theorem encodeChar_high {c : Char} (high : 0x80 ≤ c.toNat) :
    ∀ byte ∈ String.utf8EncodeChar c, 0x80 ≤ byte.toNat := by
  have value : c.toNat = c.val.toNat := rfl
  rw [String.utf8EncodeChar]
  rw [value] at high
  generalize c.val.toNat = v at high ⊢
  split_ifs
  · omega
  all_goals
    simp
    omega

theorem encodeChar_ne_nil (c : Char) : String.utf8EncodeChar c ≠ [] := by
  rw [String.utf8EncodeChar]
  split_ifs <;> exact List.cons_ne_nil _ _

theorem mend_append_ascii (front back : List UInt8) {byte : UInt8} (ascii : byte.toNat < 0x80) :
    mend (front ++ byte :: back) = mend front ++ byte :: mend back := by
  have same : (Char.ofNat byte.toNat).toNat = byte.toNat :=
    toNat_ofNat_of_valid (.inl (by omega))
  have alone : String.utf8EncodeChar (Char.ofNat byte.toNat) = [byte] := by
    rw [encodeChar_ascii (by rwa [same]), same, UInt8.ofNat_toNat]
  rw [mend, decode_append_ascii front back ascii, encode_append]
  simp [mend, encode, alone]

theorem mem_of_mem_mend {bytes : List UInt8} {byte : UInt8} (member : byte ∈ mend bytes)
    (ascii : byte.toNat < 0x80) : byte ∈ bytes := by
  rw [mend, encode, List.mem_flatMap] at member
  obtain ⟨c, inside, encoded⟩ := member
  by_cases low : c.toNat < 0x80
  · rw [encodeChar_ascii low, List.mem_singleton] at encoded
    rw [encoded]
    exact ascii_mem_of_decodeAfter soundState_none inside low
  · have high := encodeChar_high (Nat.not_lt.mp low) byte encoded
    omega

theorem mend_eq_nil {bytes : List UInt8} : mend bytes = [] ↔ bytes = [] := by
  constructor
  · intro empty
    have silent : decode bytes = [] := by
      refine List.eq_nil_iff_forall_not_mem.mpr fun c inside => encodeChar_ne_nil c ?_
      exact List.flatMap_eq_nil_iff.mp empty c inside
    exact (decodeAfter_eq_nil silent).2
  · rintro rfl
    rfl

/-- A last byte from 128 on leaves one in its place. -/
theorem mend_concat_high (front : List UInt8) {byte : UInt8} (high : 0x80 ≤ byte.toNat) :
    ∃ before last, mend (front ++ [byte]) = before ++ [last] ∧ 0x80 ≤ last.toNat := by
  obtain ⟨text, next, sound, reads⟩ := exists_state soundState_none front
  rcases List.eq_nil_or_concat (decodeAfter next [byte]) with empty | ⟨chars, c, ends⟩
  · exact absurd (decodeAfter_eq_nil empty).2 (List.cons_ne_nil _ _)
  have beyond : 0x80 ≤ c.toNat := by
    by_contra low
    have member : c ∈ decodeAfter next [byte] := by simp [ends]
    have same := List.mem_singleton.mp (ascii_mem_of_decodeAfter sound member (Nat.not_le.mp low))
    have small : c.toNat < UInt8.size := Nat.lt_of_lt_of_le (Nat.not_le.mp low) (by decide)
    rw [← same, UInt8.toNat_ofNat_of_lt' small] at high
    exact low high
  rcases List.eq_nil_or_concat (String.utf8EncodeChar c) with empty | ⟨bytes, last, encoded⟩
  · exact absurd empty (encodeChar_ne_nil c)
  have ending : 0x80 ≤ last.toNat := encodeChar_high beyond last (by simp [encoded])
  refine ⟨encode (text ++ chars) ++ bytes, last, ?_, ending⟩
  rw [mend, decode, reads, ends]
  simp [encode, encoded]

theorem not_isLineEnd {byte : UInt8} (high : 0x80 ≤ byte.toNat) : ¬ isLineEnd byte := by
  intro ending
  simp only [isLineEnd, Bool.or_eq_true, beq_iff_eq] at ending
  rcases ending with rfl | rfl <;> contradiction

theorem trimLineEnd_mend (bytes : List UInt8) :
    trimLineEnd (mend bytes) = mend (trimLineEnd bytes) := by
  induction bytes using List.reverseRecOn with
  | nil => rfl
  | append_singleton front byte ih =>
    have kept {front : List UInt8} {byte : UInt8} (inside : ¬ isLineEnd byte) :
        trimLineEnd (front ++ [byte]) = front ++ [byte] :=
      List.rdropWhile_concat_neg isLineEnd front byte inside
    by_cases ascii : byte.toNat < 0x80
    · have split : mend (front ++ [byte]) = mend front ++ [byte] :=
        mend_append_ascii front [] ascii
      by_cases ending : isLineEnd byte
      · rw [split, trimLineEnd_concat _ ending, trimLineEnd_concat _ ending, ih]
      · rw [split, kept ending, kept ending, split]
    · have high := Nat.not_lt.mp ascii
      obtain ⟨before, last, ends, beyond⟩ := mend_concat_high front high
      rw [kept (not_isLineEnd high), ends, kept (not_isLineEnd beyond)]

theorem ofLine_mend (bytes : List UInt8) : ofLine (mend bytes) = ofLine bytes := by
  rw [ofLine, trimLineEnd_mend, decode_mend, ofLine]

theorem mend_flatMap (bodies : List (List UInt8)) (rest : List UInt8) :
    mend (bodies.flatMap (· ++ [lineFeed]) ++ rest) =
      (bodies.map mend).flatMap (· ++ [lineFeed]) ++ mend rest := by
  induction bodies with
  | nil => rfl
  | cons body bodies ih =>
    have joined : (body :: bodies).flatMap (· ++ [lineFeed]) ++ rest =
        body ++ lineFeed :: (bodies.flatMap (· ++ [lineFeed]) ++ rest) := by simp
    rw [joined, mend_append_ascii body _ (by decide), ih]
    simp

end ProfileGraph.Text

namespace ProfileGraph.CallGraph
variable {α : Type} [Quantity α]

/-- Bytes and their mended form are built alike, whether reading fails behind them
or not. -/
theorem build_mend (patterns : RecordPatterns) (marker : String) (bytes : List UInt8)
    (failure : Option String) :
    (build patterns marker ⟨Text.encode (Text.decode bytes), failure⟩ : BuildResult α) =
      build patterns marker ⟨bytes, failure⟩ := by
  refine build_congr patterns marker ?_ rfl
  obtain ⟨bodies, rest, unbroken, unfinished, rfl⟩ := Text.exists_bodies bytes
  have mended : ∀ body ∈ bodies.map Text.mend, Text.lineFeed ∉ body := by
    intro line member inside
    obtain ⟨body, listed, rfl⟩ := List.mem_map.mp member
    exact unbroken body listed (Text.mem_of_mem_mend inside (by decide))
  have tail : Text.lineFeed ∉ Text.mend rest := fun inside =>
    unfinished (Text.mem_of_mem_mend inside (by decide))
  have read : Text.ofLine ∘ Text.mend = Text.ofLine := funext Text.ofLine_mend
  rw [← Text.mend, Text.mend_flatMap, ByteSource.texts_eq mended tail,
    ByteSource.texts_eq unbroken unfinished, List.map_map, read, Text.ofLine_mend]
  simp only [ne_eq, Text.mend_eq_nil]

end ProfileGraph.CallGraph

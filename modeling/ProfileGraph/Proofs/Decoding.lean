import ProfileGraph.Text.Bytes

/-! Decoding gives back what was encoded. The bytes of a character are read one
after the other: the first says how many follow and how far they range, each of
the others adds six bits, and the last one finishes the character. -/
namespace ProfileGraph.Text

private theorem byte_value {n : Nat} (small : n < 256) : (UInt8.ofNat n).toNat = n :=
  UInt8.toNat_ofNat_of_lt' small

/-! The first byte of a character. -/

section Opening
variable {n : Nat}

theorem opening_one (small : n < 0x80) : opening (UInt8.ofNat n) = .finished (Char.ofNat n) := by
  rw [opening, byte_value (by omega), if_pos small]

theorem opening_two (low : 0xC2 ≤ n) (high : n ≤ 0xDF) :
    opening (UInt8.ofNat n) = .begun { bits := n - 0xC0, further := 0 } := by
  rw [opening, byte_value (by omega), if_neg (by omega), if_pos ⟨low, high⟩]

/-- Of three bytes, the second one keeps off the shorter forms and the
surrogates. -/
theorem opening_three (low : 0xE0 ≤ n) (high : n ≤ 0xEF) :
    opening (UInt8.ofNat n) = .begun {
      bits := n - 0xE0
      further := 1
      low := if n = 0xE0 then 0xA0 else 0x80
      high := if n = 0xED then 0x9F else 0xBF } := by
  rw [opening, byte_value (by omega), if_neg (by omega), if_neg (by omega)]
  by_cases least : n = 0xE0
  · subst least
    rfl
  · by_cases surrogates : n = 0xED
    · subst surrogates
      rfl
    · rw [if_neg least, if_neg surrogates, if_pos ⟨by omega, high⟩, if_neg least, if_neg surrogates]

/-- Of four bytes, the second one keeps off the shorter forms and what lies
beyond the last character. -/
theorem opening_four (low : 0xF0 ≤ n) (high : n ≤ 0xF4) :
    opening (UInt8.ofNat n) = .begun {
      bits := n - 0xF0
      further := 2
      low := if n = 0xF0 then 0x90 else 0x80
      high := if n = 0xF4 then 0x8F else 0xBF } := by
  rw [opening, byte_value (by omega), if_neg (by omega), if_neg (by omega), if_neg (by omega),
    if_neg (by omega), if_neg (by omega)]
  by_cases least : n = 0xF0
  · subst least
    rfl
  · by_cases last : n = 0xF4
    · subst last
      rfl
    · rw [if_neg least, if_pos ⟨by omega, by omega⟩, if_neg least, if_neg last]

end Opening

/-! The bytes behind it. -/

section Following
variable {bits further n : Nat} {low high : UInt8} (inside : low.toNat ≤ n ∧ n ≤ high.toNat)
  (rest : List UInt8)
include inside

theorem decodeAfter_last : decodeAfter (some ⟨bits, 0, low, high⟩) (UInt8.ofNat n :: rest) =
    Char.ofNat (bits * 64 + (n - 0x80)) :: decodeAfter none rest := by
  have value : (UInt8.ofNat n).toNat = n := byte_value (Nat.lt_of_le_of_lt inside.2 high.toNat_lt)
  rw [decodeAfter, if_pos, value]
  rwa [UInt8.le_iff_toNat_le, UInt8.le_iff_toNat_le, value]

theorem decodeAfter_further :
    decodeAfter (some ⟨bits, further + 1, low, high⟩) (UInt8.ofNat n :: rest) =
      decodeAfter (some { bits := bits * 64 + (n - 0x80), further }) rest := by
  have value : (UInt8.ofNat n).toNat = n := byte_value (Nat.lt_of_le_of_lt inside.2 high.toNat_lt)
  rw [decodeAfter, if_pos, value]
  rwa [UInt8.le_iff_toNat_le, UInt8.le_iff_toNat_le, value]

end Following

/-! Characters and texts. -/

theorem decodeAfter_encodeChar (c : Char) (rest : List UInt8) :
    decodeAfter none (String.utf8EncodeChar c ++ rest) = c :: decodeAfter none rest := by
  have valid : c.val.toNat < 0xD800 ∨ 0xDFFF < c.val.toNat ∧ c.val.toNat < 0x110000 := c.valid
  have whole : Char.ofNat c.val.toNat = c := Char.ofNat_toNat c
  rw [String.utf8EncodeChar]
  generalize c.val.toNat = v at valid whole ⊢
  by_cases one : v ≤ 127
  · rw [if_pos one, List.singleton_append, decodeAfter, opening_one (by omega), whole]
  rw [if_neg one]
  by_cases two : v ≤ 2047
  · have bits : (v / 64 % 32 + 192 - 0xC0) * 64 + (v % 64 + 128 - 0x80) = v := by omega
    rw [if_pos two, List.cons_append, List.singleton_append, decodeAfter,
      opening_two (by omega) (by omega)]
    dsimp only
    rw [decodeAfter_last, bits, whole]
    simp
    omega
  rw [if_neg two]
  by_cases three : v ≤ 65535
  · have bits : ((v / 4096 % 16 + 224 - 0xE0) * 64 + (v / 64 % 64 + 128 - 0x80)) * 64
        + (v % 64 + 128 - 0x80) = v := by omega
    rw [if_pos three, List.cons_append, List.cons_append, List.singleton_append, decodeAfter,
      opening_three (by omega) (by omega)]
    dsimp only
    rw [decodeAfter_further, decodeAfter_last, bits, whole]
    · simp
      omega
    · constructor
      · split <;> simp
        omega
      · split <;> simp <;> omega
  · have bits : (((v / 262144 % 8 + 240 - 0xF0) * 64 + (v / 4096 % 64 + 128 - 0x80)) * 64
        + (v / 64 % 64 + 128 - 0x80)) * 64 + (v % 64 + 128 - 0x80) = v := by omega
    rw [if_neg three, List.cons_append, List.cons_append, List.cons_append, List.singleton_append,
      decodeAfter, opening_four (by omega) (by omega)]
    dsimp only
    rw [decodeAfter_further, decodeAfter_further, decodeAfter_last, bits, whole]
    · simp
      omega
    · simp
      omega
    · constructor
      · split <;> simp
        omega
      · split <;> simp <;> omega

theorem decode_encode (text : List Char) : decode (encode text) = text := by
  rw [decode]
  induction text with
  | nil => rfl
  | cons c text ih => rw [encode, List.flatMap_cons, decodeAfter_encodeChar, ← encode, ih]

end ProfileGraph.Text

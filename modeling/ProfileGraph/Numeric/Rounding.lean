/-! Rounding of quotients of natural numbers. A quotient is rounded to the
nearest whole number; a quotient half-way between two is decided by the tie
rule, and every caller names the rule it needs. -/
namespace ProfileGraph

/-- Which neighbour wins when a value lies exactly half-way between two. -/
inductive Tie where
  /-- The even neighbour. -/
  | toEven
  /-- The greater neighbour. -/
  | up
deriving DecidableEq, Repr

/-- Whether a half-way value above the floor `q` goes up. -/
def Tie.goesUp : Tie → Nat → Bool
  | .toEven, q => q % 2 == 1
  | .up, _ => true

/-- The whole number nearest to `num / den`, for a positive `den`. -/
def roundDiv (tie : Tie) (num den : Nat) : Nat :=
  let floor := num / den
  let twiceRest := 2 * (num % den)
  if twiceRest < den then floor
  else if den < twiceRest then floor + 1
  else if tie.goesUp floor then floor + 1 else floor

/-- The rounded quotient is the floor or its successor, whichever leaves at
most half of the divisor between itself and the quotient. -/
theorem roundDiv_cases (tie : Tie) (num den : Nat) :
    (roundDiv tie num den = num / den ∧ 2 * (num % den) ≤ den) ∨
      (roundDiv tie num den = num / den + 1 ∧ den ≤ 2 * (num % den)) := by
  unfold roundDiv
  dsimp only
  split
  · exact .inl ⟨rfl, by omega⟩
  · split
    · exact .inr ⟨rfl, by omega⟩
    · split
      · exact .inr ⟨rfl, by omega⟩
      · exact .inl ⟨rfl, by omega⟩

/-- A whole quotient is left as it is. -/
theorem roundDiv_mul_right (tie : Tie) (n : Nat) {den : Nat} (pos : 0 < den) :
    roundDiv tie (n * den) den = n := by
  unfold roundDiv
  simp [Nat.mul_div_cancel _ pos, pos]

end ProfileGraph

/-! Rounding of a quotient of naturals to a nearest natural. Only an exact half leaves a choice,
which a tie rule makes.
-/

namespace JoinLatency.Decimal

/-- Where a quotient halfway between two naturals goes. -/
inductive Tie
  | toEven
  | up
  deriving DecidableEq, Repr

/-- Whether a tie rule takes the upper neighbour of a half above `floor`. -/
def Tie.goesUp : Tie → Nat → Bool
  | .toEven, floor => floor % 2 == 1
  | .up, _ => true

/-- The natural nearest to `num / den`; a half goes where the tie rule says. -/
def roundDiv (tie : Tie) (num den : Nat) : Nat :=
  let floor := num / den
  let twice := 2 * (num % den)
  if twice < den then floor
  else if den < twice then floor + 1
  else if tie.goesUp floor then floor + 1
  else floor

/-- Quotients without a remainder are kept. -/
theorem roundDiv_mul (tie : Tie) (n : Nat) {den : Nat} (h : 0 < den)
    : roundDiv tie (n * den) den = n := by
  simp [roundDiv, Nat.mul_div_cancel _ h, h]

end JoinLatency.Decimal

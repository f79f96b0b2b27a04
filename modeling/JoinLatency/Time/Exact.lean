import JoinLatency.Time.Seconds

/-! Times as fractions. Sums, products and comparisons of fractions are exact, so that a timer over
them tells what its measurements are before any rounding. Their texts are rounded as those of
doubles are.
-/

namespace JoinLatency

/-- The seconds of a duration as a fraction. -/
def Duration.exact (duration : Duration) : Rat :=
  mkRat (Int.ofNat duration.nanoseconds) Duration.perSecond

/-- The text of a fraction with a number of decimal places. A half goes to the even neighbour, and a
negative fraction keeps its sign when it rounds to zero.
-/
def Decimal.fixedExact (places : Nat) (x : Rat) : String :=
  let sign := if x.num < 0 then ['-'] else []
  let units := roundDiv .toEven (x.num.natAbs * Nat.pow 10 places) x.den
  String.ofList (sign ++ placed places units)

instance : Seconds Rat where
  zero := 0
  ofDuration := Duration.exact
  reaches elapsed budget := budget ≤ elapsed
  fixed := Decimal.fixedExact

end JoinLatency

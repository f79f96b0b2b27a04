import JoinLatency.Decimal.Fixed
import JoinLatency.Json.Number
import JoinLatency.Time.Duration

/-! The numbers that times are measured in. A timer adds and multiplies seconds, compares them
with a budget and writes them with fixed places, and needs nothing else of the number type.
-/

namespace JoinLatency

/-- Numbers of seconds. -/
class Seconds (R : Type) extends Add R, Mul R where
  /-- No time. -/
  zero : R
  /-- The seconds of a duration. -/
  ofDuration : Duration → R
  /-- Whether an elapsed time has reached a budget. -/
  reaches : R → R → Bool
  /-- The text with a number of decimal places. -/
  fixed : Nat → R → String

/-- A duration in doubles is its full seconds plus the rest divided by the nanoseconds of a
second, each rounded on its own.
-/
def Duration.toDouble (duration : Duration) : Float :=
  Json.doubleOfNat duration.seconds
    + Json.doubleOfNat duration.subsecond / Json.doubleOfNat Duration.perSecond

instance : Seconds Float where
  zero := 0
  ofDuration := Duration.toDouble
  reaches elapsed budget := budget ≤ elapsed
  fixed := Decimal.fixed

end JoinLatency

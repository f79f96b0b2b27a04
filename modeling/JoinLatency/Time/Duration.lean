import JoinLatency.Decimal.Binary64

/-! Durations and clock readings in whole nanoseconds. A clock shows readings below 2^64 seconds
and is never moved past the last of them.
-/

namespace JoinLatency

open JoinLatency.Decimal

/-- A span of time, or the reading of a clock since its origin. -/
structure Duration where
  nanoseconds : Nat
  deriving DecidableEq, Repr, Inhabited

namespace Duration

/-- The nanoseconds of a second. -/
def perSecond : Nat := 1000000000

/-- No time at all. -/
def zero : Duration := ⟨0⟩

/-- A duration of seconds and nanoseconds. -/
def ofParts (seconds nanoseconds : Nat) : Duration :=
  ⟨seconds * perSecond + nanoseconds⟩

/-- A number of milliseconds. -/
def ofMilliseconds (milliseconds : Nat) : Duration :=
  ofParts (milliseconds / 1000) (milliseconds % 1000 * 1000000)

/-- The full seconds of a duration. -/
def seconds (duration : Duration) : Nat :=
  duration.nanoseconds / perSecond

/-- The nanoseconds that do not fill a second. -/
def subsecond (duration : Duration) : Nat :=
  duration.nanoseconds % perSecond

/-- The time since an earlier reading; none has passed since a later one. -/
def since (now earlier : Duration) : Duration :=
  ⟨now.nanoseconds - earlier.nanoseconds⟩

/-- The longest duration with 64 bits of seconds. -/
def longest : Duration := ofParts 18446744073709551615 (perSecond - 1)

/-- Whether a clock can no longer show a reading. -/
def beyondClock (reading : Duration) : Bool :=
  longest.nanoseconds < reading.nanoseconds

/-- The reading of a clock when more time has passed, if the clock can still show it. -/
def plus? (reading passed : Duration) : Option Duration :=
  let sum : Duration := ⟨reading.nanoseconds + passed.nanoseconds⟩
  if sum.beyondClock then none else some sum

/-- The duration nearest to a double of seconds, with ties to the even nanosecond. What is
negative, undefined or too long becomes the longest duration.
-/
def ofDouble (seconds : Float) : Duration :=
  let bits := magnitudeBits seconds
  if bits = 0 then zero
  else if isNegative seconds || infinityBits ≤ bits then longest
  else
    let (num, den) := magnitudeRatio bits
    let duration : Duration := ⟨roundDiv .toEven (num * perSecond) den⟩
    if duration.beyondClock then longest else duration

theorem plus?_eq_some_iff {reading passed sum : Duration}
    : reading.plus? passed = some sum
      ↔ sum.nanoseconds = reading.nanoseconds + passed.nanoseconds
        ∧ reading.nanoseconds + passed.nanoseconds ≤ longest.nanoseconds := by
  obtain ⟨nanoseconds⟩ := sum
  simp only [plus?, beyondClock, decide_eq_true_eq]
  split
  next beyond => simp only [reduceCtorEq, false_iff]; omega
  next within =>
    simp only [Option.some.injEq, mk.injEq]
    omega

theorem plus?_eq_none_iff {reading passed : Duration}
    : reading.plus? passed = none
      ↔ longest.nanoseconds < reading.nanoseconds + passed.nanoseconds := by
  simp [plus?, beyondClock]

end Duration

end JoinLatency

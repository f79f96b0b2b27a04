import JoinLatency.Average.Runs
import JoinLatency.Table
import JoinLatency.Timer.Schedule

/-! Averages over the variants of a group. Every recorded trace counts as a contributor of its
group, and its points are filed by bucket; a policy decides what a checkpoint that some
contributor has not reached is worth.
-/

namespace JoinLatency

/-- What becomes of times that are missing: they are left out, or they count as zero, or only a
checkpoint that nobody has reached counts as zero.
-/
inductive MissingPolicy
  | skip
  | zero
  | fillZero
  deriving DecidableEq, Repr, Inhabited

/-- The names of the policies. -/
def MissingPolicy.names : List (String × MissingPolicy) :=
  [("skip", .skip), ("zero", .zero), ("fill_zero", .fillZero)]

/-- The name of a policy. -/
def MissingPolicy.name : MissingPolicy → String
  | .skip => "skip"
  | .zero => "zero"
  | .fillZero => "fill_zero"

/-- The number of terms that a sum over `present` values is divided by, when `expected` values
were possible. Missing values count under one policy only, and never lower the number.
-/
def MissingPolicy.terms (policy : MissingPolicy) (expected present : Nat) : Nat :=
  match policy with
  | .skip | .fillZero => present
  | .zero => max expected present

/-- The sum of a list of doubles, from the left. An empty sum, and a sum of negative zeros, is
negative zero.
-/
def sum (values : List Float) : Float :=
  values.foldl (· + ·) (Decimal.ofMagnitude true 0)

/-- The plain and the decayed times of a bucket, in the order in which they were recorded. -/
structure BucketTimes where
  unweighted : List Float := []
  weighted : List Float := []
  deriving Repr, Inhabited

/-- One more pair of times. -/
def BucketTimes.push (times : BucketTimes) (point : AveragedPoint) : BucketTimes where
  unweighted := times.unweighted ++ [point.meanElapsed]
  weighted := times.weighted ++ [point.meanDecayed]

/-- The two sums of a bucket, each divided by a number of terms. -/
def BucketTimes.meanOver (times : BucketTimes) (terms : Nat) : Float × Float :=
  (sum times.unweighted / divisor terms, sum times.weighted / divisor terms)

/-- A checkpoint with its plain and decayed time. -/
structure SummaryLine where
  k : Nat
  unweighted : Float
  weighted : Float
  deriving Repr

/-- The times of every group by bucket, and the number of traces that each group has. -/
structure Accumulator (γ : Type) where
  times : Table (γ × Bucket) BucketTimes := {}
  traces : Table γ Nat := {}

namespace Accumulator

variable {γ : Type} [DecidableEq γ]

/-- The times after one more point of a group. -/
def filePoint (group : γ) (times : Table (γ × Bucket) BucketTimes) (point : AveragedPoint)
    : Table (γ × Bucket) BucketTimes :=
  times.update (group, point.bucket) {} (·.push point)

/-- One more trace of a group. -/
def record (accumulator : Accumulator γ) (group : γ) (averaged : AveragedTrace)
    : Accumulator γ where
  times := averaged.points.foldl (filePoint group) accumulator.times
  traces := accumulator.traces.update group 0 (· + 1)

/-- The number of traces of a group. -/
def contributors (accumulator : Accumulator γ) (group : γ) : Nat :=
  (accumulator.traces.get? group).getD 0

/-- The mean times of a group in a bucket that has any. -/
def mean? (accumulator : Accumulator γ) (group : γ) (bucket : Bucket) : Option (Float × Float) :=
  (accumulator.times.get? (group, bucket)).map fun times =>
    times.meanOver times.unweighted.length

/-- The line of a checkpoint. One that nobody has reached is left out or zero. -/
def line? (accumulator : Accumulator γ) (group : γ) (policy : MissingPolicy) (k : Nat)
    : Option SummaryLine :=
  match accumulator.times.get? (group, .checkpoint k) with
  | some times =>
      let terms := policy.terms (accumulator.contributors group) times.weighted.length
      let (unweighted, weighted) := times.meanOver terms
      some { k, unweighted, weighted }
  | none =>
      match policy with
      | .skip => none
      | .zero | .fillZero => some { k, unweighted := 0, weighted := 0 }

/-- The lines of a group, in the order of a schedule. -/
def summary (accumulator : Accumulator γ) (group : γ) (schedule : Schedule)
    (policy : MissingPolicy) : List SummaryLine :=
  schedule.checkpoints.filterMap (accumulator.line? group policy)

end Accumulator

end JoinLatency

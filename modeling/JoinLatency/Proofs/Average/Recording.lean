import JoinLatency.Average.Groups
import JoinLatency.Proofs.Table

/-! What groups keep of each other. The summary of a group is made from its own records, and a
record of one group leaves those of all others.
-/

namespace JoinLatency.Accumulator

variable {γ : Type} [DecidableEq γ] {group other : γ} {left right : Accumulator γ}

/-- Two accumulators hold the same times in every bucket of a group and the same number of its
traces.
-/
structure AgreeOn (group : γ) (left right : Accumulator γ) : Prop where
  times (bucket : Bucket) : left.times.get? (group, bucket) = right.times.get? (group, bucket)
  traces : left.traces.get? group = right.traces.get? group

theorem AgreeOn.refl (accumulator : Accumulator γ) : AgreeOn group accumulator accumulator :=
  ⟨fun _ => rfl, rfl⟩

theorem AgreeOn.trans {middle : Accumulator γ} (hl : AgreeOn group left middle)
    (hr : AgreeOn group middle right)
    : AgreeOn group left right :=
  ⟨fun bucket => (hl.times bucket).trans (hr.times bucket), hl.traces.trans hr.traces⟩

theorem AgreeOn.symm (h : AgreeOn group left right) : AgreeOn group right left :=
  ⟨fun bucket => (h.times bucket).symm, h.traces.symm⟩

theorem AgreeOn.contributors (h : AgreeOn group left right)
    : left.contributors group = right.contributors group := by
  simp only [Accumulator.contributors, h.traces]

theorem AgreeOn.summary (h : AgreeOn group left right) (schedule : Schedule)
    (policy : MissingPolicy)
    : left.summary group schedule policy = right.summary group schedule policy := by
  have line : left.line? group policy = right.line? group policy := by
    funext k
    simp only [line?, h.times, h.contributors]
  simp only [Accumulator.summary, line]

/-- Filing points of one group leaves the times of another, by induction along the points. -/
theorem get?_filePoints (apart : other ≠ group) (points : List AveragedPoint)
    (times : Table (γ × Bucket) BucketTimes) (bucket : Bucket)
    : (points.foldl (filePoint other) times).get? (group, bucket)
      = times.get? (group, bucket) := by
  induction points generalizing times with
  | nil => rfl
  | cons point rest ih =>
      have key : (other, point.bucket) ≠ (group, bucket) := fun same =>
        apart (congrArg Prod.fst same)
      rw [List.foldl_cons, ih, filePoint, Table.get?_update, if_neg key]

/-- A record of one group leaves another. -/
theorem agreeOn_record (apart : other ≠ group) (accumulator : Accumulator γ)
    (averaged : AveragedTrace)
    : AgreeOn group accumulator (accumulator.record other averaged) := by
  refine ⟨fun bucket => ?_, ?_⟩
  · exact (get?_filePoints apart averaged.points accumulator.times bucket).symm
  · simp [record, Table.get?_update, apart]

/-- Filing the same points for a group keeps the agreement on its times, by induction along the
points.
-/
theorem get?_filePoints_congr (points : List AveragedPoint)
    {times times' : Table (γ × Bucket) BucketTimes}
    (same : ∀ bucket, times.get? (group, bucket) = times'.get? (group, bucket))
    (bucket : Bucket)
    : (points.foldl (filePoint group) times).get? (group, bucket)
      = (points.foldl (filePoint group) times').get? (group, bucket) := by
  induction points generalizing times times' with
  | nil => exact same bucket
  | cons point rest ih =>
      refine ih fun place => ?_
      simp only [filePoint, Table.get?_update, same]

theorem AgreeOn.record (h : AgreeOn group left right) (recorded : γ) (averaged : AveragedTrace)
    : AgreeOn group (left.record recorded averaged) (right.record recorded averaged) := by
  by_cases same : recorded = group
  · subst same
    refine ⟨get?_filePoints_congr averaged.points h.times, ?_⟩
    simp only [Accumulator.record, Table.get?_update, h.traces]
  · exact (agreeOn_record same left averaged).symm.trans
      (h.trans (agreeOn_record same right averaged))

/-- Traces of a group, recorded one after the other. -/
def recordAll (accumulator : Accumulator γ) (group : γ) (traces : List AveragedTrace)
    : Accumulator γ :=
  traces.foldl (fun accumulator averaged => accumulator.record group averaged) accumulator

@[simp] theorem recordAll_cons (accumulator : Accumulator γ) (group : γ)
    (averaged : AveragedTrace) (rest : List AveragedTrace)
    : accumulator.recordAll group (averaged :: rest)
      = (accumulator.record group averaged).recordAll group rest := rfl

theorem recordAll_singleton (accumulator : Accumulator γ) (group : γ) (averaged : AveragedTrace)
    : accumulator.recordAll group [averaged] = accumulator.record group averaged := rfl

theorem contributors_record (accumulator : Accumulator γ) (group : γ) (averaged : AveragedTrace)
    : (accumulator.record group averaged).contributors group
      = accumulator.contributors group + 1 := by
  simp [contributors, record, Table.get?_update]

/-- Every trace of a group counts, by induction along the traces. -/
theorem contributors_recordAll (accumulator : Accumulator γ) (group : γ)
    (traces : List AveragedTrace)
    : (accumulator.recordAll group traces).contributors group
      = accumulator.contributors group + traces.length := by
  induction traces generalizing accumulator with
  | nil => rfl
  | cons averaged rest ih =>
      rw [recordAll_cons, ih, contributors_record, List.length_cons, Nat.add_right_comm,
        Nat.add_assoc]

end JoinLatency.Accumulator

-----------------------------------------------------------------------------------------
-- Times of checkpoints
-----------------------------------------------------------------------------------------

namespace JoinLatency

/-- The points of a trace in a bucket. -/
def AveragedTrace.pointsIn (averaged : AveragedTrace) (bucket : Bucket) : List AveragedPoint :=
  averaged.points.filter (·.bucket = bucket)

/-- The points of a trace at a checkpoint. -/
def AveragedTrace.pointsAt (averaged : AveragedTrace) (k : Nat) : List AveragedPoint :=
  averaged.points.filter (·.bucket = .checkpoint k)

/-- The line of a checkpoint with the means over the points of some traces. -/
def SummaryLine.mean (policy : MissingPolicy) (traces : List AveragedTrace) (k : Nat)
    : SummaryLine :=
  let points := traces.flatMap (·.pointsAt k)
  let terms := divisor (policy.terms traces.length points.length)
  {
    k
    unweighted := sum (points.map (·.meanElapsed)) / terms
    weighted := sum (points.map (·.meanDecayed)) / terms
  }

theorem BucketTimes.foldl_push (points : List AveragedPoint) (times : BucketTimes)
    : points.foldl (fun times point => times.push point) times
      = {
        unweighted := times.unweighted ++ points.map (·.meanElapsed)
        weighted := times.weighted ++ points.map (·.meanDecayed)
      } := by
  induction points generalizing times with
  | nil => simp
  | cons point rest ih =>
      rw [List.foldl_cons, ih]
      simp [push]

namespace Accumulator

variable {γ : Type} [DecidableEq γ]

theorem times_recordAll (accumulator : Accumulator γ) (group : γ) (traces : List AveragedTrace)
    : (accumulator.recordAll group traces).times
      = accumulator.times.updateAll (fun point => (group, point.bucket)) {}
          (fun point times => times.push point) (traces.flatMap (·.points)) := by
  induction traces generalizing accumulator with
  | nil => rfl
  | cons averaged rest ih =>
      rw [recordAll_cons, ih, List.flatMap_cons, Table.updateAll_append]
      rfl

/-- The times of a bucket are those of all points there, trace by trace. -/
theorem get?_recordAll_bucket (group : γ) (traces : List AveragedTrace) (bucket : Bucket)
    : (({} : Accumulator γ).recordAll group traces).times.get? (group, bucket)
      = if (traces.flatMap (·.pointsIn bucket)).isEmpty then none
        else
          some {
            unweighted := (traces.flatMap (·.pointsIn bucket)).map (·.meanElapsed)
            weighted := (traces.flatMap (·.pointsIn bucket)).map (·.meanDecayed)
          } := by
  have own : (traces.flatMap (·.points)).filter
        (fun point => (group, point.bucket) = (group, bucket))
      = traces.flatMap (·.pointsIn bucket) := by
    simp [List.filter_flatMap, AveragedTrace.pointsIn]
  rw [times_recordAll, Table.get?_updateAll, own, BucketTimes.foldl_push]
  rfl

theorem get?_recordAll (group : γ) (traces : List AveragedTrace) (k : Nat)
    : (({} : Accumulator γ).recordAll group traces).times.get? (group, .checkpoint k)
      = if (traces.flatMap (·.pointsAt k)).isEmpty then none
        else
          some {
            unweighted := (traces.flatMap (·.pointsAt k)).map (·.meanElapsed)
            weighted := (traces.flatMap (·.pointsAt k)).map (·.meanDecayed)
          } :=
  get?_recordAll_bucket group traces (.checkpoint k)

/-- A checkpoint of some traces has the means over their points there. -/
theorem line?_recordAll (group : γ) {traces : List AveragedTrace} (policy : MissingPolicy)
    {k : Nat} (points : traces.flatMap (·.pointsAt k) ≠ [])
    : (({} : Accumulator γ).recordAll group traces).line? group policy k
      = some (SummaryLine.mean policy traces k) := by
  have present : (traces.flatMap (·.pointsAt k)).isEmpty = false :=
    List.isEmpty_eq_false_iff.mpr points
  have terms : (({} : Accumulator γ).recordAll group traces).contributors group
      = traces.length := by
    rw [contributors_recordAll]
    exact Nat.zero_add traces.length
  simp [line?, get?_recordAll, present, terms, BucketTimes.meanOver, SummaryLine.mean]

theorem line?_k {accumulator : Accumulator γ} {group : γ} {policy : MissingPolicy} {k : Nat}
    {line : SummaryLine} (h : accumulator.line? group policy k = some line)
    : line.k = k := by
  simp only [line?] at h
  split at h
  next times found =>
    rw [← Option.some.inj h]
  next missing =>
    cases policy with
    | skip => cases h
    | zero => rw [← Option.some.inj h]
    | fillZero => rw [← Option.some.inj h]

/-- A checkpoint that has a line under the policy that leaves missing times out has points. -/
theorem pointsAt_ne_nil_of_skip {group : γ} {traces : List AveragedTrace} {k : Nat}
    {line : SummaryLine}
    (h : (({} : Accumulator γ).recordAll group traces).line? group .skip k = some line)
    : traces.flatMap (·.pointsAt k) ≠ [] := by
  intro none
  simp [line?, get?_recordAll, none] at h

end Accumulator

end JoinLatency

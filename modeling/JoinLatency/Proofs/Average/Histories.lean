import JoinLatency.Proofs.Average.Recording
import JoinLatency.Proofs.Timer.Schedule
import Mathlib.Data.List.Nodup

/-! Accumulators after any history of records. However the traces of several groups come mixed, a
group keeps its own, and every answer about it is made from their points.
-/

namespace JoinLatency

/-- Traces with the groups that they are recorded for, in the order of the records. -/
abbrev Records (γ : Type) := List (γ × AveragedTrace)

/-- The sums of the times of some points, each divided by a number of terms. -/
def AveragedPoint.meanOver (points : List AveragedPoint) (terms : Nat) : Float × Float :=
  (sum (points.map (·.meanElapsed)) / divisor terms,
    sum (points.map (·.meanDecayed)) / divisor terms)

/-- The line of a checkpoint with the means of some points. -/
def SummaryLine.ofPoints (k : Nat) (points : List AveragedPoint) (terms : Nat) : SummaryLine where
  k
  unweighted := (AveragedPoint.meanOver points terms).1
  weighted := (AveragedPoint.meanOver points terms).2

namespace Records

variable {γ : Type} [DecidableEq γ]

/-- The traces of one group. -/
def tracesOf (records : Records γ) (group : γ) : List AveragedTrace :=
  (records.filter (·.1 = group)).map (·.2)

/-- The points of one group in a bucket, trace by trace. -/
def pointsIn (records : Records γ) (group : γ) (bucket : Bucket) : List AveragedPoint :=
  (tracesOf records group).flatMap (·.pointsIn bucket)

/-- The accumulator that some records leave. -/
def accumulate (records : Records γ) : Accumulator γ :=
  records.foldl (fun accumulator record => accumulator.record record.1 record.2) {}

/-- The answers of an accumulator about a group, told from its history alone. A summary has no
two lines of one checkpoint, and its lines follow the schedule.
-/
structure Answers (records : Records γ) (group : γ) (accumulator : Accumulator γ) : Prop where
  contributors : accumulator.contributors group = records.countP (·.1 = group)
  mean_none (bucket : Bucket)
    : accumulator.mean? group bucket = none
      ↔ ∀ record ∈ records,
          record.1 = group → ∀ point ∈ record.2.points, point.bucket ≠ bucket
  mean (bucket : Bucket) (present : pointsIn records group bucket ≠ [])
    : accumulator.mean? group bucket
      = some (AveragedPoint.meanOver (pointsIn records group bucket)
          (pointsIn records group bucket).length)
  order (schedule : Schedule) (policy : MissingPolicy)
    : ((accumulator.summary group schedule policy).map (·.k)).Sublist schedule.checkpoints
  reached (schedule : Schedule) (policy : MissingPolicy) (k : Nat)
      (scheduled : k ∈ schedule.checkpoints)
      (present : pointsIn records group (.checkpoint k) ≠ [])
    : let points := pointsIn records group (.checkpoint k)
      let terms :=
        match policy with
        | .skip | .fillZero => points.length
        | .zero => max points.length (records.countP (·.1 = group))
      (accumulator.summary group schedule policy).filter (·.k = k)
        = [.ofPoints k points terms]
  unreached (schedule : Schedule) (policy : MissingPolicy) (k : Nat)
      (scheduled : k ∈ schedule.checkpoints)
      (absent : pointsIn records group (.checkpoint k) = [])
    : (accumulator.summary group schedule policy).filter (·.k = k)
      = match policy with
        | .skip => []
        | .zero | .fillZero => [{ k, unweighted := 0, weighted := 0 }]

end Records

-----------------------------------------------------------------------------------------
-- Groups in a history
-----------------------------------------------------------------------------------------

namespace Accumulator

open Records

variable {γ : Type} [DecidableEq γ] {group : γ} {left right : Accumulator γ}

/-- Two accumulators answer every question about a group alike. -/
structure AnswersAlike (group : γ) (left right : Accumulator γ) : Prop where
  contributors : left.contributors group = right.contributors group
  mean (bucket : Bucket) : left.mean? group bucket = right.mean? group bucket
  summary (schedule : Schedule) (policy : MissingPolicy)
    : left.summary group schedule policy = right.summary group schedule policy

theorem AgreeOn.answersAlike (h : AgreeOn group left right) : AnswersAlike group left right where
  contributors := h.contributors
  mean bucket := by simp only [mean?, h.times]
  summary := h.summary

/-- Records that go on from one accumulator leave a group what its own traces make of another one
that agrees on it, by induction along the records.
-/
theorem agreeOn_recordAll (h : AgreeOn group left right) (records : Records γ)
    : AgreeOn group
        (records.foldl (fun accumulator record => accumulator.record record.1 record.2) left)
        (right.recordAll group (tracesOf records group)) := by
  induction records generalizing left right with
  | nil => exact h
  | cons record rest ih =>
      by_cases own : record.1 = group
      · have traces : tracesOf (record :: rest) group = record.2 :: tracesOf rest group := by
          simp [tracesOf, own]
        rw [List.foldl_cons, traces, recordAll_cons, own]
        exact ih (h.record group record.2)
      · have traces : tracesOf (record :: rest) group = tracesOf rest group := by
          simp [tracesOf, own]
        rw [List.foldl_cons, traces]
        exact ih ((agreeOn_record own left record.2).symm.trans h)

/-- A group has what its own traces make of a fresh accumulator. -/
theorem agreeOn_accumulate (records : Records γ) (group : γ)
    : AgreeOn group (accumulate records) (({} : Accumulator γ).recordAll group
        (tracesOf records group)) :=
  agreeOn_recordAll (.refl {}) records

/-- Histories in which a group has the same traces leave the same answers about it. -/
theorem answersAlike_of_traces {records others : Records γ}
    (same : tracesOf records group = tracesOf others group)
    : AnswersAlike group (accumulate records) (accumulate others) := by
  have mine := agreeOn_accumulate records group
  rw [same] at mine
  exact (mine.trans (agreeOn_accumulate others group).symm).answersAlike

theorem times_accumulate (records : Records γ) (group : γ) (bucket : Bucket)
    : (accumulate records).times.get? (group, bucket)
      = if (pointsIn records group bucket).isEmpty then none
        else
          some {
            unweighted := (pointsIn records group bucket).map (·.meanElapsed)
            weighted := (pointsIn records group bucket).map (·.meanDecayed)
          } :=
  ((agreeOn_accumulate records group).times bucket).trans
    (get?_recordAll_bucket group (tracesOf records group) bucket)

theorem contributors_accumulate (records : Records γ) (group : γ)
    : (accumulate records).contributors group = records.countP (·.1 = group) := by
  rw [(agreeOn_accumulate records group).contributors, contributors_recordAll, tracesOf,
    List.length_map, ← List.countP_eq_length_filter]
  exact Nat.zero_add _

/-- A checkpoint with points has the line of their means. -/
theorem line?_accumulate {records : Records γ} {k : Nat}
    (present : pointsIn records group (.checkpoint k) ≠ []) (policy : MissingPolicy)
    : (accumulate records).line? group policy k
      = some (.ofPoints k (pointsIn records group (.checkpoint k))
          (policy.terms (records.countP (·.1 = group))
            (pointsIn records group (.checkpoint k)).length)) := by
  have some := List.isEmpty_eq_false_iff.mpr present
  simp [line?, times_accumulate, some, contributors_accumulate, BucketTimes.meanOver,
    SummaryLine.ofPoints, AveragedPoint.meanOver]

theorem pointsIn_eq_nil_iff {records : Records γ} {bucket : Bucket}
    : pointsIn records group bucket = []
      ↔ ∀ record ∈ records, record.1 = group → ∀ point ∈ record.2.points, point.bucket ≠ bucket := by
  simp only [pointsIn, tracesOf, AveragedTrace.pointsIn, List.flatMap_eq_nil_iff, List.mem_map,
    List.mem_filter, decide_eq_true_eq, List.filter_eq_nil_iff]
  constructor
  · intro empty record member own
    exact empty record.2 ⟨record, ⟨member, own⟩, rfl⟩
  · rintro absent _ ⟨record, ⟨member, own⟩, rfl⟩
    exact absent record member own

-----------------------------------------------------------------------------------------
-- Lines of a summary
-----------------------------------------------------------------------------------------

/-- The lines of a summary follow the checkpoints that have one. -/
theorem sublist_summary (accumulator : Accumulator γ) (group : γ) (schedule : Schedule)
    (policy : MissingPolicy)
    : ((accumulator.summary group schedule policy).map (·.k)).Sublist schedule.checkpoints := by
  have counts (k : Nat)
      : (accumulator.line? group policy k).map (·.k)
        = Option.guard (fun k => (accumulator.line? group policy k).isSome) k := by
    cases made : accumulator.line? group policy k with
    | none => simp [Option.guard, made]
    | some line => simp [Option.guard, made, line?_k made]
  rw [summary, List.map_filterMap, funext counts, List.filterMap_eq_filter]
  exact List.filter_sublist

/-- A summary has for a checkpoint the line that is made of its own times, since the schedule has
every checkpoint once.
-/
theorem filter_summary (accumulator : Accumulator γ) (group : γ) {schedule : Schedule}
    (policy : MissingPolicy) {k : Nat} (scheduled : k ∈ schedule.checkpoints)
    : (accumulator.summary group schedule policy).filter (·.k = k)
      = (accumulator.line? group policy k).toList := by
  have own (other : Nat)
      : (accumulator.line? group policy other).filter (·.k = k)
        = if other = k then accumulator.line? group policy other else none := by
    cases made : accumulator.line? group policy other with
    | none => simp
    | some line => by_cases same : other = k <;> simp [line?_k made, same]
  have only : schedule.checkpoints.filter (· == k) = [k] := by
    rw [List.filter_beq, List.count_eq_one_of_mem schedule.nodup scheduled]
    rfl
  rw [summary, List.filter_filterMap, funext own]
  have kept : schedule.checkpoints.filterMap
        (fun other => if other = k then accumulator.line? group policy other else none)
      = (schedule.checkpoints.filter (· == k)).filterMap (accumulator.line? group policy) := by
    rw [List.filterMap_filter]
    simp
  rw [kept, only]
  cases made : accumulator.line? group policy k <;> simp [made]

/-- Every answer of an accumulator is made from the history of its group. A group answers as if
records of other groups had not come, and neighbouring records of different groups commute.
-/
theorem answers_of_records
    : (∀ (records : Records γ) (group : γ), Answers records group (accumulate records))
      ∧ (∀ (before after : Records γ) (group other : γ) (averaged : AveragedTrace),
          other ≠ group
          → AnswersAlike group (accumulate (before ++ (other, averaged) :: after))
              (accumulate (before ++ after)))
      ∧ ∀ (before after : Records γ) (first second : γ × AveragedTrace),
          first.1 ≠ second.1
          → ∀ group,
              AnswersAlike group (accumulate (before ++ first :: second :: after))
                (accumulate (before ++ second :: first :: after)) := by
  refine ⟨fun records group => ?_, ?_, ?_⟩
  · exact {
      contributors := contributors_accumulate records group
      mean_none := by
        intro bucket
        rw [← pointsIn_eq_nil_iff, mean?, times_accumulate]
        cases pointsIn records group bucket <;> simp
      mean := by
        intro bucket present
        have some := List.isEmpty_eq_false_iff.mpr present
        simp [mean?, times_accumulate, some, BucketTimes.meanOver, AveragedPoint.meanOver]
      order := sublist_summary (accumulate records) group
      reached := by
        intro schedule policy k scheduled present
        rw [filter_summary _ _ _ scheduled, line?_accumulate present]
        cases policy with
        | skip => rfl
        | zero => rw [MissingPolicy.terms, Nat.max_comm]; rfl
        | fillZero => rfl
      unreached := by
        intro schedule policy k scheduled absent
        rw [filter_summary _ _ _ scheduled, line?.eq_def, times_accumulate, absent]
        cases policy with
        | skip => rfl
        | zero => rfl
        | fillZero => rfl
    }
  · intro before after group other averaged apart
    apply answersAlike_of_traces
    simp [tracesOf, apart]
  · intro before after first second apart group
    apply answersAlike_of_traces
    by_cases own : first.1 = group
    · have foreign : second.1 ≠ group := fun same => apart (own.trans same.symm)
      simp [tracesOf, own, foreign]
    · by_cases foreign : second.1 = group <;> simp [tracesOf, own, foreign]

/-- A group with a trace that stopped before the checkpoint, beside a record of another group. -/
theorem answers_of_records_short_trace
    : ∃ (schedule : Schedule) (first short foreign : AveragedTrace),
        let records : Records Nat := [(0, first), (1, foreign), (0, short)]
        1 ≠ 0
        ∧ AnswersAlike 0 (accumulate records) (accumulate [(0, first), (0, short)])
        ∧ pointsIn records 0 (.checkpoint 5) ≠ []
        ∧ (((accumulate records).summary 0 schedule .zero).filter (·.k = 5)).map
            (fun line => (line.unweighted, line.weighted))
          = [(Json.doubleOfNat 2, Json.doubleOfNat 1)] := by
  let schedule : Schedule := {
    checkpoints := [2, 5]
    nonempty := by decide
    positive := by decide
    increasing := ⟨by decide, trivial⟩
  }
  let point (count elapsed decayed : Nat) : AveragedPoint := {
    count
    kind := .checkpoint
    meanElapsed := Json.doubleOfNat elapsed
    meanDecayed := Json.doubleOfNat decayed
  }
  let first : AveragedTrace := { points := [point 2 1 1, point 5 4 2] }
  let short : AveragedTrace := { points := [point 2 3 2] }
  let foreign : AveragedTrace := { points := [point 5 9 9] }
  obtain ⟨answers, others, _⟩ := answers_of_records (γ := Nat)
  have present : pointsIn [(0, first), (1, foreign), (0, short)] 0 (.checkpoint 5) ≠ [] := by
    simp [pointsIn, tracesOf, AveragedTrace.pointsIn, AveragedPoint.bucket, first, point]
  refine ⟨schedule, first, short, foreign, by decide, ?_, present, ?_⟩
  · exact others [(0, first)] [(0, short)] 0 1 foreign (by decide)
  · rw [(answers _ 0).reached schedule .zero 5 (by decide) present]
    decide +kernel

end Accumulator

end JoinLatency

import JoinLatency.Proofs.Average.Recording
import JoinLatency.Proofs.Sweep.Reporting

/-! What a sweep records. Completed variants are recorded one after the other under their groups,
and the summary of a group tells what was recorded for it.
-/

namespace JoinLatency

/-- What a summary tells of its group, wherever it is written. -/
def SummaryOutcome.content (outcome : SummaryOutcome) : String × Nat × List SummaryLine :=
  (outcome.group, outcome.variants, outcome.lines)

namespace Sweep

variable {S C D W : Type} [RowSource C] [Session S C] [Sink W] [Storage D W] {group : Variant}

/-- The accumulator after one more variant, if it was completed. -/
def recordRun (sweep : Sweep) (accumulator : Accumulator Variant) (entry : Variant × VariantRun)
    : Accumulator Variant :=
  match entry.2.result with
  | .ok averaged => accumulator.record (sweep.groupOf entry.1) averaged
  | .error _ => accumulator

theorem accumulate_eq (sweep : Sweep) (runs : List (Variant × VariantRun))
    : sweep.accumulate runs = runs.foldl sweep.recordRun {} := rfl

/-- A run of one group leaves what is recorded for another. -/
theorem agreeOn_recordRun (sweep : Sweep) (accumulator : Accumulator Variant)
    {entry : Variant × VariantRun} (apart : sweep.groupOf entry.1 ≠ group)
    : accumulator.AgreeOn group (sweep.recordRun accumulator entry) := by
  rw [recordRun]
  split
  next averaged completed => exact Accumulator.agreeOn_record apart accumulator averaged
  · exact .refl accumulator

theorem recordRun_agreeOn (sweep : Sweep) {left right : Accumulator Variant}
    (h : left.AgreeOn group right) (entry : Variant × VariantRun)
    : (sweep.recordRun left entry).AgreeOn group (sweep.recordRun right entry) := by
  rw [recordRun, recordRun]
  split
  next averaged completed => exact h.record (sweep.groupOf entry.1) averaged
  · exact h

/-- Whether its file was written or not, a summary tells what was recorded for its group. -/
theorem writeSummary_tells (sweep : Sweep) (accumulator : Accumulator Variant) (base : String)
    (group : Variant) (bench : Bench S D)
    : let outcome := (sweep.writeSummary accumulator base group bench).1
      outcome.group = group.label
      ∧ outcome.variants = accumulator.contributors group
      ∧ outcome.lines = accumulator.summary group sweep.timer.schedule sweep.config.missing := by
  rw [writeSummary]
  split
  · exact ⟨rfl, rfl, rfl⟩
  · dsimp only
    split <;> exact ⟨rfl, rfl, rfl⟩

/-- What is recorded for a group tells the content of its summary. -/
def contentOf (sweep : Sweep) (accumulator : Accumulator Variant) (group : Variant)
    : String × Nat × List SummaryLine :=
  (group.label, accumulator.contributors group,
    accumulator.summary group sweep.timer.schedule sweep.config.missing)

/-- Summaries have the content that was recorded for their groups, by induction along them. -/
theorem writeSummaries_content (sweep : Sweep) (accumulator : Accumulator Variant)
    (base : String) (bench : Bench S D) (groups : List Variant)
    : (sweep.writeSummaries accumulator base bench groups).1.map SummaryOutcome.content
      = groups.map (sweep.contentOf accumulator) := by
  induction groups generalizing bench with
  | nil => rfl
  | cons group rest ih =>
      obtain ⟨label, variants, lines⟩ := sweep.writeSummary_tells accumulator base group bench
      simp only [writeSummaries, List.map_cons, SummaryOutcome.content, contentOf, label, variants,
        lines, ih]

theorem Concludes.summaries_content {sweep : Sweep} {detailBase summaryBase : String}
    {bench middle last : Bench S D} {runs : List (Variant × VariantRun)} {report : Report}
    (h : sweep.Concludes detailBase summaryBase bench runs middle report last)
    : report.summaries.map SummaryOutcome.content
      = (distinct (sweep.space.variants.map sweep.groupOf)).map
          (sweep.contentOf (sweep.accumulate runs)) :=
  h.summaries ▸ sweep.writeSummaries_content _ summaryBase middle _

end Sweep

end JoinLatency

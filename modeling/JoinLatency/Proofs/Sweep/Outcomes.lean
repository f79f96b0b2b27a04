import JoinLatency.Proofs.Sweep.Lasting
import JoinLatency.Proofs.Sweep.Recording

/-! What variants come to when the operations of a session and of a storage may fail in any way. A
variant is completed as a whole, or it fails with the traces of the repetitions before the failure,
and only completed variants are recorded.
-/

namespace JoinLatency

namespace Sweep

variable {S C D W : Type} [RowSource C] [Session S C] [Sink W] [Storage D W]

-----------------------------------------------------------------------------------------
-- Repetitions
-----------------------------------------------------------------------------------------

/-- Repetitions of a job that are all finished lead from one bench to another, with their traces. -/
inductive Finishes (sweep : Sweep) (job : Job)
    : Nat → Bench S D → List (Trace Float) → Bench S D → Prop
  | none (iteration : Nat) (bench : Bench S D) : Finishes sweep job iteration bench [] bench
  | next {iteration : Nat} {bench middle last : Bench S D} {trace : Trace Float}
    {traces : List (Trace Float)} (first : sweep.runOnce job iteration bench = (.ok trace, middle))
    (more : Finishes sweep job (iteration + 1) middle traces last)
    : Finishes sweep job iteration bench (trace :: traces) last

/-- Repetitions are finished up to the first that fails, by induction on their number. -/
theorem repeatFrom_finishes (sweep : Sweep) (job : Job) (bench : Bench S D)
    (iteration left : Nat)
    : let (traces, failure, last) := sweep.repeatFrom job bench iteration left
      ∃ middle,
        sweep.Finishes job iteration bench traces middle
        ∧ (failure = Option.none ∧ traces.length = left ∧ middle = last
          ∨ ∃ error,
              failure = some error
              ∧ traces.length < left
              ∧ sweep.runOnce job (iteration + traces.length) middle = (.error error, last)) := by
  induction left generalizing bench iteration with
  | zero => exact ⟨bench, .none iteration bench, .inl ⟨rfl, rfl, rfl⟩⟩
  | succ left ih =>
      rcases first : sweep.runOnce job iteration bench with ⟨error | trace, next⟩
      · simp only [repeatFrom, first]
        exact ⟨bench, .none iteration bench, .inr ⟨error, rfl, Nat.zero_lt_succ left, first⟩⟩
      · simp only [repeatFrom, first]
        obtain ⟨middle, finished, ending⟩ := ih next (iteration + 1)
        refine ⟨middle, .next first finished, ending.imp ?_ ?_⟩
        · rintro ⟨done, count, same⟩
          exact ⟨done, congrArg (· + 1) count, same⟩
        · rintro ⟨error, stopped, fewer, failed⟩
          rw [Nat.add_right_comm iteration 1] at failed
          exact ⟨error, stopped, Nat.succ_lt_succ fewer, failed⟩

-----------------------------------------------------------------------------------------
-- Variants
-----------------------------------------------------------------------------------------

/-- The outcome of a completed variant: all its repetitions were finished, and their average was
written to its log.
-/
structure Completes (sweep : Sweep) (job : Job) (bench : Bench S D) (outcome : VariantOutcome)
    (last : Bench S D) : Prop where
  status : outcome.status = .completed
  error : outcome.error = none
  count : outcome.runs.length = sweep.config.repetitions
  averaged : outcome.averaged = some (averageRuns outcome.runs)
  finished
    : ∃ middle,
        sweep.Finishes job 1 bench outcome.runs middle
        ∧ logAverages job (averageRuns outcome.runs) middle = (.ok (), last)

/-- The outcome of a variant that failed: the next repetition after the finished ones failed, or all
were finished and their average could not be written to its log.
-/
structure Fails (sweep : Sweep) (job : Job) (bench : Bench S D) (outcome : VariantOutcome)
    (last : Bench S D) : Prop where
  status : outcome.status = .failed
  averaged : outcome.averaged = none
  failure
    : ∃ error middle,
        outcome.error = some error.message
        ∧ sweep.Finishes job 1 bench outcome.runs middle
        ∧ (outcome.runs.length < sweep.config.repetitions
            ∧ sweep.runOnce job (outcome.runs.length + 1) middle = (.error error, last)
          ∨ outcome.runs.length = sweep.config.repetitions
            ∧ ∃ fault,
                error = .io fault
                ∧ logAverages job (averageRuns outcome.runs) middle = (.error fault, last))

theorem runJob_completes_or_fails (sweep : Sweep) (job : Job) (bench : Bench S D)
    (variant : Variant)
    : let done := sweep.runJob job bench
      done.1.query = some job.sql
      ∧ (sweep.Completes job bench (done.1.outcome variant) done.2
        ∨ sweep.Fails job bench (done.1.outcome variant) done.2) := by
  have repeated := sweep.repeatFrom_finishes job bench 1 sweep.config.repetitions
  rw [runJob]
  rcases ran : sweep.repeatFrom job bench 1 sweep.config.repetitions with ⟨runs, failure, next⟩
  rw [ran] at repeated
  obtain ⟨middle, finished, ⟨rfl, count, rfl⟩ | ⟨error, rfl, fewer, failed⟩⟩ := repeated
  · dsimp only
    rcases logged : logAverages job (averageRuns runs) middle with ⟨fault | _, last⟩
    · exact ⟨rfl, .inr ⟨rfl, rfl, .io fault, middle, rfl, finished,
        .inr ⟨count, fault, rfl, logged⟩⟩⟩
    · exact ⟨rfl, .inl ⟨rfl, rfl, count, rfl, middle, finished, logged⟩⟩
  · rw [Nat.add_comm] at failed
    exact ⟨rfl, .inr ⟨rfl, rfl, error, middle, rfl, finished, .inl ⟨fewer, failed⟩⟩⟩

/-- Variants one after the other lead from one bench to another, each with its own outcome. -/
inductive Settles (sweep : Sweep) (base : String)
    : Bench S D → List Variant → List VariantOutcome → Bench S D → Prop
  | nil (bench : Bench S D) : Settles sweep base bench [] [] bench
  | cons {bench next last : Bench S D} {variant : Variant} {job : Job}
    {variants : List Variant} {outcome : VariantOutcome} {outcomes : List VariantOutcome}
    (own : sweep.IsJobOf base variant job)
    (label : outcome.variant = variant.label)
    (query : outcome.query = some job.sql)
    (shape : sweep.Completes job bench outcome next ∨ sweep.Fails job bench outcome next)
    (more : Settles sweep base next variants outcomes last)
    : Settles sweep base bench (variant :: variants) (outcome :: outcomes) last

/-- Variants with jobs settle one after the other, by induction along them. -/
theorem Passes.settles {sweep : Sweep} (accepted : sweep.Accepted) {base : String}
    {bench last : Bench S D} {variants : List Variant} {runs : List (Variant × VariantRun)}
    (h : sweep.Passes base bench variants runs last)
    (all : ∀ variant ∈ variants, variant ∈ sweep.space.variants)
    : sweep.Settles base bench variants (runs.map fun (variant, run) => run.outcome variant)
        last := by
  induction h with
  | nil bench => exact .nil bench
  | @cons bench next last variant run variants runs own on more ih =>
      rw [List.forall_mem_cons] at all
      obtain ⟨job, mine⟩ := accepted.exists_job base all.1
      have settled := sweep.runJob_completes_or_fails job bench variant
      rw [← runVariant_of_job mine, own] at settled
      exact .cons mine rfl settled.1 settled.2 (ih all.2)

end Sweep

-----------------------------------------------------------------------------------------
-- Whole sweeps
-----------------------------------------------------------------------------------------

/-- The accumulator after one more outcome, which is recorded if its variant was completed. -/
def Sweep.recordOutcome (sweep : Sweep) (accumulator : Accumulator Variant)
    (entry : Variant × VariantOutcome) : Accumulator Variant :=
  match entry.2.status, entry.2.averaged with
  | .completed, some averaged => accumulator.record (sweep.groupOf entry.1) averaged
  | _, _ => accumulator

/-- The completed ones among some outcomes, recorded in order under their groups. -/
def Sweep.recorded (sweep : Sweep) (outcomes : List VariantOutcome) : Accumulator Variant :=
  (sweep.space.variants.zip outcomes).foldl sweep.recordOutcome {}

theorem Sweep.accumulate_eq_recorded (sweep : Sweep) {runs : List (Variant × VariantRun)}
    (all : runs.map Prod.fst = sweep.space.variants)
    : sweep.accumulate runs
      = sweep.recorded (runs.map fun (variant, run) => run.outcome variant) := by
  rw [recorded, ← all, List.zip_map', List.foldl_map, accumulate_eq]
  congr 1
  funext accumulator entry
  cases result : entry.2.result <;>
    simp [recordRun, recordOutcome, VariantRun.outcome, result, Except.toOption]

/-- Every variant of an accepted sweep is completed or fails, whatever the operations of its
session and of its storage do. The report has one outcome for each variant in the order of the
sweep. That of a completed variant has the traces of all repetitions and their average and no error.
That of a variant that failed has an error and no average, and the traces of the repetitions that
were finished before the failure, which are all of them only if the average could not be logged. The
completed variants, and no others, are recorded for the summaries. Only the clock of a session that
is not steady ends a sweep before its report, and that of a synthetic session only if it has no room
for all rows of all repetitions.
-/
theorem Sweep.complete_or_fail {S C D W : Type} [RowSource C] [Session S C] [Sink W] [Storage D W]
    {grammar : Grammar} {config : Config} {sweep : Sweep}
    (accepted : Sweep.ofConfig grammar config = .ok sweep) (detailBase summaryBase : String)
    (bench : Bench S D)
    : (∀ error, (sweep.run detailBase summaryBase bench).1 = .error error →
        error = .clockOverflow ∧ ¬ Session.Steady S)
      ∧ (∀ (bench : Bench SyntheticSession D) (error : Error),
          (sweep.run detailBase summaryBase bench).1 = .error error →
            ¬ bench.session.HasRoom (sweep.space.variants.length * sweep.config.repetitions))
      ∧ ∀ report last, sweep.run detailBase summaryBase bench = (.ok report, last) →
          (∃ middle,
            sweep.Settles detailBase bench sweep.space.variants report.variants middle)
          ∧ report.summaries.map SummaryOutcome.content
            = (distinct (sweep.space.variants.map sweep.groupOf)).map
                (sweep.contentOf (sweep.recorded report.variants)) := by
  have promised := Sweep.accepted_of_config accepted
  refine ⟨fun error failed => promised.overflow_of_steady failed,
    fun bench error failed => (promised.overflow_of_hasRoom failed).2, fun report last ran => ?_⟩
  obtain ⟨runs, middle, concludes⟩ := concludes_of_run ran
  have recorded := sweep.accumulate_eq_recorded concludes.variants
  rw [concludes.outcomes, concludes.summaries_content, recorded]
  exact ⟨⟨middle, concludes.passes.settles promised fun _ member => member⟩, rfl⟩

/-- A storage that takes a number of writes and refuses all others. -/
structure Quota where
  writes : Nat

/-- A log with the quota of its storage, until a write is refused. -/
structure QuotaLog where
  quota : Quota
  refused : Bool := false

instance : Sink QuotaLog where
  write log _ :=
    match log.quota.writes with
    | 0 => { log with refused := true }
    | left + 1 => { log with quota := ⟨left⟩ }
  flush log := log
  status log := if log.refused then .error .logFull else .ok ()

instance : Storage Quota QuotaLog where
  openLog quota _ := (.ok { quota }, quota)
  closeLog _ log := log.quota
  save quota _ _ := (.ok (), quota)

/-- After the first of two variants and the repetitions of the second one, there is no room for
the average of the second one. It fails with the traces of all repetitions and is not summarised.
-/
theorem Sweep.complete_or_fail_quota
    : ∃ (config : Config) (sweep : Sweep) (bench last : Bench SyntheticSession Quota)
        (report : Report),
        Sweep.ofConfig Sql.statements? config = .ok sweep
        ∧ sweep.run "detail" "summary" bench = (.ok report, last)
        ∧ report.variants.map (·.status) = [.completed, .failed]
        ∧ report.variants.map (·.runs.length) = [2, 2]
        ∧ report.variants.map (·.error) = [none, some "IO error: log full"]
        ∧ report.summaries.map (·.variants) = [1]
        ∧ (∃ middle,
            sweep.Settles "detail" bench sweep.space.variants report.variants middle)
        ∧ report.summaries.map SummaryOutcome.content
          = (distinct (sweep.space.variants.map sweep.groupOf)).map
              (sweep.contentOf (sweep.recorded report.variants)) := by
  let config : Config := {
    checkpoints := [2]
    repetitions := 2
    query := "select * from t\x7bg\x7d"
    axes := [⟨"g", ["0", "1"]⟩]
    settings := {}
  }
  let session : SyntheticSession := { rows := 2, delay := .ofParts 1 0 }
  let bench : Bench SyntheticSession Quota := { session, files := ⟨13⟩, epoch := ⟨0, 0⟩ }
  obtain ⟨sweep, accepted, report, there, statuses, runs, errors, counts⟩ :=
    Sweep.exists_of_config config
      (fun sweep => ∃ report ∈ (sweep.run "detail" "summary" bench).1.toOption,
        report.variants.map (·.status) = [.completed, .failed]
        ∧ report.variants.map (·.runs.length) = [2, 2]
        ∧ report.variants.map (·.error) = [none, some "IO error: log full"]
        ∧ report.summaries.map (·.variants) = [1])
      (by decide +kernel)
  obtain ⟨_, _, settled⟩ := complete_or_fail accepted "detail" "summary" bench
  obtain ⟨settles, content⟩ := settled report _ (run_of_mem there)
  exact ⟨config, sweep, bench, _, report, accepted, run_of_mem there, statuses, runs, errors,
    counts, settles, content⟩

/-- A clock that overflows in the second of three repetitions, although no query is scripted to fail:
there is no report of the variant.
-/
theorem Sweep.no_report_at_overflow
    : ∃ (config : Config) (sweep : Sweep) (bench : Bench SyntheticSession Files),
        Sweep.ofConfig Sql.statements? config = .ok sweep
        ∧ sweep.space.variants.length = 1
        ∧ bench.session.failures = []
        ∧ (sweep.run "detail" "summary" bench).1 = .error .clockOverflow
        ∧ ∀ report, (sweep.run "detail" "summary" bench).1 ≠ .ok report := by
  let config : Config := {
    checkpoints := [1]
    repetitions := 3
    query := "select * from t"
    axes := []
    settings := {}
  }
  let session : SyntheticSession := { rows := 1, delay := .longest }
  let bench : Bench SyntheticSession Files := { session, files := {}, epoch := ⟨0, 0⟩ }
  obtain ⟨sweep, accepted, single, ended⟩ := Sweep.exists_of_config config
    (fun sweep =>
      sweep.space.variants.length = 1
      ∧ (sweep.run "detail" "summary" bench).1.toOption.isNone = true)
    (by decide +kernel)
  have overflow := overflow_of_isNone ended
  refine ⟨config, sweep, bench, accepted, single, rfl, overflow, fun report returned => ?_⟩
  cases overflow.symm.trans returned

end JoinLatency

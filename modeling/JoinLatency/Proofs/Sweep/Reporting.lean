import JoinLatency.Proofs.Config.Acceptance
import JoinLatency.Sql.Statement
import JoinLatency.Sweep.Run

/-! How sweeps come to their reports. Variants are run one after the other, and the report tells
what became of each of them. Only a clock that would be moved past its last reading ends a sweep
before its report.
-/

namespace JoinLatency

variable {S C D W : Type} [RowSource C] [Session S C] [Sink W] [Storage D W]

-----------------------------------------------------------------------------------------
-- Sweeps of given configurations
-----------------------------------------------------------------------------------------

/-- A configuration whose sweep passes a test is accepted. -/
theorem Sweep.exists_of_config (config : Config) (p : Sweep → Prop) [DecidablePred p]
    (h : (Sweep.ofConfig Sql.statements? config).toOption.any
      (fun sweep => decide (p sweep)) = true)
    : ∃ sweep, Sweep.ofConfig Sql.statements? config = .ok sweep ∧ p sweep := by
  cases accepted : Sweep.ofConfig Sql.statements? config with
  | error fault => simp [accepted, Except.toOption] at h
  | ok sweep => exact ⟨sweep, rfl, by simpa [accepted, Except.toOption] using h⟩

/-- A report that a sweep comes to comes with the bench that the sweep leaves. -/
theorem Sweep.run_of_mem {sweep : Sweep} {detailBase summaryBase : String} {bench : Bench S D}
    {report : Report} (h : report ∈ (sweep.run detailBase summaryBase bench).1.toOption)
    : sweep.run detailBase summaryBase bench
      = (.ok report, (sweep.run detailBase summaryBase bench).2) :=
  Prod.ext (toOption_eq_some.mp h) rfl

-----------------------------------------------------------------------------------------
-- Errors that end the program
-----------------------------------------------------------------------------------------

theorem Error.endsProgram_iff {error : Error}
    : error.endsProgram = true ↔ error = .clockOverflow := by
  cases error <;> simp [endsProgram]

theorem VariantRun.fatal?_eq_some_iff {run : VariantRun} {error : Error}
    : run.fatal? = some error ↔ error = .clockOverflow ∧ run.result = .error .clockOverflow := by
  rw [fatal?]
  cases run.result with
  | ok averaged => simp
  | error fault =>
      by_cases ends : fault = .clockOverflow
      · simp [ends, Error.endsProgram, eq_comm]
      · simp [ends, Bool.eq_false_iff.mpr (mt Error.endsProgram_iff.mp ends)]

theorem VariantRun.fatal?_eq_none_iff {run : VariantRun}
    : run.fatal? = none ↔ run.result ≠ .error .clockOverflow := by
  simp [Option.eq_none_iff_forall_ne_some, fatal?_eq_some_iff]

namespace Sweep

/-- Repetitions that do not end the program start with one that does not. -/
theorem runOnce_of_repeatFrom {sweep : Sweep} {job : Job} {bench : Bench S D} {iteration left : Nat}
    (on : (sweep.repeatFrom job bench iteration (left + 1)).2.1 ≠ some .clockOverflow)
    : (sweep.runOnce job iteration bench).1 ≠ .error .clockOverflow := by
  rw [repeatFrom] at on
  intro overflow
  split at on
  next error next failed =>
    rw [failed] at overflow
    exact on (congrArg some (Except.error.inj overflow))
  next trace next returned =>
    rw [returned] at overflow
    cases overflow

/-- A job that does not end the program has repetitions that do not. -/
theorem repeatFrom_of_runJob {sweep : Sweep} {job : Job} {bench : Bench S D}
    (on : (sweep.runJob job bench).1.fatal? = none)
    : (sweep.repeatFrom job bench 1 sweep.config.repetitions).2.1 ≠ some .clockOverflow := by
  rw [VariantRun.fatal?_eq_none_iff, runJob] at on
  intro overflow
  split at on
  next failed =>
    rw [failed] at overflow
    obtain rfl := Option.some.inj overflow
    exact on rfl
  next finished =>
    rw [finished] at overflow
    cases overflow

-----------------------------------------------------------------------------------------
-- Variants one after the other
-----------------------------------------------------------------------------------------

/-- Variants lead from one bench to another, each with its run. None of them ends the program. -/
inductive Passes (sweep : Sweep) (base : String)
    : Bench S D → List Variant → List (Variant × VariantRun) → Bench S D → Prop
  | nil (bench : Bench S D) : Passes sweep base bench [] [] bench
  | cons {bench next last : Bench S D} {variant : Variant} {run : VariantRun}
    {variants : List Variant} {runs : List (Variant × VariantRun)}
    (own : sweep.runVariant base variant bench = (run, next)) (on : run.fatal? = none)
    (more : Passes sweep base next variants runs last)
    : Passes sweep base bench (variant :: variants) ((variant, run) :: runs) last

theorem Passes.variants {sweep : Sweep} {base : String} {bench last : Bench S D}
    {variants : List Variant} {runs : List (Variant × VariantRun)}
    (h : sweep.Passes base bench variants runs last)
    : runs.map (·.1) = variants := by
  induction h with
  | nil => rfl
  | cons own on more ih => exact congrArg (_ :: ·) ih

/-- Variants are all run unless the clock ends the program, by induction along them. -/
theorem runVariants_cases (sweep : Sweep) (base : String) (bench : Bench S D)
    (variants : List Variant)
    : (∃ runs,
        (sweep.runVariants base bench variants).1 = .ok runs
        ∧ sweep.Passes base bench variants runs (sweep.runVariants base bench variants).2)
      ∨ (sweep.runVariants base bench variants).1 = .error .clockOverflow := by
  induction variants generalizing bench with
  | nil => exact .inl ⟨[], rfl, .nil bench⟩
  | cons variant rest ih =>
      rcases own : sweep.runVariant base variant bench with ⟨run, next⟩
      simp only [runVariants, own]
      cases on : run.fatal? with
      | some error =>
          obtain ⟨rfl, _⟩ := VariantRun.fatal?_eq_some_iff.mp on
          exact .inr rfl
      | none =>
          dsimp only
          obtain ⟨runs, done, more⟩ | ended := ih next
          · exact .inl ⟨(variant, run) :: runs, by rw [done]; rfl, .cons own on more⟩
          · exact .inr (by rw [ended]; rfl)

-----------------------------------------------------------------------------------------
-- Whole sweeps
-----------------------------------------------------------------------------------------

/-- A report is made of some runs of all variants. -/
structure Reports (sweep : Sweep) (runs : List (Variant × VariantRun)) (report : Report)
    : Prop where
  variants : runs.map (·.1) = sweep.space.variants
  outcomes : report.variants = runs.map fun (variant, run) => run.outcome variant

/-- A sweep comes to a report: from the runs of all variants, its summaries are written on the
bench that the variants leave, and then the report itself.
-/
structure Concludes (sweep : Sweep) (detailBase summaryBase : String) (bench : Bench S D)
    (runs : List (Variant × VariantRun)) (middle : Bench S D) (report : Report)
    (last : Bench S D) : Prop extends Reports sweep runs report where
  ran : sweep.runVariants detailBase bench sweep.space.variants = (.ok runs, middle)
  passes : sweep.Passes detailBase bench sweep.space.variants runs middle
  summaries
    : report.summaries
      = (sweep.writeSummaries (sweep.accumulate runs) summaryBase middle
          (distinct (sweep.space.variants.map sweep.groupOf))).1
  last
    : last
      = sweep.writeReport report
          (sweep.writeSummaries (sweep.accumulate runs) summaryBase middle
            (distinct (sweep.space.variants.map sweep.groupOf))).2

variable {sweep : Sweep} {detailBase summaryBase : String} {bench last : Bench S D}

theorem concludes_of_run {report : Report}
    (ran : sweep.run detailBase summaryBase bench = (.ok report, last))
    : ∃ runs middle, sweep.Concludes detailBase summaryBase bench runs middle report last := by
  have cases := sweep.runVariants_cases detailBase bench sweep.space.variants
  rw [run] at ran
  rcases all : sweep.runVariants detailBase bench sweep.space.variants with ⟨outcome, middle⟩
  rw [all] at ran cases
  obtain ⟨runs, rfl, passes⟩ | rfl := cases
  · obtain ⟨made, rfl⟩ := Prod.mk.inj ran
    obtain rfl := Except.ok.inj made
    exact ⟨runs, middle, ⟨passes.variants, rfl⟩, all, passes, rfl, rfl⟩
  · cases ran

/-- Only the clock ends a sweep before its report. -/
theorem overflow_of_run {error : Error}
    (failed : (sweep.run detailBase summaryBase bench).1 = .error error)
    : error = .clockOverflow
      ∧ (sweep.runVariants detailBase bench sweep.space.variants).1 = .error .clockOverflow := by
  have cases := sweep.runVariants_cases detailBase bench sweep.space.variants
  rw [run] at failed
  rcases all : sweep.runVariants detailBase bench sweep.space.variants with ⟨outcome, middle⟩
  rw [all] at failed cases
  obtain ⟨runs, rfl, passes⟩ | rfl := cases
  · cases failed
  · exact ⟨(Except.error.inj failed).symm, rfl⟩

theorem overflow_of_isNone (h : (sweep.run detailBase summaryBase bench).1.toOption.isNone = true)
    : (sweep.run detailBase summaryBase bench).1 = .error .clockOverflow := by
  cases failed : (sweep.run detailBase summaryBase bench).1 with
  | ok report => simp [failed, Except.toOption] at h
  | error error => rw [(overflow_of_run failed).1]

end Sweep

end JoinLatency

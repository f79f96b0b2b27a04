import JoinLatency.Proofs.Sweep.Scripts
import JoinLatency.Proofs.Sweep.Writing

/-! Jobs on synthetic sessions. Unless its clock overflows, every repetition of a query goes like
one trial on a clock that starts at zero, so that the trial tells what becomes of a job. What a job
adds to its log is known line by line, up to the times at which its repetitions start.
-/

namespace JoinLatency

-----------------------------------------------------------------------------------------
-- Texts at the ends of files
-----------------------------------------------------------------------------------------

namespace Files

/-- The tree after some texts were written to the end of the file at a location. -/
def appendAll (files : Files) (location : Location) (texts : List String) : Files :=
  texts.foldl (fun files text => files.appendAt location text.toUTF8) files

theorem appendAll_append (files : Files) (location : Location) (first second : List String)
    : files.appendAll location (first ++ second)
      = (files.appendAll location first).appendAll location second :=
  List.foldl_append

/-- Texts at the end of a file leave the directories, by induction along them. -/
theorem SameDirectories.appendAll {files : Files} {location : Location}
    (free : (files.node? location).any FileNode.isDirectory = false) (texts : List String)
    : SameDirectories files (files.appendAll location texts) := by
  induction texts generalizing files with
  | nil => exact .refl files
  | cons text rest ih =>
      have first : SameDirectories files (files.appendAt location text.toUTF8) := .put free _
      exact first.trans (ih ((first.directory location).symm.trans free))

end Files

/-- The number of repetitions that were tried: those that were finished, and one that failed. -/
def VariantOutcome.attempts (outcome : VariantOutcome) : Nat :=
  match outcome.status with
  | .completed => outcome.runs.length
  | .failed => outcome.runs.length + 1

namespace Sweep

-----------------------------------------------------------------------------------------
-- One repetition
-----------------------------------------------------------------------------------------

/-- The run that every repetition of a query goes like. -/
def trial (sweep : Sweep) (session : SyntheticSession) (sql : String)
    : Finished Float SyntheticCursor Log :=
  sweep.timer.run ({ session.cursor sql with clock := .zero } : SyntheticCursor) ({} : Log)

/-- A run goes like the trial wherever its clock starts, unless the clock overflows. -/
theorem trial_alike (sweep : Sweep) (session : SyntheticSession) (sql : String)
    (clock : Duration)
    : let finished := sweep.timer.run ({ session.cursor sql with clock } : SyntheticCursor)
        ({} : Log)
      finished.result = .error .clockOverflow
      ∨ finished.result = (sweep.trial session sql).result
        ∧ finished.log = (sweep.trial session sql).log := by
  have ahead : ({ session.cursor sql with clock } : SyntheticCursor)
      = SyntheticCursor.later { session.cursor sql with clock := .zero } clock := by
    simp [SyntheticCursor.later, Duration.later, Duration.zero]
  cases sweep.timer.run_alike Sink.Alike.same (SyntheticCursor.alike clock) ahead
      (rfl : ({} : Log) = {}) with
  | overflow _ ended => exact .inl ended
  | same result log _ => exact .inr ⟨result, log⟩

/-- When a repetition starts: the moment that its header tells, and the reading of the clock. -/
structure Start where
  moment : Moment
  clock : Duration

/-- A repetition that starts there does not overflow the clock. -/
def ComesToEnd (sweep : Sweep) (session : SyntheticSession) (sql : String) (start : Start) : Prop :=
  let cursor : SyntheticCursor := { session.cursor sql with clock := start.clock }
  (sweep.timer.run cursor ({} : Log)).result ≠ .error .clockOverflow

/-- The lines before the run of a repetition: a rule, the time, the numbered query, and the time
before the first fetch, which is none on a synthetic session.
-/
def opening (label sql : String) (iteration : Nat) (moment : Moment) : String :=
  "========================================================\n"
    ++ s!"Time of the test run: {moment.toLogText}\n{label}: {sql} #{iteration}\n"
    ++ "  time before fetch: 0.000000 sec\n"

/-- What one repetition of a query writes to its log: the lines before its run, and what the run
tells.
-/
def entry (sweep : Sweep) (session : SyntheticSession) (sql : String) (iteration : Nat)
    (start : Start) : String :=
  let cursor : SyntheticCursor := { session.cursor sql with clock := start.clock }
  opening sweep.config.label sql iteration start.moment
    ++ (sweep.timer.run cursor ({} : Log)).log.text

/-- What repetitions of a query write to their log, numbered from a first one on. -/
def entries (sweep : Sweep) (session : SyntheticSession) (sql : String) (first : Nat)
    (starts : List Start) : List String :=
  (starts.zipIdx first).map fun (start, iteration) => sweep.entry session sql iteration start

/-- Sessions with the same script answer a query alike. -/
theorem cursor_congr {left right : SyntheticSession} (same : left.script = right.script)
    (sql : String) (clock : Duration)
    : ({ left.cursor sql with clock } : SyntheticCursor) = { right.cursor sql with clock } := by
  simp only [SyntheticSession.script, Prod.mk.injEq] at same
  obtain ⟨rows, delay, failures⟩ := same
  simp only [SyntheticSession.cursor, SyntheticSession.failureOf?, rows, delay, failures]

theorem trial_congr (sweep : Sweep) {left right : SyntheticSession}
    (same : left.script = right.script) (sql : String)
    : sweep.trial left sql = sweep.trial right sql := by
  rw [trial, trial, cursor_congr same]

theorem entry_congr (sweep : Sweep) {left right : SyntheticSession}
    (same : left.script = right.script) (sql : String)
    : sweep.entry left sql = sweep.entry right sql := by
  funext iteration start
  rw [entry, entry, cursor_congr same]

theorem comesToEnd_congr (sweep : Sweep) {left right : SyntheticSession}
    (same : left.script = right.script) (sql : String)
    : sweep.ComesToEnd left sql = sweep.ComesToEnd right sql := by
  funext start
  rw [ComesToEnd, ComesToEnd, cursor_congr same]

variable {bench : Bench SyntheticSession Files} {job : Job} {location : Location}

/-- When a repetition on a bench starts. -/
def startOn (bench : Bench SyntheticSession Files) : Start where
  moment := bench.moment
  clock := bench.session.clock

theorem opening_eq (label sql : String) (iteration : Nat) (moment : Moment)
    : opening label sql iteration moment
      = "" ++ LogLine.header moment.toLogText label sql iteration
        ++ LogLine.timeBeforeFetch Duration.zero.toDouble := by
  have waited : LogLine.timeBeforeFetch Duration.zero.toDouble
      = "  time before fetch: 0.000000 sec\n" := by
    decide +kernel
  rw [waited, String.empty_append]
  rfl

/-- A repetition with an open log is a run of the timer, and writes its entry. -/
theorem runQuery_synthetic (sweep : Sweep) (job : Job) (iteration : Nat)
    (bench : Bench SyntheticSession Files) (location : Location)
    : let done := sweep.runQuery job iteration bench ({ location } : FileLog)
      done.1 = (sweep.timer.run (bench.session.cursor job.sql) ({} : Log)).result
      ∧ done.2.1
        = { location, text := sweep.entry bench.session job.sql iteration (startOn bench) } := by
  have waited : bench.session.clock.since bench.session.clock = .zero := by
    simp [Duration.since, Duration.zero]
  have opened : sweep.runQuery job iteration bench ({ location } : FileLog)
      = let opening := "" ++ LogLine.header bench.moment.toLogText sweep.config.label job.sql
            iteration ++ LogLine.timeBeforeFetch
              (bench.session.clock.since bench.session.clock).toDouble
        let finished := sweep.timer.run (bench.session.cursor job.sql)
          ({ location, text := opening } : FileLog)
        (finished.result, finished.log, _) := rfl
  rw [opened, waited, ← opening_eq]
  simp only [Timer.run_fileLog]
  exact ⟨trivial, rfl⟩

/-- A repetition whose log can be opened is a run of the timer, and adds its entry to the log. -/
theorem runOnce_synthetic (sweep : Sweep) (iteration : Nat)
    (writes : bench.files.writable job.path = .ok location)
    : (sweep.runOnce job iteration bench).1
        = (sweep.timer.run (bench.session.cursor job.sql) ({} : Log)).result
      ∧ (sweep.runOnce job iteration bench).2.files
        = bench.files.appendAt location
            (sweep.entry bench.session job.sql iteration (startOn bench)).toUTF8 := by
  obtain ⟨result, log⟩ := sweep.runQuery_synthetic job iteration bench location
  obtain ⟨_, files⟩ := sweep.runQuery_files job iteration bench { location }
  rw [runOnce, Files.openLog_of_writable writes]
  dsimp only [Storage.closeLog]
  rw [log, files]
  exact ⟨result, rfl⟩

theorem comesToEnd_startOn (sweep : Sweep) (iteration : Nat)
    (writes : bench.files.writable job.path = .ok location)
    (on : (sweep.runOnce job iteration bench).1 ≠ .error .clockOverflow)
    : sweep.ComesToEnd bench.session job.sql (startOn bench) := by
  rw [(sweep.runOnce_synthetic iteration writes).1] at on
  exact on

/-- A repetition whose log can be opened comes to the result of the trial, unless the clock
overflows.
-/
theorem runOnce_result (sweep : Sweep) (iteration : Nat)
    (writes : bench.files.writable job.path = .ok location)
    (on : (sweep.runOnce job iteration bench).1 ≠ .error .clockOverflow)
    : (sweep.runOnce job iteration bench).1 = (sweep.trial bench.session job.sql).result := by
  rw [(sweep.runOnce_synthetic iteration writes).1] at on ⊢
  exact ((sweep.trial_alike bench.session job.sql bench.session.clock).resolve_left on).1

-----------------------------------------------------------------------------------------
-- Repetitions
-----------------------------------------------------------------------------------------

/-- If the trial fails, so does the first repetition, and no other is tried. -/
theorem repeatFrom_of_error (sweep : Sweep) (iteration left : Nat)
    (writes : bench.files.writable job.path = .ok location) {error : Error}
    (failed : (sweep.trial bench.session job.sql).result = .error error)
    (on : (sweep.repeatFrom job bench iteration (left + 1)).2.1 ≠ some .clockOverflow)
    : let ending := sweep.repeatFrom job bench iteration (left + 1)
      ending.1 = []
      ∧ ending.2.1 = some error
      ∧ sweep.ComesToEnd bench.session job.sql (startOn bench)
      ∧ ending.2.2.files
        = bench.files.appendAll location
            (sweep.entries bench.session job.sql iteration [startOn bench]) := by
  have ended := sweep.comesToEnd_startOn iteration writes (runOnce_of_repeatFrom on)
  have result := (sweep.runOnce_result iteration writes (runOnce_of_repeatFrom on)).trans failed
  have files := (sweep.runOnce_synthetic iteration writes).2
  rcases first : sweep.runOnce job iteration bench with ⟨outcome, next⟩
  rw [first] at result files
  obtain rfl : outcome = .error error := result
  simp only [repeatFrom, first]
  exact ⟨trivial, trivial, ended, files⟩

/-- If the trial leaves a trace, so do all repetitions, by induction on their number. -/
theorem repeatFrom_of_ok (sweep : Sweep) (iteration left : Nat)
    (writes : bench.files.writable job.path = .ok location) {trace : Trace Float}
    (kept : (sweep.trial bench.session job.sql).result = .ok trace)
    (on : (sweep.repeatFrom job bench iteration left).2.1 ≠ some .clockOverflow)
    : let ending := sweep.repeatFrom job bench iteration left
      ending.1 = List.replicate left trace
      ∧ ending.2.1 = none
      ∧ ∃ starts : List Start,
          starts.length = left
          ∧ (∀ start ∈ starts, sweep.ComesToEnd bench.session job.sql start)
          ∧ ending.2.2.files
            = bench.files.appendAll location
                (sweep.entries bench.session job.sql iteration starts) := by
  induction left generalizing bench iteration with
  | zero => exact ⟨rfl, rfl, [], rfl, by simp, rfl⟩
  | succ left ih =>
      have ended := sweep.comesToEnd_startOn iteration writes (runOnce_of_repeatFrom on)
      have free := (Files.writable_eq_ok writes).2
      have script := sweep.runOnce_script job iteration bench
      have result := (sweep.runOnce_result iteration writes (runOnce_of_repeatFrom on)).trans kept
      have files := (sweep.runOnce_synthetic iteration writes).2
      rcases first : sweep.runOnce job iteration bench with ⟨outcome, next⟩
      rw [first] at result files script
      obtain rfl : outcome = .ok trace := result
      simp only [repeatFrom, first] at on ⊢
      have appended : next.files = bench.files.appendAll location
          [sweep.entry bench.session job.sql iteration (startOn bench)] := files
      have open_ : next.files.writable job.path = .ok location := by
        rw [appended]
        exact (Files.SameDirectories.appendAll free _).writable writes
      obtain ⟨traces, failure, starts, count, others, later⟩ := ih (iteration + 1) open_
        ((congrArg Finished.result (sweep.trial_congr script job.sql)).trans kept) on
      rw [sweep.comesToEnd_congr script] at others
      refine ⟨?_, failure, startOn bench :: starts, congrArg (· + 1) count,
        List.forall_mem_cons.mpr ⟨ended, others⟩, ?_⟩
      · rw [traces, List.replicate_succ]
      · rw [later, appended, ← Files.appendAll_append, entries, sweep.entry_congr script]
        rfl

-----------------------------------------------------------------------------------------
-- Jobs
-----------------------------------------------------------------------------------------

/-- What a job with an open log leaves: the failure of its first repetition, or the trace of the
trial once for every repetition, and their average.
-/
def jobRun (sweep : Sweep) (session : SyntheticSession) (sql : String) : VariantRun :=
  match (sweep.trial session sql).result with
  | .error error => { query := some sql, runs := [], result := .error error }
  | .ok trace =>
      let runs := List.replicate sweep.config.repetitions trace
      { query := some sql, runs, result := .ok (averageRuns runs) }

theorem jobRun_congr (sweep : Sweep) {left right : SyntheticSession}
    (same : left.script = right.script) (sql : String)
    : sweep.jobRun left sql = sweep.jobRun right sql := by
  rw [jobRun, jobRun, sweep.trial_congr same]

/-- At least one repetition is tried. -/
theorem attempts_jobRun (sweep : Sweep) (some : sweep.config.repetitions ≠ 0)
    (session : SyntheticSession) (sql : String) (variant : Variant)
    : ((sweep.jobRun session sql).outcome variant).attempts ≠ 0 := by
  rw [jobRun]
  split <;> simp [VariantRun.outcome, VariantOutcome.attempts, some]

/-- What a job writes to its log behind the entries of a completed variant: its query, and the
averages at each count.
-/
def averagesText (sql : String) (averaged : AveragedTrace) : String :=
  s!"\tQuery: {sql}\n"
    ++ String.join (averaged.points.map fun point =>
        s!"K val:{point.count}\tAverage time (unweighted): {Decimal.fixed 6 point.meanElapsed}"
          ++ s!"\t Average time (weighted): {Decimal.fixed 6 point.meanDecayed}\n")

/-- What a job with some outcome adds to its log: an entry for each repetition that was tried, and
the averages if there are any.
-/
def logTexts (sweep : Sweep) (session : SyntheticSession) (sql : String)
    (outcome : VariantOutcome) (starts : List Start) : List String :=
  sweep.entries session sql 1 starts ++ outcome.averaged.toList.map (averagesText sql)

/-- A job whose log cannot be opened fails before its first repetition. -/
theorem runJob_of_refused {fault : IoFault} (sweep : Sweep) (any : sweep.config.repetitions ≠ 0)
    (refused : bench.files.writable job.path = .error fault)
    : sweep.runJob job bench
      = ({ query := some job.sql, runs := [], result := .error (.io fault) }, bench) := by
  obtain ⟨left, count⟩ := Nat.exists_eq_succ_of_ne_zero any
  simp only [runJob, count, repeatFrom, runOnce, Files.openLog_of_refused refused]

/-- A job with an open log leaves what the trial tells, and its texts in the log. -/
theorem runJob_trial (sweep : Sweep) (some : sweep.config.repetitions ≠ 0)
    (writes : bench.files.writable job.path = .ok location)
    (on : (sweep.runJob job bench).1.fatal? = none)
    : (sweep.runJob job bench).1 = sweep.jobRun bench.session job.sql
      ∧ ∀ variant : Variant,
          let outcome := (sweep.runJob job bench).1.outcome variant
          ∃ starts : List Start,
            starts.length = outcome.attempts
            ∧ (∀ start ∈ starts, sweep.ComesToEnd bench.session job.sql start)
            ∧ (sweep.runJob job bench).2.files
              = bench.files.appendAll location
                  (sweep.logTexts bench.session job.sql outcome starts) := by
  have repeated := repeatFrom_of_runJob on
  rcases ran : sweep.repeatFrom job bench 1 sweep.config.repetitions with ⟨runs, failure, next⟩
  cases tried : (sweep.trial bench.session job.sql).result with
  | error error =>
      obtain ⟨left, count⟩ := Nat.exists_eq_succ_of_ne_zero some
      rw [count] at repeated
      obtain ⟨none, failed, ended, files⟩ := sweep.repeatFrom_of_error 1 left writes tried repeated
      rw [← Nat.succ_eq_add_one, ← count, ran] at none failed files
      obtain rfl : runs = [] := none
      obtain rfl : failure = Option.some error := failed
      simp only [runJob, jobRun, ran, tried]
      refine ⟨trivial, fun variant => ⟨[startOn bench], rfl, ?_, files⟩⟩
      exact List.forall_mem_singleton.mpr ended
  | ok trace =>
      obtain ⟨traces, finished, starts, count, ended, files⟩ :=
        sweep.repeatFrom_of_ok 1 sweep.config.repetitions writes tried repeated
      rw [ran] at traces finished files
      obtain rfl : runs = _ := traces
      obtain rfl : failure = none := finished
      have open_ : next.files.writable job.path = .ok location := by
        rw [files]
        exact (Files.SameDirectories.appendAll (Files.writable_eq_ok writes).2 _).writable writes
      simp only [runJob, jobRun, ran, tried, logAverages_of_writable open_]
      refine ⟨trivial, fun variant => ⟨starts, ?_, ended, ?_⟩⟩
      · rw [count]
        exact List.length_replicate.symm
      · rw [logTexts, Files.appendAll_append, ← files]
        rfl

end Sweep

end JoinLatency

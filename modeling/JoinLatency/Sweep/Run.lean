import JoinLatency.Config.Validation
import JoinLatency.Session.Basic
import JoinLatency.Storage
import JoinLatency.Sweep.Report

/-! Running a sweep. Every variant gets its settings, its repetitions and its detail log; one that
fails leaves the others alone. The averages of the completed variants are summarised by group. Only
an error that ends the program ends a sweep before its report.
-/

namespace JoinLatency

/-- A sweep that can be run: a valid configuration with its parts. -/
structure Sweep where
  config : Config
  timer : Timer Float
  space : ParamSpace
  query : QueryTemplate
  detail : Template
  summary : Template

/-- The sweep of a configuration, if it is valid under a grammar. -/
def Sweep.ofConfig (grammar : Grammar) (config : Config) : Except Error Sweep := do
  config.validate grammar
  return {
    config := config
    timer := ← config.timer
    space := ← config.space
    query := ← config.queryTemplate grammar
    detail := ← config.detailTemplate
    summary := ← config.summaryTemplate
  }

/-- What a sweep works on: a session, a storage for its files, and the moment at which the clock of
the session read zero.
-/
structure Bench (S D : Type) where
  session : S
  files : D
  epoch : Moment

/-- What a variant leaves: its query, the traces of its finished repetitions, and the average of
all of them or the reason why there is none.
-/
structure VariantRun where
  query : Option String
  runs : List (Trace Float)
  result : Except Error AveragedTrace

/-- The error of a variant, if it ends the program. -/
def VariantRun.fatal? (run : VariantRun) : Option Error :=
  match run.result with
  | .ok _ => none
  | .error error => if error.endsProgram then some error else none

/-- The outcome of a variant. -/
def VariantRun.outcome (variant : Variant) (run : VariantRun) : VariantOutcome where
  variant := variant.label
  query := run.query
  status :=
    match run.result with
    | .ok _ => .completed
    | .error _ => .failed
  error :=
    match run.result with
    | .ok _ => none
    | .error error => some error.message
  runs := run.runs
  averaged := run.result.toOption

/-- The distinct elements of a list in the order of their first occurrence. -/
def distinct {α : Type} [DecidableEq α] : List α → List α
  | [] => []
  | first :: rest => first :: (distinct rest).filter (· != first)

/-- The value of a name in a path: the base for its own name, a parameter for the others. -/
def pathValue (base : String) (variant : Variant) (name : String) : Option String :=
  if name == Config.baseName then some base else variant.get? name

/-- The moment that the clock of a bench shows. -/
def Bench.moment {S C D : Type} [RowSource C] [Session S C] (bench : Bench S D) : Moment :=
  bench.epoch.plus (Session.now bench.session)

namespace Sweep

variable {S C D W : Type} [RowSource C] [Session S C] [Sink W] [Storage D W]

/-- A query with its settings and the path of its detail log. -/
structure Job where
  sql : String
  settings : Settings
  path : String
  deriving Repr

/-- One repetition with an open detail log: the settings are applied, the query is submitted,
and the timer runs on its cursor. Nothing follows a failure of the session or of the log, but a
cursor that was lent out is taken back.
-/
def runQuery (sweep : Sweep) (job : Job) (iteration : Nat) (bench : Bench S D) (log : W)
    : Except Error (Trace Float) × W × Bench S D :=
  match Session.configure bench.session job.settings with
  | (.error error, session) => (.error error, log, { bench with session })
  | (.ok (), session) =>
      let bench := { bench with session }
      let header := LogLine.header bench.moment.toLogText sweep.config.label job.sql iteration
      let log := Sink.record log header
      match Sink.status log with
      | .error fault => (.error (.io fault), log, bench)
      | .ok () =>
          let submitted := Session.now session
          match Session.submit session job.sql with
          | (.error error, session) => (.error error, log, { bench with session })
          | (.ok cursor, session) =>
              let waited := (RowSource.now cursor).since submitted
              let log := Sink.record log (LogLine.timeBeforeFetch waited.toDouble)
              match Sink.status log with
              | .error fault =>
                  let session := Session.release session cursor
                  (.error (.io fault), log, { bench with session })
              | .ok () =>
                  let finished := sweep.timer.run cursor log
                  (finished.result, finished.log,
                    { bench with session := Session.release session finished.source })

/-- One repetition: its detail log is opened first, and closed in any case. -/
def runOnce (sweep : Sweep) (job : Job) (iteration : Nat) (bench : Bench S D)
    : Except Error (Trace Float) × Bench S D :=
  match Storage.openLog bench.files job.path with
  | (.error fault, files) => (.error (.io fault), { bench with files })
  | (.ok log, files) =>
      let (result, log, bench) := sweep.runQuery job iteration { bench with files } log
      (result, { bench with files := Storage.closeLog bench.files log })

/-- A number of repetitions from one on, up to the first that fails. -/
def repeatFrom (sweep : Sweep) (job : Job) (bench : Bench S D) (iteration : Nat)
    : Nat → List (Trace Float) × Option Error × Bench S D
  | 0 => ([], none, bench)
  | left + 1 =>
      match sweep.runOnce job iteration bench with
      | (.error error, bench) => ([], some error, bench)
      | (.ok trace, bench) =>
          let (traces, failure, bench) := repeatFrom sweep job bench (iteration + 1) left
          (trace :: traces, failure, bench)

/-- The settings and the log path of a variant whose query is known. -/
def job (sweep : Sweep) (variant : Variant) (base sql : String) : Except Error Job := do
  return {
    sql := sql
    settings := ← sweep.config.settings.render variant
    path := ← sweep.detail.renderWith (pathValue base variant)
  }

/-- The averages of a job, written to the end of its detail log. -/
def logAverages (job : Job) (averaged : AveragedTrace) (bench : Bench S D)
    : Except IoFault Unit × Bench S D :=
  match Storage.openLog bench.files job.path with
  | (.error fault, files) => (.error fault, { bench with files })
  | (.ok log, files) =>
      let log := Sink.record log (averaged.logText job.sql)
      (Sink.status log, { bench with files := Storage.closeLog files log })

/-- The repetitions of a job and the averages at the end of its log. -/
def runJob (sweep : Sweep) (job : Job) (bench : Bench S D) : VariantRun × Bench S D :=
  match sweep.repeatFrom job bench 1 sweep.config.repetitions with
  | (runs, some error, bench) => ({ query := some job.sql, runs, result := .error error }, bench)
  | (runs, none, bench) =>
      let averaged := averageRuns runs
      match logAverages job averaged bench with
      | (.error fault, bench) =>
          ({ query := some job.sql, runs, result := .error (.io fault) }, bench)
      | (.ok (), bench) => ({ query := some job.sql, runs, result := .ok averaged }, bench)

/-- One variant. -/
def runVariant (sweep : Sweep) (base : String) (variant : Variant) (bench : Bench S D)
    : VariantRun × Bench S D :=
  match sweep.query.render variant with
  | .error error => ({ query := none, runs := [], result := .error error }, bench)
  | .ok sql =>
      match sweep.job variant base sql with
      | .error error => ({ query := some sql, runs := [], result := .error error }, bench)
      | .ok job => sweep.runJob job bench

/-- All variants, one after the other, unless the program ends in one of them. -/
def runVariants (sweep : Sweep) (base : String) (bench : Bench S D)
    : List Variant → Except Error (List (Variant × VariantRun)) × Bench S D
  | [] => (.ok [], bench)
  | variant :: rest =>
      let (run, bench) := sweep.runVariant base variant bench
      match run.fatal? with
      | some error => (.error error, bench)
      | none =>
          let (runs, bench) := runVariants sweep base bench rest
          (runs.map ((variant, run) :: ·), bench)

/-- The group of a variant. -/
def groupOf (sweep : Sweep) (variant : Variant) : Variant :=
  variant.project sweep.config.groupBy

/-- The averages of the completed variants, recorded in order under their groups. -/
def accumulate (sweep : Sweep) (runs : List (Variant × VariantRun)) : Accumulator Variant :=
  runs.foldl
    (fun accumulator (variant, run) =>
      match run.result with
      | .ok averaged => accumulator.record (sweep.groupOf variant) averaged
      | .error _ => accumulator)
    {}

/-- The summary of a group, written to the path of the group. -/
def writeSummary (sweep : Sweep) (accumulator : Accumulator Variant) (base : String)
    (group : Variant) (bench : Bench S D) : SummaryOutcome × Bench S D :=
  let lines := accumulator.summary group sweep.timer.schedule sweep.config.missing
  let outcome : SummaryOutcome := {
    group := group.label
    path := ""
    variants := accumulator.contributors group
    lines := lines
    error := none
  }
  match sweep.summary.renderWith (pathValue base group) with
  | .error error => ({ outcome with error := some error.message }, bench)
  | .ok path =>
      match Storage.save bench.files path (sweep.config.summaryFormat.text lines) with
      | (.error fault, files) =>
          ({ outcome with path, error := some (Error.io fault).message }, { bench with files })
      | (.ok (), files) => ({ outcome with path }, { bench with files })

/-- The summaries of some groups, one after the other. -/
def writeSummaries (sweep : Sweep) (accumulator : Accumulator Variant) (base : String)
    (bench : Bench S D) : List Variant → List SummaryOutcome × Bench S D
  | [] => ([], bench)
  | group :: rest =>
      let (outcome, bench) := sweep.writeSummary accumulator base group bench
      let (outcomes, bench) := writeSummaries sweep accumulator base bench rest
      (outcome :: outcomes, bench)

/-- The report in its file, if a file is wanted and can be written. -/
def writeReport (sweep : Sweep) (report : Report) (bench : Bench S D) : Bench S D :=
  match sweep.config.reportPath with
  | none => bench
  | some path =>
      { bench with files := (Storage.save bench.files path report.toJson.indented).2 }

/-- A whole sweep with the bases of its detail and summary paths. It comes to a report, unless the
program ends in one of the variants.
-/
def run (sweep : Sweep) (detailBase summaryBase : String) (bench : Bench S D)
    : Except Error Report × Bench S D :=
  let startedAt := bench.moment
  let variants := sweep.space.variants
  match sweep.runVariants detailBase bench variants with
  | (.error error, bench) => (.error error, bench)
  | (.ok runs, bench) =>
      let groups := distinct (variants.map sweep.groupOf)
      let (summaries, bench) :=
        sweep.writeSummaries (sweep.accumulate runs) summaryBase bench groups
      let report : Report := {
        startedAt := startedAt
        finishedAt := bench.moment
        variants := runs.map fun (variant, run) => run.outcome variant
        summaries := summaries
      }
      (.ok report, sweep.writeReport report bench)

end Sweep

end JoinLatency

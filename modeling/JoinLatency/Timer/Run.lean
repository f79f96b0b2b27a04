import JoinLatency.Timer.Log
import JoinLatency.Timer.RowSource
import JoinLatency.Timer.Schedule
import JoinLatency.Timer.Trace

/-! Timing a run. Rows are fetched until the source ends or fails or the budget is used up. Every
checkpoint that is reached leaves a sample, and a run that stops elsewhere one more.
-/

namespace JoinLatency

/-- How runs are timed: at which rows, with which decay, for how long, and how often the log
tells of progress (never, if the interval is zero).
-/
structure Timer (R : Type) where
  schedule : Schedule
  sigma : R
  budget : Duration := Duration.ofParts 900 0
  progressInterval : Nat := 50

/-- The timer of a schedule and a decay factor strictly between zero and one. -/
def Timer.ofSigma (schedule : Schedule) (sigma : Float) : Except Error (Timer Float) :=
  if 0 < sigma && sigma < 1 then .ok { schedule, sigma }
  else .error (.invalidConfig (.sigmaOutside sigma))

variable {R : Type} [Seconds R]

/-- The measurements of a run up to a row: the elapsed time, the decayed time, the factor of the
next row, and the reading at this one.
-/
structure Tally (R : Type) where
  fetched : Nat
  elapsed : R
  weighted : R
  factor : R
  previous : Duration

namespace Tally

/-- Before the first row. -/
def start (sigma : R) (now : Duration) : Tally R where
  fetched := 0
  elapsed := Seconds.zero
  weighted := Seconds.zero
  factor := sigma
  previous := now

/-- One more row at a reading: its gap counts with the current factor, and the factor decays. -/
def next (sigma : R) (start now : Duration) (tally : Tally R) : Tally R where
  fetched := tally.fetched + 1
  elapsed := Seconds.ofDuration (now.since start)
  weighted := tally.weighted + Seconds.ofDuration (now.since tally.previous) * tally.factor
  factor := tally.factor * sigma
  previous := now

/-- The sample of a tally. -/
def sample (kind : SampleKind) (tally : Tally R) : Sample R where
  count := tally.fetched
  elapsed := tally.elapsed
  decayed := tally.weighted
  kind := kind

end Tally

/-- A run in progress: its measurements, the checkpoints ahead, the samples taken in reverse,
whether the last row was a checkpoint, the row at which the log tells of progress next (none, if
it is zero), and the log.
-/
structure Course (R W : Type) where
  tally : Tally R
  ahead : List Nat
  samples : List (Sample R) := []
  recorded : Bool := false
  progressAt : Nat
  log : W

variable {W : Type}

namespace Course

/-- The course of a run before its first row. -/
def fresh (timer : Timer R) (start : Duration) (log : W) : Course R W where
  tally := Tally.start timer.sigma start
  ahead := timer.schedule.checkpoints
  progressAt := timer.progressInterval
  log := log

/-- Whether the log tells of progress at a row. -/
def tells (course : Course R W) (tally : Tally R) : Bool :=
  course.progressAt != 0 && tally.fetched == course.progressAt

/-- Whether the rows so far have used up the budget. -/
def spent (timer : Timer R) (course : Course R W) : Bool :=
  Seconds.reaches course.tally.elapsed (Seconds.ofDuration timer.budget)

variable [Sink W]

/-- The log after a row that it may have to tell of. -/
def logProgress (told : Bool) (log : W) (tally : Tally R) : W :=
  if told then Sink.record log (LogLine.progress tally.fetched tally.elapsed tally.weighted)
  else log

/-- The course after one more row: the log tells of progress, which is due again one interval
later, and a checkpoint leaves a sample.
-/
def advance (timer : Timer R) (start now : Duration) (course : Course R W) : Course R W :=
  let tally := course.tally.next timer.sigma start now
  let told := course.tells tally
  let due := course.ahead.head? == some tally.fetched
  {
    tally := tally
    ahead := if due then course.ahead.tail else course.ahead
    samples := if due then tally.sample .checkpoint :: course.samples else course.samples
    recorded := due
    progressAt := if told then course.progressAt + timer.progressInterval else course.progressAt
    log := logProgress told course.log tally
  }

/-- The log and the trace of a stopped run. A run with rows that does not end on a checkpoint
adds a sample and a line for its last row.
-/
def close (course : Course R W) (stop : StopReason) : W × Trace R :=
  let tally := course.tally
  let open_ := tally.fetched != 0 && !course.recorded
  let log :=
    if open_ then
      Sink.record course.log (LogLine.finalFetch tally.fetched tally.elapsed tally.weighted)
    else course.log
  let samples := if open_ then tally.sample .overflow :: course.samples else course.samples
  (Sink.record log (LogLine.totals tally.fetched tally.elapsed),
    Trace.withFloor samples.reverse tally.fetched stop)

end Course

/-- What a run leaves: its trace or failure, the log and the source. -/
structure Finished (R σ W : Type) where
  result : Except Error (Trace R)
  log : W
  source : σ

namespace Timer

variable {σ : Type} [Sink W]

/-- The result of a run that has written all its lines, unless its log failed. -/
def finish (log : W) (result : Except Error (Trace R)) (source : σ) : Finished R σ W :=
  let log := Sink.settle log
  {
    result :=
      match Sink.status log with
      | .ok () => result
      | .error fault => .error (.io fault)
    log := log
    source := source
  }

/-- The end of a run for a reason. -/
def stop (course : Course R W) (reason : StopReason) (source : σ) : Finished R σ W :=
  let (log, trace) := course.close reason
  finish log (.ok trace) source

/-- The end of a run by a failed fetch. A lost connection leaves no trace. -/
def stopFailed (course : Course R W) (error : FetchError) (source : σ) : Finished R σ W :=
  let noted := { course with log := Sink.record course.log (LogLine.failure error) }
  match error with
  | .canceled message => stop noted (.canceled message) source
  | .connectionLost message => finish noted.log (.error (.connectionLost message)) source
  | .other message => stop noted (.failed message) source

/-- The rest of a run from a course on. The budget is checked after each row. A log that fails ends
the run at once, and so does a clock that cannot be moved on, which leaves the log as it is.
-/
def runFrom [RowSource σ] (timer : Timer R) (start : Duration) (course : Course R W) (source : σ)
    : Finished R σ W :=
  match _fetch : RowSource.fetch source with
  | some (.finished, rest) => stop course .exhausted rest
  | some (.failed error, rest) => stopFailed course error rest
  | some (.row, rest) =>
      let course := course.advance timer start (RowSource.now rest)
      match Sink.status course.log with
      | .error fault => { result := .error (.io fault), log := course.log, source := rest }
      | .ok () =>
          if course.spent timer then stop course .budgetExceeded rest
          else runFrom timer start course rest
  | none => { result := .error .clockOverflow, log := course.log, source }
termination_by RowSource.remaining source
decreasing_by exact RowSource.remaining_lt _fetch

/-- A run on a source, with the log it writes to. -/
def run [RowSource σ] (timer : Timer R) (source : σ) (log : W) : Finished R σ W :=
  let start := RowSource.now source
  runFrom timer start (Course.fresh timer start log) source

end Timer

end JoinLatency

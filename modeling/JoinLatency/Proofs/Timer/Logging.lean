import JoinLatency.Proofs.Timer.Stopping
import Mathlib.Algebra.Group.Nat.Defs

/-! What a run writes to its log. The log tells of progress at the multiples of the interval, since
the counter of the next such row stands at the next multiple after every row. What follows tells of
the trace alone, or of a lost connection. Every line is spelled out here.
-/

namespace JoinLatency

variable {R σ : Type}

-----------------------------------------------------------------------------------------
-- Multiples of the progress interval
-----------------------------------------------------------------------------------------

namespace Timer

/-- The rows that a log tells of, among the first ones: those that the progress interval divides.
-/
def toldRows (timer : Timer R) (rows : Nat) : List Nat :=
  (List.range' 1 rows).filter (timer.progressInterval ∣ ·)

/-- The multiple of the progress interval that comes next after a row. -/
def nextTold (timer : Timer R) (row : Nat) : Nat :=
  timer.progressInterval * (row / timer.progressInterval + 1)

theorem toldRows_succ (timer : Timer R) (rows : Nat)
    : timer.toldRows (rows + 1)
      = timer.toldRows rows
        ++ (if timer.progressInterval ∣ rows + 1 then [rows + 1] else []) := by
  rw [toldRows, List.range'_1_concat, List.filter_append, Nat.add_comm 1 rows]
  by_cases told : timer.progressInterval ∣ rows + 1 <;> simp [toldRows, told]

/-- The next row is the multiple that comes next exactly if the interval divides it. Without an
interval there is none.
-/
theorem nextTold_iff (timer : Timer R) (row : Nat)
    : timer.nextTold row ≠ 0 ∧ row + 1 = timer.nextTold row
      ↔ timer.progressInterval ∣ row + 1 := by
  constructor
  · rintro ⟨_, next⟩
    exact ⟨_, next⟩
  · intro told
    have next : timer.nextTold row = row + 1 := by
      have quotient := @Nat.succ_div row timer.progressInterval
      rw [if_pos told] at quotient
      rw [nextTold, ← quotient, Nat.mul_div_cancel' told]
    omega

theorem nextTold_succ (timer : Timer R) (row : Nat)
    : timer.nextTold (row + 1)
      = if timer.progressInterval ∣ row + 1 then timer.nextTold row + timer.progressInterval
        else timer.nextTold row := by
  rw [nextTold, Nat.succ_div]
  split <;> simp [nextTold, Nat.mul_add]

/-- The multiple that comes next is the interval itself or at most twice the row. -/
theorem nextTold_le (timer : Timer R) (row : Nat)
    : timer.nextTold row = timer.progressInterval ∨ timer.nextTold row ≤ 2 * row := by
  rcases Nat.lt_or_ge row timer.progressInterval with less | more
  · exact .inl (by rw [nextTold, Nat.div_eq_of_lt less, Nat.zero_add, Nat.mul_one])
  · have product := Nat.mul_div_le row timer.progressInterval
    rw [nextTold, Nat.mul_add]
    omega

end Timer

-----------------------------------------------------------------------------------------
-- Lines of progress
-----------------------------------------------------------------------------------------

variable [Seconds R]

namespace Timer

/-- The line of a row that a log tells of: its number, and its times with six places. -/
def progressLine (timer : Timer R) (start : Duration) (readings : List Duration) (row : Nat)
    : String :=
  let elapsed : R := elapsedAt start readings row
  let decayed := decayedAt timer.sigma start readings row
  s!"{row}, {Seconds.fixed 6 elapsed}, {Seconds.fixed 6 decayed}\n"

/-- The lines of the first rows that a log tells of. -/
def progressText (timer : Timer R) (start : Duration) (readings : List Duration) (rows : Nat)
    : String :=
  String.join ((timer.toldRows rows).map (timer.progressLine start readings))

theorem progressText_append (timer : Timer R) (start : Duration) {readings : List Duration}
    (later : List Duration) {rows : Nat} (bound : rows ≤ readings.length)
    : timer.progressText start (readings ++ later) rows
      = timer.progressText start readings rows := by
  rw [progressText, progressText]
  congr 1
  apply List.map_congr_left
  intro row told
  have within := (List.mem_range'_1.mp (List.mem_filter.mp told).1).2
  have earlier : row ≤ readings.length := by omega
  simp only [progressLine, elapsedAt, readingAt_append earlier, decayedAt_append earlier]

end Timer

/-- A course has told of the rows that the interval divides, and waits for the next one. -/
structure Course.Told (timer : Timer R) (start : Duration) (opening : String)
    (readings : List Duration) (course : Course R Log)
    : Prop where
  progressAt : course.progressAt = timer.nextTold readings.length
  text : course.log.text = opening ++ timer.progressText start readings readings.length

theorem Course.told_fresh (timer : Timer R) (start : Duration) (log : Log)
    : (Course.fresh timer start log).Told timer start log.text [] where
  progressAt := by simp [fresh, Timer.nextTold]
  text := by simp [fresh, Timer.progressText, Timer.toldRows]

/-- One more row is told of exactly if the interval divides it. -/
theorem Course.Told.advance {timer : Timer R} {start : Duration} {opening : String}
    {readings : List Duration} {course : Course R Log}
    (h : course.Told timer start opening readings)
    (measures : course.tally.Measures timer.sigma start readings)
    (unlimited : course.log.capacity = none) (now : Duration)
    : (course.advance timer start now).Told timer start opening (readings ++ [now]) := by
  have length : (readings ++ [now]).length = readings.length + 1 := by simp
  have next := measures.next now
  have fetched := next.fetched
  rw [length] at fetched
  have tells : course.tells (course.tally.next timer.sigma start now)
      = decide (timer.progressInterval ∣ readings.length + 1) := by
    apply Bool.eq_iff_iff.mpr
    simp only [Course.tells, h.progressAt, fetched, Bool.and_eq_true, bne_iff_ne, beq_iff_eq,
      decide_eq_true_eq]
    exact timer.nextTold_iff readings.length
  have line : LogLine.progress (R := R) (readings.length + 1)
        (course.tally.next timer.sigma start now).elapsed
        (course.tally.next timer.sigma start now).weighted
      = timer.progressLine start (readings ++ [now]) (readings.length + 1) := by
    rw [Timer.progressLine, ← length, next.elapsed (by simp), next.weighted]
    rfl
  have earlier := timer.progressText_append start [now] (Nat.le_refl readings.length)
  constructor
  · rw [length, timer.nextTold_succ]
    simp [Course.advance, tells, h.progressAt]
  · rw [length, Timer.progressText, timer.toldRows_succ, List.map_append, String.join_append]
    rw [Timer.progressText] at earlier
    rw [earlier]
    by_cases told : timer.progressInterval ∣ readings.length + 1
    · simp [Course.advance, Course.logProgress, tells, told, Log.text_record unlimited, h.text,
        fetched, line, Timer.progressText, String.append_assoc]
    · simp [Course.advance, Course.logProgress, tells, told, h.text, Timer.progressText]

/-- The log of a run tells of its rows so far at every moment, by induction on its rows. -/
theorem Course.told_advanceAll (timer : Timer R) (start : Duration) {log : Log}
    (unlimited : log.capacity = none) (readings : List Duration)
    : ((Course.fresh timer start log).advanceAll timer start readings).Told timer start log.text
        readings := by
  induction readings using List.reverseRecOn with
  | nil => exact Course.told_fresh timer start log
  | append_singleton readings now ih =>
      rw [Course.advanceAll_concat]
      exact ih.advance (Course.sampled_advanceAll timer start log readings).tally
        ((Course.advanceAll_capacity timer start _ readings).trans unlimited) now

-----------------------------------------------------------------------------------------
-- The end of a log
-----------------------------------------------------------------------------------------

/-- The line that notes a failed fetch. -/
def FetchError.note : FetchError → String
  | .canceled message => "Query was canceled: " ++ message ++ "\n"
  | .connectionLost message => "Database connection issue: " ++ message ++ "\n"
  | .other message => "An unexpected error occurred: " ++ message ++ "\n"

/-- The note of a failed fetch, where one is the reason to stop. -/
def StopReason.note : StopReason → String
  | .canceled message => (FetchError.canceled message).note
  | .failed message => (FetchError.other message).note
  | .exhausted | .budgetExceeded => ""

/-- The last lines of a log, told from a trace: a line for an overflow sample of rows that ends
it, the total number of rows with the elapsed time, the time of the run, and an empty line.
-/
def Trace.closing (trace : Trace R) : String :=
  match trace.terminal? with
  | none => ""
  | some last =>
      let elapsed := Seconds.fixed 6 last.elapsed
      let final := s!"{last.count}, {elapsed}, {Seconds.fixed 6 last.decayed}\n"
      (if last.kind = .overflow ∧ 0 < last.count then
          "Final fetch count before exit: " ++ final
        else "")
        ++ (s!"Total joined tuples fetched: {trace.fetched}, {elapsed}\n"
          ++ s!"Time of current query run: {Seconds.fixed 2 last.elapsed} sec\n\n")

theorem LogLine.failure_eq (error : FetchError) : failure error = error.note := by
  cases error <;> rfl

/-- The last lines of a log are those that the program writes. -/
theorem Trace.closing_of_terminal {trace : Trace R} {last : Sample R}
    (h : trace.terminal? = some last)
    : trace.closing
      = (if last.kind = .overflow ∧ 0 < last.count then
            LogLine.finalFetch last.count last.elapsed last.decayed
          else "")
        ++ LogLine.totals trace.fetched last.elapsed := by
  rw [closing, h]
  rfl

namespace Timer

variable {timer : Timer R} {start : Duration} {readings : List Duration}

/-- The last sample of a run is the one at its last row. -/
theorem terminal?_rowTrace (timer : Timer R) (start : Duration) (readings : List Duration)
    (stop : StopReason)
    : (timer.rowTrace start readings stop).terminal?
      = some (if readings.length = 0 then Sample.floor
          else
            Sample.atRow timer.sigma start readings (timer.schedule.kindAt readings.length)
              readings.length) := by
  by_cases none : readings.length = 0
  · simp [Trace.terminal?, rowTrace, rowSamples, none]
  · by_cases hk : readings.length ∈ timer.schedule.checkpoints <;>
      simp [Trace.terminal?, rowTrace, rowSamples, Schedule.kindAt, Schedule.reached_eq, none, hk]

/-- What closing a course writes can be told from its trace. -/
theorem close_text {course : Course R Log} (h : course.Sampled timer start readings)
    (unlimited : course.log.capacity = none) (stop : StopReason)
    : (course.close stop).1.text = course.log.text ++ (course.close stop).2.closing := by
  rw [close_trace h, Trace.closing_of_terminal (terminal?_rowTrace timer start readings stop)]
  have fetched := h.tally.fetched
  rcases Nat.eq_zero_or_pos readings.length with none | positive
  · simp [Course.close, rowTrace, Sample.floor, Log.text_record unlimited, fetched, none,
      h.tally.unstarted none]
  · have counted : readings.length ≠ 0 := by omega
    have elapsed := h.tally.elapsed positive
    have final (text : String) : (Sink.record course.log text).capacity = none := by
      simp [unlimited]
    by_cases hk : readings.length ∈ timer.schedule.checkpoints <;>
      simp [Course.close, rowTrace, Sample.atRow, Schedule.kindAt, Log.text_record unlimited,
        Log.text_record (final _), String.append_assoc, fetched, counted, positive, hk,
        h.recorded, elapsed, h.tally.weighted]

/-- What the end of a run adds to a text: the note of a failed fetch, and what can be told from the
trace if there is one. It adds nothing where the clock cannot be moved on.
-/
inductive Closes [RowSource σ] (text : String) (finished : Finished R σ Log) : Prop
  | stopped {trace : Trace R} (result : finished.result = .ok trace)
    (text : finished.log.text = text ++ trace.stop.note ++ trace.closing)
  | lost {message : String} (result : finished.result = .error (.connectionLost message))
    (text : finished.log.text = text ++ (FetchError.connectionLost message).note)
  | overflow (fetched : RowSource.fetch finished.source = none)
    (result : finished.result = .error .clockOverflow) (text : finished.log.text = text)

variable [RowSource σ]

theorem stop_closes {course : Course R Log} (sampled : course.Sampled timer start readings)
    (unlimited : course.log.capacity = none) {text : String} {reason : StopReason}
    (noted : course.log.text = text ++ reason.note) (source : σ)
    : Closes text (stop course reason source) := by
  rw [stop_of_unlimited course unlimited]
  exact .stopped rfl ((close_text sampled unlimited reason).trans (congrArg (· ++ _) noted))

theorem stopFailed_closes {course : Course R Log} (sampled : course.Sampled timer start readings)
    (unlimited : course.log.capacity = none) (error : FetchError) (source : σ)
    : Closes course.log.text (stopFailed course error source) := by
  have samples := sampled_note sampled (LogLine.failure error)
  have text : (course.log.write (LogLine.failure error)).text = course.log.text ++ error.note :=
    congrArg (_ ++ ·) (LogLine.failure_eq error)
  rw [stopFailed_of_unlimited course unlimited]
  cases error with
  | canceled message => exact stop_closes samples unlimited text source
  | connectionLost message => exact .lost rfl text
  | other message => exact stop_closes samples unlimited text source

/-- A run with an unlimited log adds its end to the lines of progress. -/
theorem Ending.closes {log : Log} (unlimited : log.capacity = none) {last : σ}
    {finished : Finished R σ Log}
    (h : Ending timer start (Course.fresh timer start log) readings last finished)
    : Closes (log.text ++ timer.progressText start readings readings.length) finished := by
  have room := (Course.advanceAll_capacity timer start (Course.fresh timer start log)
    readings).trans unlimited
  have sampled := Course.sampled_advanceAll timer start log readings
  rw [← (Course.told_advanceAll timer start unlimited readings).text]
  cases h with
  | finished answer on => exact stop_closes sampled room String.append_empty.symm _
  | failed answer on => exact stopFailed_closes sampled room _ _
  | overflow answer on => exact .overflow answer rfl rfl
  | logFailed some on failed => cases (Log.status_of_unlimited room).symm.trans failed
  | spent some on sound spent => exact stop_closes sampled room String.append_empty.symm last

/-- The text of a run with an unlimited log is what its log held before, one line for each multiple
of the progress interval among its rows, with the times at that row, and then the note of a failed
fetch and what can be told from the trace; without a trace the connection was lost, and the text
ends with its note. The counter of the next row to tell of stays within 64 bits.
-/
theorem text_of_run (timer : Timer R) (script : Script) (opening : String)
    : let log : Log := { text := opening }
      let finished := timer.run script log
      let rows := script.rowsUntil finished.source
      let progress := timer.progressText script.reading script.readings rows
      (∀ trace, finished.result = .ok trace
        → finished.log.text = opening ++ progress ++ trace.stop.note ++ trace.closing)
      ∧ (∀ error, finished.result = .error error
        → ∃ message, error = .connectionLost message
          ∧ finished.log.text
            = opening ++ progress ++ ("Database connection issue: " ++ message ++ "\n"))
      ∧ (rows < 2 ^ 63 → timer.progressInterval < 2 ^ 64
        → ∀ row ≤ rows,
            ((Course.fresh timer script.reading log).advanceAll timer script.reading
              (script.readings.take row)).progressAt < 2 ^ 64) := by
  intro log finished rows progress
  obtain ⟨readings, last, fetched, ending⟩ := timer.run_ending script log
  have stops := ending.stops rfl
  have counted : rows = readings.length := Script.rowsUntil_of_fetches fetched stops.left
  have same : progress = timer.progressText script.reading readings readings.length := by
    simp only [progress, counted, Script.readings_of_fetches fetched,
      timer.progressText_append script.reading last.readings (Nat.le_refl _)]
  have closes : Closes (opening ++ progress) finished := by
    rw [same]
    exact ending.closes rfl
  refine ⟨?_, ?_, ?_⟩
  · intro trace returned
    cases closes with
    | stopped result text =>
        obtain rfl := Except.ok.inj (result.symm.trans returned)
        exact text
    | lost result _ => cases result.symm.trans returned
    | overflow _ result _ => cases result.symm.trans returned
  · intro error failed
    cases closes with
    | stopped result _ => cases result.symm.trans failed
    | lost result text =>
        obtain rfl := Except.error.inj (result.symm.trans failed)
        exact ⟨_, rfl, text⟩
    | overflow ended _ _ => cases ended
  · intro few fits row within
    have told := Course.told_advanceAll timer script.reading (show log.capacity = none from rfl)
      (script.readings.take row)
    have length : (script.readings.take row).length ≤ row := List.length_take_le _ _
    rw [told.progressAt]
    rcases timer.nextTold_le (script.readings.take row).length with first | later <;> omega

/-- A canceled query after five rows, of which the second and the fourth are told of. The clock goes
back once.
-/
theorem text_of_run_canceled
    : ∃ (timer : Timer Float) (script : Script) (trace : Trace Float),
        timer.toldRows 5 = [2, 4]
        ∧ script.readings
          = [⟨100000000⟩, ⟨250000000⟩, ⟨750000000⟩, ⟨500000000⟩, ⟨1500000000⟩, ⟨1600000000⟩]
        ∧ (timer.run script ({ text := "log\n" } : Log)).result = .ok trace
        ∧ (timer.run script ({ text := "log\n" } : Log)).log.text
          = "log\n2, 0.250000, 0.087500\n4, 0.500000, 0.150000\n"
            ++ "Query was canceled: late\n"
            ++ "Final fetch count before exit: 5, 1.500000, 0.181250\n"
            ++ "Total joined tuples fetched: 5, 1.500000\nTime of current query run: 1.50 sec\n\n"
        ∧ ((Course.fresh timer script.reading ({ text := "log\n" } : Log)).advanceAll timer
            script.reading (script.readings.take 5)).progressAt < 2 ^ 64 := by
  let timer : Timer Float := {
    schedule := ⟨[2, 7], by simp, by simp, by simp [Increasing]⟩
    sigma := 0.5
    progressInterval := 2
  }
  let script : Script := {
    reading := ⟨0⟩
    events := [(⟨100000000⟩, .row), (⟨250000000⟩, .row), (⟨750000000⟩, .row),
      (⟨500000000⟩, .row), (⟨1500000000⟩, .row), (⟨1600000000⟩, .failed (.canceled "late"))]
  }
  let log : Log := { text := "log\n" }
  have rows : script.rowsUntil (timer.run script log).source = 5 := by decide +kernel
  have ended : (timer.run script log).result.toOption.map
        (fun trace => trace.stop.note ++ trace.closing)
      = some ("Query was canceled: late\n"
          ++ ("Final fetch count before exit: 5, 1.500000, 0.181250\n"
            ++ ("Total joined tuples fetched: 5, 1.500000\n"
              ++ "Time of current query run: 1.50 sec\n\n"))) := by
    decide +kernel
  have progress : timer.progressText script.reading script.readings 5
      = "2, 0.250000, 0.087500\n4, 0.500000, 0.150000\n" := by
    decide +kernel
  obtain ⟨told, _, counter⟩ := text_of_run timer script "log\n"
  cases returned : (timer.run script log).result with
  | error fault =>
      rw [returned] at ended
      cases ended
  | ok trace =>
      rw [returned] at ended
      have last : trace.stop.note ++ trace.closing = _ := Option.some.inj ended
      have text := told trace returned
      rw [rows, progress, String.append_assoc, last] at text
      rw [rows] at counter
      exact ⟨timer, script, trace, by decide, rfl, returned, text.trans (by decide +kernel),
        counter (by decide) (by decide) 5 (Nat.le_refl 5)⟩

end Timer

end JoinLatency

import JoinLatency.Proofs.Timer.Fetching

/-! Runs do not depend on the reading at which they start, nor on what their log held before. All
times of a run are taken between two readings of its clock, and a log only grows at its end. So
runs go alike on related sources with related logs, up to a clock that cannot be moved on: a
synthetic cursor answers the same on a clock that is ahead.
-/

namespace JoinLatency

variable {R V W σ τ : Type} [Seconds R]

-----------------------------------------------------------------------------------------
-- Logs without a capacity
-----------------------------------------------------------------------------------------

namespace Log

variable {log : Log}

theorem status_of_unlimited (unlimited : log.capacity = none) : Sink.status log = .ok () := by
  simp [Sink.status, status, overfull_of_unlimited unlimited]

theorem record_of_unlimited (unlimited : log.capacity = none) (text : String)
    : Sink.record log text = log.write text := by
  simp [Sink.record, status_of_unlimited unlimited, Sink.write]

theorem text_record (unlimited : log.capacity = none) (text : String)
    : (Sink.record log text).text = log.text ++ text :=
  congrArg Log.text (record_of_unlimited unlimited text)

@[simp] theorem settle_eq (log : Log) : Sink.settle log = log := by
  unfold Sink.settle
  split <;> rfl

@[simp] theorem capacity_record (log : Log) (text : String)
    : (Sink.record log text).capacity = log.capacity := by
  unfold Sink.record
  split <;> rfl

end Log

namespace Course

theorem logProgress_capacity (told : Bool) (log : Log) (tally : Tally R)
    : (logProgress told log tally).capacity = log.capacity := by
  unfold logProgress
  split <;> simp

theorem advance_capacity (timer : Timer R) (start now : Duration) (course : Course R Log)
    : (course.advance timer start now).log.capacity = course.log.capacity :=
  logProgress_capacity _ _ _

/-- Rows leave the capacity of a log as it is, by induction along them. -/
theorem advanceAll_capacity (timer : Timer R) (start : Duration) (course : Course R Log)
    (readings : List Duration)
    : (course.advanceAll timer start readings).log.capacity = course.log.capacity := by
  induction readings generalizing course with
  | nil => rfl
  | cons now rest ih =>
      exact (ih (course.advance timer start now)).trans (course.advance_capacity timer start now)

theorem close_capacity (course : Course R Log) (stop : StopReason)
    : (course.close stop).1.capacity = course.log.capacity := by
  simp only [close]
  split <;> simp

end Course

namespace Timer

omit [Seconds R] in
theorem finish_of_unlimited {log : Log} (unlimited : log.capacity = none)
    (result : Except Error (Trace R)) (source : σ)
    : finish log result source = { result, log, source } := by
  simp [finish, Log.status_of_unlimited unlimited]

theorem stop_of_unlimited (course : Course R Log) (unlimited : course.log.capacity = none)
    (reason : StopReason) (source : σ)
    : stop course reason source
      = { result := .ok (course.close reason).2, log := (course.close reason).1, source } :=
  finish_of_unlimited ((course.close_capacity reason).trans unlimited) _ source

/-- A failed fetch leaves the trace of the rows before it, unless it lost the connection. -/
theorem stopFailed_of_unlimited (course : Course R Log) (unlimited : course.log.capacity = none)
    (error : FetchError) (source : σ)
    : let noted := { course with log := course.log.write (LogLine.failure error) }
      stopFailed course error source
      = match error with
        | .canceled message => stop noted (.canceled message) source
        | .connectionLost message =>
            { result := .error (.connectionLost message), log := noted.log, source }
        | .other message => stop noted (.failed message) source := by
  have record := Log.record_of_unlimited unlimited (LogLine.failure error)
  cases error with
  | canceled message => simp only [stopFailed, record]
  | connectionLost message =>
      have room : (course.log.write (LogLine.failure (.connectionLost message))).capacity = none :=
        unlimited
      simp only [stopFailed, record, finish_of_unlimited room]
  | other message => simp only [stopFailed, record]

end Timer

-----------------------------------------------------------------------------------------
-- Related logs and sources
-----------------------------------------------------------------------------------------

/-- A reading that is later by a duration, whether or not a clock can show it. -/
def Duration.later (reading passed : Duration) : Duration :=
  ⟨reading.nanoseconds + passed.nanoseconds⟩

@[simp] theorem Duration.since_later (reading passed : Duration)
    : (reading.later passed).since reading = passed := by
  simp [since, later]

@[simp] theorem Duration.since_later_later (now earlier offset : Duration)
    : (now.later offset).since (earlier.later offset) = now.since earlier := by
  simp [since, later, Nat.add_sub_add_right]

/-- Related logs fail alike, and whatever is done to both leaves them related. -/
structure Sink.Alike [Sink V] [Sink W] (related : V → W → Prop) : Prop where
  status {log : V} {other : W} (h : related log other) : Sink.status other = Sink.status log
  write {log : V} {other : W} (h : related log other) (text : String)
    : related (Sink.write log text) (Sink.write other text)
  flush {log : V} {other : W} (h : related log other)
    : related (Sink.flush log) (Sink.flush other)

namespace Sink.Alike

variable [Sink V] [Sink W] {related : V → W → Prop} (alike : Alike related) {log : V} {other : W}

include alike

theorem record (h : related log other) (text : String)
    : related (Sink.record log text) (Sink.record other text) := by
  simp only [Sink.record, alike.status h]
  split
  · exact alike.write h text
  · exact h

theorem settle (h : related log other) : related (Sink.settle log) (Sink.settle other) := by
  simp only [Sink.settle, alike.status h]
  split
  · exact alike.flush h
  · exact h

end Sink.Alike

theorem Sink.Alike.same [Sink W] : Alike (fun log other : W => other = log) where
  status := by rintro _ _ rfl; rfl
  write := by rintro _ _ rfl _; rfl
  flush := by rintro _ _ rfl; rfl

/-- Related sources answer alike at readings that are an offset apart, and stay related. Only if
this is excused may the clock of the second one be at its end before that of the first.
-/
structure RowSource.Alike [RowSource σ] [RowSource τ] (offset : Duration) (excused : Prop)
    (related : σ → τ → Prop)
    : Prop where
  now {source : σ} {other : τ} (h : related source other)
    : RowSource.now other = (RowSource.now source).later offset
  fetch {source : σ} {other : τ} (h : related source other)
    : RowSource.fetch other = none ∧ (RowSource.fetch source = none ∨ excused)
      ∨ ∃ answer rest next,
          RowSource.fetch source = some (answer, rest)
          ∧ RowSource.fetch other = some (answer, next)
          ∧ related rest next

theorem RowSource.Alike.same [RowSource σ]
    : Alike .zero False (fun source other : σ => other = source) where
  now := by rintro _ _ rfl; rfl
  fetch {source other} h := by
    obtain rfl := h
    cases RowSource.fetch other with
    | none => exact .inl ⟨rfl, .inl rfl⟩
    | some answered => exact .inr ⟨answered.1, answered.2, answered.2, rfl, rfl, rfl⟩

/-- Two runs come to the same result and leave related logs and sources, unless it is excused that
the clock of the second one was at its end.
-/
inductive Finished.Alike (excused : Prop) (logs : V → W → Prop) (sources : σ → τ → Prop)
    (finished : Finished R σ V) (other : Finished R τ W)
    : Prop
  | same (result : other.result = finished.result) (log : logs finished.log other.log)
    (source : sources finished.source other.source)
  | overflow (excuse : excused) (ended : other.result = .error .clockOverflow)

namespace Course

/-- The same course on a clock that is ahead, with another log. -/
def later (course : Course R V) (offset : Duration) (log : W) : Course R W :=
  {
    course with
    tally := { course.tally with previous := course.tally.previous.later offset }
    log := log
  }

variable [Sink V] [Sink W] {logs : V → W → Prop} {offset : Duration}

/-- A row advances the course on a clock that is ahead alike. -/
theorem advance_later (alike : Sink.Alike logs) (timer : Timer R) (start now offset : Duration)
    {course : Course R V} {log : W} (h : logs course.log log)
    : ∃ next,
        logs (course.advance timer start now).log next
        ∧ (course.later offset log).advance timer (start.later offset) (now.later offset)
          = (course.advance timer start now).later offset next := by
  have next : ({ course.tally with previous := course.tally.previous.later offset } : Tally R).next
        timer.sigma (start.later offset) (now.later offset)
      = { course.tally.next timer.sigma start now with previous := now.later offset } := by
    simp only [Tally.next, Duration.since_later_later]
  have told (told : Bool) (tally : Tally R)
      : logs (logProgress told course.log tally) (logProgress told log tally) := by
    cases told with
    | true => exact alike.record h _
    | false => exact h
  refine ⟨_, told _ _, ?_⟩
  simp only [advance, later, next]
  rfl

/-- A course on a clock that is ahead closes with the same trace. -/
theorem close_later (alike : Sink.Alike logs) {course : Course R V} {log : W}
    (h : logs course.log log) (stop : StopReason)
    : logs (course.close stop).1 ((course.later offset log).close stop).1
      ∧ ((course.later offset log).close stop).2 = (course.close stop).2 := by
  cases opened : course.tally.fetched != 0 && !course.recorded with
  | false =>
      simp only [close, later, opened]
      exact ⟨alike.record h _, rfl⟩
  | true =>
      simp only [close, later, opened]
      exact ⟨alike.record (alike.record h _) _, rfl⟩

end Course

namespace Timer

variable [Sink V] [Sink W] {logs : V → W → Prop} {sources : σ → τ → Prop} {offset : Duration}
  {excused : Prop}

omit [Seconds R] in
theorem finish_alike (alike : Sink.Alike logs) {log : V} {other : W} (h : logs log other)
    (result : Except Error (Trace R)) {source : σ} {next : τ} (left : sources source next)
    : Finished.Alike excused logs sources (finish log result source)
        (finish other result next) := by
  have settled := alike.settle h
  refine .same ?_ settled left
  simp only [finish, alike.status settled]

theorem stop_eq (course : Course R W) (reason : StopReason) (source : σ)
    : stop course reason source
      = finish (course.close reason).1 (.ok (course.close reason).2) source := rfl

/-- A run that stops on a clock that is ahead leaves the same. -/
theorem stop_alike (alike : Sink.Alike logs) {course : Course R V} {log : W}
    (h : logs course.log log) (reason : StopReason) {source : σ} {next : τ}
    (left : sources source next)
    : Finished.Alike excused logs sources (stop course reason source)
        (stop (course.later offset log) reason next) := by
  obtain ⟨closed, trace⟩ := course.close_later alike h reason
  rw [stop_eq, stop_eq, trace]
  exact finish_alike alike closed _ left

/-- A run that fails on a clock that is ahead leaves the same. -/
theorem stopFailed_alike (alike : Sink.Alike logs) {course : Course R V} {log : W}
    (h : logs course.log log) (error : FetchError) {source : σ} {next : τ}
    (left : sources source next)
    : Finished.Alike excused logs sources (stopFailed course error source)
        (stopFailed (course.later offset log) error next) := by
  let noted := { course with log := Sink.record course.log (LogLine.failure error) }
  have note : logs noted.log (Sink.record log (LogLine.failure error)) := alike.record h _
  cases error with
  | canceled message => exact stop_alike alike note (.canceled message) left
  | connectionLost message => exact finish_alike alike note _ left
  | other message => exact stop_alike alike note (.failed message) left

/-- One fetch of a run, by its answer. -/
theorem runFrom_of_answer [RowSource σ] {timer : Timer R} {start : Duration}
    {course : Course R V} {source rest : σ} {answer : Fetch}
    (h : RowSource.fetch source = some (answer, rest))
    : runFrom timer start course source
      = match answer with
        | .finished => stop course .exhausted rest
        | .failed error => stopFailed course error rest
        | .row =>
            let next := course.advance timer start (RowSource.now rest)
            match Sink.status next.log with
            | .error fault => { result := .error (.io fault), log := next.log, source := rest }
            | .ok () =>
                if next.spent timer then stop next .budgetExceeded rest
                else runFrom timer start next rest := by
  rw [runFrom]
  split
  case h_4 ended => cases h.symm.trans ended
  all_goals
    next fetched =>
      obtain ⟨rfl, rfl⟩ := Prod.mk.inj (Option.some.inj (h.symm.trans fetched))
      rfl

/-- A run ends where the clock cannot be moved on. -/
theorem runFrom_of_none [RowSource σ] {timer : Timer R} {start : Duration}
    {course : Course R V} {source : σ} (h : RowSource.fetch source = none)
    : runFrom timer start course source
      = { result := .error .clockOverflow, log := course.log, source } := by
  rw [runFrom]
  split
  case h_4 => rfl
  all_goals
    next fetched => cases h.symm.trans fetched

variable [RowSource σ] [RowSource τ]

/-- The rest of a run goes alike on a related source with a related log, by induction on the rows to
come. Both runs get the same answers, and their courses differ in the clock and the log only.
-/
theorem runFrom_alike (alike : Sink.Alike logs)
    (like : RowSource.Alike offset excused sources) (timer : Timer R) (start : Duration)
    (course : Course R V) (source : σ) {log : W} {other : τ} (h : logs course.log log)
    (begun : sources source other)
    : Finished.Alike excused logs sources (runFrom timer start course source)
        (runFrom timer (start.later offset) (course.later offset log) other) := by
  induction bound : RowSource.remaining source using Nat.strongRecOn
    generalizing course source log other with
  | _ _ ih =>
    obtain ⟨ended, none | excuse⟩ | ⟨answer, rest, next, fetched, found, left⟩ := like.fetch begun
    · rw [runFrom_of_none none, runFrom_of_none ended]
      exact .same rfl h begun
    · rw [runFrom_of_none ended]
      exact .overflow excuse rfl
    · rw [runFrom_of_answer fetched, runFrom_of_answer found]
      cases answer with
      | finished => exact stop_alike alike h .exhausted left
      | failed error => exact stopFailed_alike alike h error left
      | row =>
          obtain ⟨log, told, advanced⟩ :=
            course.advance_later alike timer start (RowSource.now rest) offset h
          simp only [like.now left, advanced]
          have status : Sink.status ((course.advance timer start (RowSource.now rest)).later offset
              log).log = Sink.status (course.advance timer start (RowSource.now rest)).log :=
            alike.status told
          rw [status]
          cases Sink.status (course.advance timer start (RowSource.now rest)).log with
          | error fault => exact .same rfl told left
          | ok done =>
              have spent : ((course.advance timer start (RowSource.now rest)).later offset
                  log).spent timer
                  = (course.advance timer start (RowSource.now rest)).spent timer := rfl
              simp only [spent]
              split
              · exact stop_alike alike told .budgetExceeded left
              · exact ih _ (bound ▸ RowSource.remaining_lt fetched) _ _ told left rfl

/-- A run goes alike on a related source with a related log. -/
theorem run_alike (alike : Sink.Alike logs) (like : RowSource.Alike offset excused sources)
    (timer : Timer R) {source : σ} {other : τ} (begun : sources source other) {log : V}
    {next : W} (h : logs log next)
    : Finished.Alike excused logs sources (timer.run source log) (timer.run other next) := by
  have fresh : (Course.fresh timer (RowSource.now source) log).later offset next
      = Course.fresh timer (RowSource.now other) next := by
    rw [like.now begun]
    rfl
  rw [run, run, ← fresh, like.now begun]
  exact runFrom_alike alike like timer (RowSource.now source) _ source h begun

end Timer

-----------------------------------------------------------------------------------------
-- Cursors on a clock that is ahead
-----------------------------------------------------------------------------------------

/-- The same cursor on a clock that is ahead. -/
def SyntheticCursor.later (cursor : SyntheticCursor) (offset : Duration) : SyntheticCursor :=
  { cursor with clock := cursor.clock.later offset }

/-- A cursor gives the same answers on a clock that is ahead, for as long as this clock can be moved
on.
-/
theorem SyntheticCursor.alike (offset : Duration)
    : RowSource.Alike offset True
        (fun cursor other : SyntheticCursor => other = cursor.later offset) where
  now := by
    rintro cursor _ rfl
    rfl
  fetch := by
    rintro cursor _ rfl
    have due : (cursor.later offset).failure.filter
          (fun failure => failure.1 ≤ (cursor.later offset).fetched)
        = cursor.failure.filter fun failure => failure.1 ≤ cursor.fetched := rfl
    simp only [RowSource.fetch, fetch, due]
    cases cursor.failure.filter fun failure => failure.1 ≤ cursor.fetched with
    | some failure => exact .inr ⟨_, _, _, rfl, rfl, rfl⟩
    | none =>
        by_cases last : cursor.rows ≤ cursor.fetched
        · simp only [later, last, if_true]
          exact .inr ⟨_, _, _, rfl, rfl, rfl⟩
        · simp only [later, last, if_false]
          cases moved : (cursor.clock.later offset).plus? cursor.delay with
          | none => exact .inl ⟨rfl, .inr trivial⟩
          | some reading =>
              obtain ⟨sum, bound⟩ := Duration.plus?_eq_some_iff.mp moved
              have earlier : cursor.clock.plus? cursor.delay
                  = some (cursor.clock.later cursor.delay) := by
                refine Duration.plus?_eq_some_iff.mpr ⟨rfl, ?_⟩
                simp only [Duration.later] at bound
                omega
              have ahead : reading = (cursor.clock.later cursor.delay).later offset := by
                obtain ⟨nanoseconds⟩ := reading
                simp only [Duration.later, Duration.mk.injEq] at sum ⊢
                omega
              rw [earlier, ahead]
              exact .inr ⟨_, _, _, rfl, rfl, rfl⟩

end JoinLatency

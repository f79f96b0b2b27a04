import JoinLatency.Proofs.Timer.Sampling

/-! What a run returns. Every trace holds the samples of the rows that were counted and nothing
else, whatever ended the run.
-/

namespace JoinLatency

variable {R W σ : Type} [Seconds R] [Sink W]

-----------------------------------------------------------------------------------------
-- Counts and kinds
-----------------------------------------------------------------------------------------

namespace Schedule

/-- The kind of the sample at the last row of a run. -/
def kindAt (schedule : Schedule) (rows : Nat) : SampleKind :=
  if rows ∈ schedule.checkpoints then .checkpoint else .overflow

/-- The counts and kinds of the samples of a run: the checkpoints before the last row, and the
last row. They depend on the number of rows alone.
-/
def shape (schedule : Schedule) (rows : Nat) : List (Nat × SampleKind) :=
  (schedule.passed rows).map (·, .checkpoint) ++ [(rows, schedule.kindAt rows)]

/-- A shape lists the checkpoints that were reached, and the last row if it is none of them. -/
theorem shape_eq (schedule : Schedule) (rows : Nat)
    : schedule.shape rows
      = (schedule.reached rows).map (·, .checkpoint)
        ++ (if rows ∈ schedule.checkpoints then [] else [(rows, .overflow)]) := by
  rw [schedule.reached_eq]
  by_cases hk : rows ∈ schedule.checkpoints <;> simp [shape, kindAt, hk]

/-- The entries of a shape are checkpoints exactly if they are tagged so. -/
theorem mem_shape {schedule : Schedule} {rows : Nat} {entry : Nat × SampleKind}
    (h : entry ∈ schedule.shape rows)
    : entry.2 = .checkpoint ↔ entry.1 ∈ schedule.checkpoints := by
  rcases List.mem_append.mp h with passed | last
  · obtain ⟨k, hk, rfl⟩ := List.mem_map.mp passed
    simp [(mem_passed.mp hk).1]
  · obtain rfl := List.mem_singleton.mp last
    by_cases hk : rows ∈ schedule.checkpoints <;> simp [kindAt, hk]

/-- The counts of a shape strictly increase, since the last row is beyond all checkpoints that
were passed.
-/
theorem pairwise_shape (schedule : Schedule) (rows : Nat)
    : ((schedule.shape rows).map (·.1)).Pairwise (· < ·) := by
  have counts : (schedule.shape rows).map (·.1) = schedule.passed rows ++ [rows] := by
    simp [shape, Function.comp_def]
  rw [counts]
  refine List.pairwise_append.mpr ⟨schedule.pairwise.filter _, List.pairwise_singleton _ _, ?_⟩
  intro k passed row last
  obtain rfl := List.mem_singleton.mp last
  exact (mem_passed.mp passed).2

theorem getLast?_shape (schedule : Schedule) (rows : Nat)
    : (schedule.shape rows).getLast?.map (·.1) = some rows := by
  simp [shape]

theorem length_shape (schedule : Schedule) (rows : Nat)
    : (schedule.shape rows).length = (schedule.passed rows).length + 1 := by
  simp [shape]

theorem length_shape_le (schedule : Schedule) (rows : Nat)
    : (schedule.shape rows).length ≤ schedule.size + 1 := by
  have fewer : (schedule.passed rows).length ≤ schedule.size := List.length_filter_le _ _
  rw [length_shape]
  omega

end Schedule

-----------------------------------------------------------------------------------------
-- The trace of some rows
-----------------------------------------------------------------------------------------

namespace Timer

/-- The samples of a run of rows: one at every checkpoint that was reached, and one at the last
row if that is none of them. A run without rows has the floor sample.
-/
def rowSamples (timer : Timer R) (start : Duration) (readings : List Duration)
    : List (Sample R) :=
  let rows := readings.length
  if rows = 0 then [Sample.floor]
  else
    (timer.schedule.reached rows).map (Sample.atRow timer.sigma start readings .checkpoint)
      ++ (if rows ∈ timer.schedule.checkpoints then []
          else [Sample.atRow timer.sigma start readings .overflow rows])

theorem map_rowSamples (timer : Timer R) (start : Duration) (readings : List Duration)
    : (timer.rowSamples start readings).map (fun sample => (sample.count, sample.kind))
      = timer.schedule.shape readings.length := by
  rcases Nat.eq_zero_or_pos readings.length with none | positive
  · have absent : 0 ∉ timer.schedule.checkpoints := fun hm =>
      absurd (timer.schedule.pos_of_mem hm) (Nat.lt_irrefl 0)
    simp [rowSamples, Schedule.shape_eq, none, absent, Sample.floor]
  · have counted : readings.length ≠ 0 := by omega
    by_cases hk : readings.length ∈ timer.schedule.checkpoints <;>
      simp [rowSamples, Schedule.shape_eq, counted, hk, Sample.atRow, Function.comp_def]

def rowTrace (timer : Timer R) (start : Duration) (readings : List Duration) (stop : StopReason)
    : Trace R where
  samples := timer.rowSamples start readings
  fetched := readings.length
  stop := stop

/-- Closing a course gives the trace of its rows, since the overflow sample stands for a last row
that was not recorded.
-/
theorem close_trace {timer : Timer R} {start : Duration} {readings : List Duration}
    {course : Course R W} (h : course.Sampled timer start readings) (stop : StopReason)
    : (course.close stop).2 = timer.rowTrace start readings stop := by
  have fetched := h.tally.fetched
  rcases Nat.eq_zero_or_pos readings.length with none | positive
  · have empty : course.samples = [] := by
      simpa [none] using h.samples
    simp [Course.close, Trace.withFloor, rowTrace, rowSamples, fetched, none, empty]
  · have counted : readings.length ≠ 0 := by omega
    have last := h.tally.sample positive .overflow
    by_cases hk : readings.length ∈ timer.schedule.checkpoints
    · have some : timer.schedule.reached readings.length ≠ [] := by
        have member : readings.length ∈ timer.schedule.reached readings.length :=
          List.mem_filter.mpr ⟨hk, by simp⟩
        exact List.ne_nil_of_mem member
      simp [Course.close, Trace.withFloor, rowTrace, rowSamples, fetched, counted, hk,
        h.recorded, h.samples, some]
    · simp [Course.close, Trace.withFloor, rowTrace, rowSamples, fetched, counted, hk,
        h.recorded, h.samples, last]

omit [Seconds R] in
/-- A run that has written all its lines comes to its result, unless its log failed. -/
theorem finish_ok {log : W} {result : Except Error (Trace R)} {source : σ} {trace : Trace R}
    (h : (finish log result source).result = .ok trace)
    : result = .ok trace := by
  simp only [finish] at h
  split at h
  · exact h
  · cases h

/-- The result of a stopped run is its trace, unless the log failed. -/
theorem stop_ok {course : Course R W} {reason : StopReason} {source : σ} {trace : Trace R}
    (h : (stop course reason source).result = .ok trace)
    : trace = (course.close reason).2 :=
  (Except.ok.inj (finish_ok h)).symm

/-- A run that returns a trace has fetched some rows and then found none or stopped, and its trace
is the one of these rows.
-/
theorem run_ok [RowSource σ] {timer : Timer R} {source : σ} {log : W} {trace : Trace R}
    (h : (timer.run source log).result = .ok trace)
    : ∃ readings last stop,
        Fetches source readings last
        ∧ trace = timer.rowTrace (RowSource.now source) readings stop
        ∧ ((timer.run source log).source = last
          ∨ ∃ answer,
              answer ≠ .row
              ∧ RowSource.fetch last = some (answer, (timer.run source log).source)) := by
  unfold run at h ⊢
  obtain ⟨readings, last, rows, ending⟩ :=
    runFrom_ending timer (RowSource.now source)
      (Course.fresh timer (RowSource.now source) log) source
  have sampled := Course.sampled_advanceAll timer (RowSource.now source) log readings
  generalize runFrom timer _ (Course.fresh timer _ log) source = finished at h ending ⊢
  cases ending with
  | @finished rest answer =>
      refine ⟨readings, last, .exhausted, rows, ?_, .inr ⟨.finished, by simp, answer⟩⟩
      rw [stop_ok h, close_trace sampled]
  | @failed error rest answer =>
      cases error with
      | canceled message =>
          refine ⟨readings, last, .canceled message, rows, ?_, .inr ⟨_, by simp, answer⟩⟩
          rw [stop_ok h]
          exact close_trace sampled _
      | connectionLost message => cases finish_ok h
      | other message =>
          refine ⟨readings, last, .failed message, rows, ?_, .inr ⟨_, by simp, answer⟩⟩
          rw [stop_ok h]
          exact close_trace sampled _
  | overflow answer on => cases h
  | logFailed some on failed => cases h
  | spent some on sound spent =>
      refine ⟨readings, last, .budgetExceeded, rows, ?_, .inl rfl⟩
      rw [stop_ok h, close_trace sampled]

end Timer

-----------------------------------------------------------------------------------------
-- Runs on scripts
-----------------------------------------------------------------------------------------

namespace Script

/-- The readings after the fetches of a script, whatever they answer. -/
def readings (script : Script) : List Duration :=
  script.events.map (·.1)

/-- The number of rows that a script has handed out when another one is left of it. -/
def rowsUntil (script rest : Script) : Nat :=
  (script.events.take (script.events.length - rest.events.length)).countP (·.2 = .row)

/-- A fetch that answers with a row takes it from the head of the events. -/
theorem events_of_row {script next : Script} (h : RowSource.fetch script = some (.row, next))
    : script.events = (next.reading, .row) :: next.events := by
  obtain ⟨reading, events⟩ := script
  cases events with
  | nil => cases h
  | cons event rest =>
      obtain ⟨reading, answer⟩ := event
      obtain ⟨rfl, rfl⟩ := Prod.mk.inj (Option.some.inj h)
      rfl

/-- A fetch that answers otherwise takes at most one event, which is no row. -/
theorem events_of_not_row {script next : Script} {answer : Fetch} (other : answer ≠ .row)
    (h : RowSource.fetch script = some (answer, next))
    : script.events = next.events ∨ script.events = (next.reading, answer) :: next.events := by
  obtain ⟨reading, events⟩ := script
  cases events with
  | nil =>
      obtain ⟨_, rfl⟩ := Prod.mk.inj (Option.some.inj h)
      exact .inl rfl
  | cons event rest =>
      obtain ⟨reading, answer⟩ := event
      obtain ⟨rfl, rfl⟩ := Prod.mk.inj (Option.some.inj h)
      exact .inr rfl

/-- The rows fetched from a script are its first events, by induction on the rows. -/
theorem events_of_fetches {script last : Script} {rows : List Duration}
    (h : Fetches script rows last)
    : script.events = rows.map (·, Fetch.row) ++ last.events := by
  induction h with
  | nil => rfl
  | row answer _ ih => rw [events_of_row answer, ih]; rfl

/-- What is handed out is what stands before the events that are left. -/
theorem rowsUntil_eq {script rest : Script} {taken : List (Duration × Fetch)}
    (events : script.events = taken ++ rest.events)
    : script.rowsUntil rest = taken.countP (·.2 = .row) := by
  have length : script.events.length - rest.events.length = taken.length := by
    simp [events]
  rw [rowsUntil, length, events, List.take_left]

/-- The rows fetched before a script is left, or before an answer that is no row, are all the
rows that it has handed out.
-/
theorem rowsUntil_of_fetches {script last rest : Script} {rows : List Duration}
    (h : Fetches script rows last)
    (left : rest = last ∨ ∃ answer, answer ≠ .row ∧ RowSource.fetch last = some (answer, rest))
    : script.rowsUntil rest = rows.length := by
  have events := events_of_fetches h
  have unread (same : last.events = rest.events) : script.rowsUntil rest = rows.length := by
    rw [same] at events
    simp [rowsUntil_eq events, List.countP_map, Function.comp_def]
  rcases left with rfl | ⟨answer, other, fetched⟩
  · exact unread rfl
  · rcases events_of_not_row other fetched with same | read
    · exact unread same
    · have split
          : script.events
            = (rows.map (·, Fetch.row) ++ [(rest.reading, answer)]) ++ rest.events := by
        rw [events, read, List.append_assoc, List.singleton_append]
      simp [rowsUntil_eq split, List.countP_map, Function.comp_def, other]

end Script

namespace Timer

/-- A run that returns a trace samples its rows: every checkpoint that was reached, in order, and
the last row if that is none of them; without rows there is the floor sample alone. The times of
a sample are those at its row, as the readings of the script tell them, whatever else the timer
samples, writes or allows.
-/
theorem samples_of_run (timer : Timer R) (script : Script) (log : W) (trace : Trace R)
    (returned : (timer.run script log).result = .ok trace)
    : let rows := script.rowsUntil (timer.run script log).source
      let sampleAt := Sample.atRow timer.sigma script.reading script.readings
      let checkpoints := timer.schedule.checkpoints
      trace.fetched = rows
      ∧ (rows = 0 → trace.samples = [Sample.floor])
      ∧ (0 < rows →
          trace.samples
          = (checkpoints.filter (· ≤ rows)).map (sampleAt .checkpoint)
            ++ (if rows ∈ checkpoints then [] else [sampleAt .overflow rows]))
      ∧ (∀ sample ∈ trace.samples, sample.isCheckpoint = timer.schedule.contains sample.count)
      ∧ (trace.samples.map (·.count)).Pairwise (· < ·)
      ∧ trace.terminal?.map (·.count) = some rows
      ∧ trace.samples.length ≤ timer.schedule.size + 1 := by
  intro rows sampleAt checkpoints
  obtain ⟨readings, last, stop, fetched, rfl, left⟩ := run_ok returned
  have counted : rows = readings.length := Script.rowsUntil_of_fetches fetched left
  have events := Script.events_of_fetches fetched
  have before {kind : SampleKind} {row : Nat} (bound : row ≤ readings.length)
      : sampleAt kind row = Sample.atRow timer.sigma script.reading readings kind row := by
    simp only [sampleAt, Script.readings, events, List.map_append, List.map_map,
      Function.comp_def, List.map_id', Sample.atRow_append bound]
  have shape := timer.map_rowSamples script.reading readings
  refine ⟨counted.symm, ?_, ?_, ?_, ?_, ?_, ?_⟩
  · intro none
    simp [rowTrace, rowSamples, ← counted, none]
  · intro positive
    have some : readings.length ≠ 0 := by omega
    have reached
        : (timer.schedule.reached readings.length).map
            (Sample.atRow timer.sigma script.reading readings .checkpoint)
          = (timer.schedule.reached readings.length).map (sampleAt .checkpoint) := by
      apply List.map_congr_left
      intro k hk
      exact (before (Schedule.mem_reached.mp hk).2).symm
    simp only [rowTrace, rowSamples, some, if_false, counted, before (Nat.le_refl _)]
    exact congrArg (· ++ _) reached
  · intro sample member
    have entry : (sample.count, sample.kind) ∈ timer.schedule.shape readings.length :=
      shape ▸ List.mem_map.mpr ⟨sample, member, rfl⟩
    apply Bool.eq_iff_iff.mpr
    rw [Schedule.contains_iff, ← Schedule.mem_shape entry]
    simp [Sample.isCheckpoint]
  · have ordered := timer.schedule.pairwise_shape readings.length
    rw [← shape, List.map_map] at ordered
    exact ordered
  · have last := timer.schedule.getLast?_shape readings.length
    rw [← shape, List.getLast?_map, Option.map_map] at last
    rw [counted]
    exact last
  · have bound := timer.schedule.length_shape_le readings.length
    rw [← shape, List.length_map] at bound
    exact bound

/-- A clock that went back, and a failed fetch after the third row. -/
theorem samples_of_run_third_row
    : ∃ (timer : Timer Float) (script : Script) (trace : Trace Float),
        timer.schedule.checkpoints = [2, 5]
        ∧ script.readings = [⟨9⟩, ⟨30⟩, ⟨5⟩, ⟨40⟩]
        ∧ (timer.run script ({} : Log)).result = .ok trace
        ∧ trace.fetched = 3
        ∧ trace.samples
          = [Sample.atRow timer.sigma ⟨7⟩ script.readings .checkpoint 2,
              Sample.atRow timer.sigma ⟨7⟩ script.readings .overflow 3] := by
  let timer : Timer Float := {
    schedule := ⟨[2, 5], by simp, by simp, by simp [Increasing]⟩
    sigma := 0.5
  }
  let script : Script := {
    reading := ⟨7⟩
    events := [(⟨9⟩, .row), (⟨30⟩, .row), (⟨5⟩, .row), (⟨40⟩, .failed (.other "gone"))]
  }
  have rows : script.rowsUntil (timer.run script ({} : Log)).source = 3 := by decide +kernel
  have some : (timer.run script ({} : Log)).result.toBool = true := by decide +kernel
  cases returned : (timer.run script ({} : Log)).result with
  | error fault => rw [returned] at some; cases some
  | ok trace =>
      obtain ⟨fetched, _, samples, _⟩ := samples_of_run timer script ({} : Log) trace returned
      rw [rows] at fetched samples
      exact ⟨timer, script, trace, rfl, rfl, returned, fetched, samples (by decide)⟩

end Timer

end JoinLatency

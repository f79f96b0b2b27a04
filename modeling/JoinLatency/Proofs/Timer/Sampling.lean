import JoinLatency.Proofs.Timer.Fetching
import JoinLatency.Proofs.Timer.Schedule
import Mathlib.Data.List.Induction

/-! The samples of a run, told from the readings at its rows alone. After every row the course of
a run has sampled exactly the checkpoints up to the number of rows, and the checkpoints ahead of
it are exactly the larger ones.
-/

namespace JoinLatency

variable {R W : Type} [Seconds R]

-----------------------------------------------------------------------------------------
-- Times at a row
-----------------------------------------------------------------------------------------

/-- The reading at a row. The zeroth one is the start of the run. -/
def readingAt (start : Duration) (readings : List Duration) (row : Nat) : Duration :=
  ((start :: readings)[row]?).getD start

/-- The factor that the gap before a row counts with, for rows counted from zero: the decay for
the first row, and one more decay for each later one.
-/
def decayFactor (sigma : R) : Nat → R
  | 0 => sigma
  | row + 1 => decayFactor sigma row * sigma

/-- The time from the start of a run to a row. -/
def elapsedAt (start : Duration) (readings : List Duration) (row : Nat) : R :=
  Seconds.ofDuration ((readingAt start readings row).since start)

/-- The gaps before the first rows, each with its factor, summed up from the left. -/
def decayedAt (sigma : R) (start : Duration) (readings : List Duration) : Nat → R
  | 0 => Seconds.zero
  | row + 1 =>
      decayedAt sigma start readings row
        + Seconds.ofDuration
            ((readingAt start readings (row + 1)).since (readingAt start readings row))
          * decayFactor sigma row

/-- The sample of a kind at a row. -/
def Sample.atRow (sigma : R) (start : Duration) (readings : List Duration) (kind : SampleKind)
    (row : Nat) : Sample R where
  count := row
  elapsed := elapsedAt start readings row
  decayed := decayedAt sigma start readings row
  kind := kind

theorem readingAt_append {start : Duration} {readings later : List Duration} {row : Nat}
    (bound : row ≤ readings.length)
    : readingAt start (readings ++ later) row = readingAt start readings row := by
  have within : row < (start :: readings).length := by
    simp only [List.length_cons]
    omega
  simp only [readingAt, ← List.cons_append, List.getElem?_append_left within]

theorem readingAt_last (start now : Duration) (readings : List Duration)
    : readingAt start (readings ++ [now]) (readings.length + 1) = now := by
  simp [readingAt]

/-- Later rows do not change the decayed time at earlier ones, by induction on the row. -/
theorem decayedAt_append {sigma : R} {start : Duration} {readings later : List Duration}
    {row : Nat} (bound : row ≤ readings.length)
    : decayedAt sigma start (readings ++ later) row = decayedAt sigma start readings row := by
  induction row with
  | zero => rfl
  | succ row ih =>
      simp only [decayedAt, ih (by omega), readingAt_append bound,
        readingAt_append (show row ≤ readings.length by omega)]

theorem Sample.atRow_append {sigma : R} {start : Duration} {readings later : List Duration}
    {kind : SampleKind} {row : Nat} (bound : row ≤ readings.length)
    : Sample.atRow sigma start (readings ++ later) kind row
      = Sample.atRow sigma start readings kind row := by
  simp only [Sample.atRow, elapsedAt, readingAt_append bound, decayedAt_append bound]

-----------------------------------------------------------------------------------------
-- The course after some rows
-----------------------------------------------------------------------------------------

/-- A tally measures the rows at some readings. Before the first row no time has passed; the
factor is the one of the next row.
-/
structure Tally.Measures (sigma : R) (start : Duration) (readings : List Duration)
    (tally : Tally R) : Prop where
  fetched : tally.fetched = readings.length
  unstarted : readings.length = 0 → tally.elapsed = Seconds.zero
  elapsed : 0 < readings.length → tally.elapsed = elapsedAt start readings readings.length
  weighted : tally.weighted = decayedAt sigma start readings readings.length
  factor : tally.factor = decayFactor sigma readings.length
  previous : tally.previous = readingAt start readings readings.length

theorem Tally.measures_start (sigma : R) (start : Duration)
    : (Tally.start sigma start).Measures sigma start [] where
  fetched := rfl
  unstarted := fun _ => rfl
  elapsed := fun positive => absurd positive (Nat.lt_irrefl 0)
  weighted := rfl
  factor := rfl
  previous := rfl

/-- One more row is measured with the gap since the row before it. -/
theorem Tally.Measures.next {sigma : R} {start : Duration} {readings : List Duration}
    {tally : Tally R} (h : tally.Measures sigma start readings) (now : Duration)
    : (tally.next sigma start now).Measures sigma start (readings ++ [now]) := by
  have length : (readings ++ [now]).length = readings.length + 1 := by simp
  constructor
  · simp [Tally.next, h.fetched]
  · intro none
    simp at none
  · intro _
    simp only [Tally.next, elapsedAt, length, readingAt_last]
  · simp only [Tally.next, length, decayedAt, decayedAt_append (Nat.le_refl _), readingAt_last,
      readingAt_append (Nat.le_refl _), h.weighted, h.factor, h.previous]
  · simp only [Tally.next, length, decayFactor, h.factor]
  · simp only [Tally.next, length, readingAt_last]

theorem Tally.Measures.sample {sigma : R} {start : Duration} {readings : List Duration}
    {tally : Tally R} (h : tally.Measures sigma start readings) (positive : 0 < readings.length)
    (kind : SampleKind)
    : tally.sample kind = Sample.atRow sigma start readings kind readings.length := by
  simp only [Tally.sample, Sample.atRow, h.fetched, h.elapsed positive, h.weighted]

/-- A course has sampled the checkpoints up to its last row, has the larger ones ahead, and tells
whether the last row was a checkpoint.
-/
structure Course.Sampled (timer : Timer R) (start : Duration) (readings : List Duration)
    (course : Course R W) : Prop where
  tally : course.tally.Measures timer.sigma start readings
  ahead : course.ahead = timer.schedule.beyond readings.length
  samples
    : course.samples.reverse
      = (timer.schedule.reached readings.length).map
          (Sample.atRow timer.sigma start readings .checkpoint)
  recorded : course.recorded = decide (readings.length ∈ timer.schedule.checkpoints)

theorem Course.sampled_start (timer : Timer R) (start : Duration) (log : W)
    : (Course.fresh timer start log).Sampled timer start [] where
  tally := Tally.measures_start timer.sigma start
  ahead := by simp [fresh]
  samples := by simp [fresh]
  recorded := by
    have absent : 0 ∉ timer.schedule.checkpoints := fun hm =>
      absurd (timer.schedule.pos_of_mem hm) (Nat.lt_irrefl 0)
    simp [fresh, absent]

variable [Sink W]

/-- One more row samples itself exactly when it is the checkpoint at the head of those ahead. -/
theorem Course.Sampled.advance {timer : Timer R} {start : Duration} {readings : List Duration}
    {course : Course R W} (h : course.Sampled timer start readings) (now : Duration)
    : (course.advance timer start now).Sampled timer start (readings ++ [now]) := by
  have length : (readings ++ [now]).length = readings.length + 1 := by simp
  have measures := h.tally.next now
  have fetched : (course.tally.next timer.sigma start now).fetched = readings.length + 1 := by
    simpa using measures.fetched
  have earlier
      : (timer.schedule.reached readings.length).map
          (Sample.atRow timer.sigma start (readings ++ [now]) .checkpoint)
        = course.samples.reverse := by
    rw [h.samples]
    apply List.map_congr_left
    intro k hk
    exact Sample.atRow_append (by simpa using (List.mem_filter.mp hk).2)
  have due
      : (course.ahead.head? == some (course.tally.next timer.sigma start now).fetched)
        = decide (readings.length + 1 ∈ timer.schedule.checkpoints) := by
    rw [h.ahead, fetched, timer.schedule.head?_beyond]
  constructor
  · exact measures
  · simp only [Course.advance, due, length]
    rw [h.ahead, timer.schedule.beyond_eq readings.length]
    by_cases hk : readings.length + 1 ∈ timer.schedule.checkpoints <;> simp [hk]
  · simp only [Course.advance, due, length]
    rw [timer.schedule.reached_succ, List.map_append, earlier]
    by_cases hk : readings.length + 1 ∈ timer.schedule.checkpoints
    · simp [hk, measures.sample (by simp)]
    · simp [hk]
  · simp only [Course.advance, due, length]

/-- A run has sampled the checkpoints up to its last row at every moment, by induction on its
rows.
-/
theorem Course.sampled_advanceAll (timer : Timer R) (start : Duration) (log : W)
    (readings : List Duration)
    : ((Course.fresh timer start log).advanceAll timer start readings).Sampled timer start
        readings := by
  induction readings using List.reverseRecOn with
  | nil => exact Course.sampled_start timer start log
  | append_singleton readings now ih =>
      rw [Course.advanceAll_concat]
      exact ih.advance now

-----------------------------------------------------------------------------------------
-- The budget
-----------------------------------------------------------------------------------------

/-- Whether the budget of a timer is used up at a row. -/
def Timer.spentAt (timer : Timer R) (start : Duration) (readings : List Duration) (row : Nat)
    : Bool :=
  Seconds.reaches (elapsedAt start readings row : R) (Seconds.ofDuration timer.budget)

theorem Course.spent_take (timer : Timer R) (start : Duration) (log : W)
    {readings : List Duration} {row : Nat} (positive : 0 < row) (bound : row ≤ readings.length)
    : ((Course.fresh timer start log).advanceAll timer start (readings.take row)).spent timer
      = timer.spentAt start readings row := by
  have length : (readings.take row).length = row := List.length_take_of_le bound
  have reading : readingAt start (readings.take row) row = readingAt start readings row := by
    rw [← readingAt_append (Nat.le_of_eq length.symm), List.take_append_drop]
  have elapsed := (Course.sampled_advanceAll timer start log (readings.take row)).tally.elapsed
    (length.symm ▸ positive)
  rw [length, elapsedAt, reading] at elapsed
  rw [Course.spent, elapsed, Timer.spentAt, elapsedAt]

/-- No row after which a run goes on uses up the budget. -/
theorem Course.GoesOnFor.under {timer : Timer R} {start : Duration} {log : W}
    {readings : List Duration} {rows row : Nat}
    (on : (Course.fresh timer start log).GoesOnFor timer start readings rows)
    (positive : 0 < row) (within : row ≤ rows) (bound : row ≤ readings.length)
    : timer.spentAt start readings row = false := by
  have goes := on row positive within
  rw [Course.goesOn, Bool.and_eq_true, Bool.not_eq_true'] at goes
  rw [← Course.spent_take timer start log positive bound, goes.2]

end JoinLatency

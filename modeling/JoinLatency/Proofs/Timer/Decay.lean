import JoinLatency.Proofs.Timer.Traces
import JoinLatency.Time.Exact
import Mathlib

/-! Decayed times in exact arithmetic, for clocks that do not go back. The factors of the rows are
the powers of the decay from the first one on, so that the decayed time is a sum over the gaps,
never falls, stays below the elapsed time after one decay, and is bounded for constant gaps however
many rows there are.
-/

namespace JoinLatency

-----------------------------------------------------------------------------------------
-- Durations as fractions
-----------------------------------------------------------------------------------------

namespace Duration

theorem exact_eq_div (duration : Duration)
    : duration.exact = (duration.nanoseconds : ℚ) / (perSecond : ℚ) := by
  rw [exact, Rat.mkRat_eq_div]
  rfl

@[simp] theorem exact_zero : zero.exact = 0 := by
  simp [exact_eq_div, zero]

theorem exact_nonneg (duration : Duration) : 0 ≤ duration.exact := by
  rw [exact_eq_div]
  positivity

theorem exact_mono {shorter longer : Duration} (h : shorter.nanoseconds ≤ longer.nanoseconds)
    : shorter.exact ≤ longer.exact := by
  rw [exact_eq_div, exact_eq_div]
  gcongr

/-- The time since an earlier reading is the difference of the readings, without truncation. -/
theorem exact_since {now earlier : Duration} (h : earlier.nanoseconds ≤ now.nanoseconds)
    : (now.since earlier).exact = now.exact - earlier.exact := by
  simp only [exact_eq_div, since, Nat.cast_sub h, sub_div]

end Duration

-----------------------------------------------------------------------------------------
-- Clocks that do not go back
-----------------------------------------------------------------------------------------

/-- The reading at a row as a fraction. The zeroth one is the start of the run. -/
def timeAt (start : Duration) (readings : List Duration) (row : Nat) : ℚ :=
  (readingAt start readings row).exact

/-- No reading is earlier than the one before it, for the start and a number of rows. -/
def Forward (start : Duration) (readings : List Duration) (rows : Nat) : Prop :=
  ∀ row < rows,
    (readingAt start readings row).nanoseconds ≤ (readingAt start readings (row + 1)).nanoseconds

variable {start : Duration} {readings : List Duration} {rows earlier later row : Nat} {sigma : ℚ}

namespace Forward

/-- Readings are ordered as their rows are, by induction from the earlier row. -/
theorem readings_mono (forward : Forward start readings rows) (order : earlier ≤ later)
    (bound : later ≤ rows)
    : (readingAt start readings earlier).nanoseconds
      ≤ (readingAt start readings later).nanoseconds := by
  induction later, order using Nat.le_induction with
  | base => exact Nat.le_refl _
  | succ later _ ih => exact (ih (by omega)).trans (forward later (by omega))

theorem timeAt_mono (forward : Forward start readings rows) (order : earlier ≤ later)
    (bound : later ≤ rows) : timeAt start readings earlier ≤ timeAt start readings later :=
  Duration.exact_mono (forward.readings_mono order bound)

theorem elapsedAt_eq (forward : Forward start readings rows) (bound : row ≤ rows)
    : (elapsedAt start readings row : ℚ) = timeAt start readings row - timeAt start readings 0 :=
  Duration.exact_since (forward.readings_mono (Nat.zero_le row) bound)

theorem elapsedAt_mono (forward : Forward start readings rows) (order : earlier ≤ later)
    (bound : later ≤ rows)
    : (elapsedAt start readings earlier : ℚ) ≤ elapsedAt start readings later := by
  rw [forward.elapsedAt_eq (order.trans bound), forward.elapsedAt_eq bound]
  exact sub_le_sub_right (forward.timeAt_mono order bound) _

end Forward

-----------------------------------------------------------------------------------------
-- Decayed times
-----------------------------------------------------------------------------------------

/-- The factor before the first row is one decay already. -/
theorem decayFactor_eq_pow (sigma : ℚ) (row : Nat) : decayFactor sigma row = sigma ^ (row + 1) := by
  induction row with
  | zero => exact (pow_one sigma).symm
  | succ row ih =>
      have next : decayFactor sigma (row + 1) = decayFactor sigma row * sigma := rfl
      rw [next, ih, ← pow_succ]

theorem decayedAt_zero : decayedAt sigma start readings 0 = 0 := rfl

namespace Forward

/-- One more row adds the gap before it, with as many decays as there are rows now. -/
theorem decayedAt_succ (forward : Forward start readings rows) (bound : row < rows)
    : decayedAt sigma start readings (row + 1)
      = decayedAt sigma start readings row
        + (timeAt start readings (row + 1) - timeAt start readings row) * sigma ^ (row + 1) := by
  have added
      : decayedAt sigma start readings (row + 1)
        = decayedAt sigma start readings row
          + ((readingAt start readings (row + 1)).since (readingAt start readings row)).exact
            * decayFactor sigma row := rfl
  rw [added, Duration.exact_since (forward row bound), decayFactor_eq_pow]
  rfl

/-- The decayed time as a sum over the rows, by induction on them. -/
theorem decayedAt_eq_sum (forward : Forward start readings rows) (bound : row ≤ rows)
    : decayedAt sigma start readings row
      = ∑ i ∈ Finset.Icc 1 row,
          (timeAt start readings i - timeAt start readings (i - 1)) * sigma ^ i := by
  induction row with
  | zero => rfl
  | succ row ih =>
      rw [forward.decayedAt_succ (by omega), ih (by omega), Finset.sum_Icc_succ_top (by omega),
        Nat.add_sub_cancel]

/-- Every row adds something that is not negative. -/
theorem decayedAt_mono (forward : Forward start readings rows) (positive : 0 < sigma)
    (order : earlier ≤ later) (bound : later ≤ rows)
    : decayedAt sigma start readings earlier ≤ decayedAt sigma start readings later := by
  induction later, order using Nat.le_induction with
  | base => exact le_refl _
  | succ later _ ih =>
      have gap : timeAt start readings later ≤ timeAt start readings (later + 1) :=
        forward.timeAt_mono (Nat.le_succ later) bound
      have added
          : 0 ≤ (timeAt start readings (later + 1) - timeAt start readings later)
              * sigma ^ (later + 1) :=
        mul_nonneg (sub_nonneg.mpr gap) (pow_nonneg positive.le _)
      rw [forward.decayedAt_succ (by omega)]
      linarith [ih (by omega)]

/-- Every gap counts with at least one decay, by induction on the rows. -/
theorem decayedAt_le (forward : Forward start readings rows) (positive : 0 < sigma)
    (below : sigma < 1) (bound : row ≤ rows)
    : decayedAt sigma start readings row ≤ sigma * elapsedAt start readings row := by
  rw [forward.elapsedAt_eq bound]
  induction row with
  | zero => simp [decayedAt_zero]
  | succ row ih =>
      have gap : timeAt start readings row ≤ timeAt start readings (row + 1) :=
        forward.timeAt_mono (Nat.le_succ row) bound
      have decays : sigma ^ (row + 1) ≤ sigma :=
        pow_le_of_le_one positive.le below.le (Nat.succ_ne_zero row)
      calc decayedAt sigma start readings (row + 1)
          = decayedAt sigma start readings row
            + (timeAt start readings (row + 1) - timeAt start readings row) * sigma ^ (row + 1) :=
              forward.decayedAt_succ (by omega)
        _ ≤ sigma * (timeAt start readings row - timeAt start readings 0)
            + (timeAt start readings (row + 1) - timeAt start readings row) * sigma :=
              add_le_add (ih (by omega)) (mul_le_mul_of_nonneg_left decays (sub_nonneg.mpr gap))
        _ = sigma * (timeAt start readings (row + 1) - timeAt start readings 0) := by ring

/-- The geometric sum that a constant gap gives. -/
theorem decayedAt_of_gap (forward : Forward start readings rows) (below : sigma < 1) {gap : ℚ}
    (constant : ∀ row < rows, timeAt start readings (row + 1) - timeAt start readings row = gap)
    (bound : row ≤ rows)
    : decayedAt sigma start readings row = gap * sigma * (1 - sigma ^ row) / (1 - sigma) := by
  have nonzero : 1 - sigma ≠ 0 := by linarith
  induction row with
  | zero => simp [decayedAt_zero]
  | succ row ih =>
      rw [forward.decayedAt_succ (by omega), ih (by omega), constant row (by omega)]
      field_simp
      ring

end Forward

/-- A geometric sum stays below its limit. -/
theorem geometric_le {gap : ℚ} (nonneg : 0 ≤ gap) (positive : 0 < sigma) (below : sigma < 1)
    (row : Nat) : gap * sigma * (1 - sigma ^ row) / (1 - sigma) ≤ gap * sigma / (1 - sigma) := by
  have rest : 0 < 1 - sigma := sub_pos.mpr below
  have part : 1 - sigma ^ row ≤ 1 := sub_le_self 1 (pow_nonneg positive.le row)
  exact div_le_div_of_nonneg_right
    (mul_le_of_le_one_right (mul_nonneg nonneg positive.le) part) rest.le

-----------------------------------------------------------------------------------------
-- The samples of a run
-----------------------------------------------------------------------------------------

/-- A sample has the times of the row that it counts to. -/
structure Sample.At (sigma : ℚ) (start : Duration) (readings : List Duration) (rows : Nat)
    (sample : Sample ℚ) : Prop where
  bound : sample.count ≤ rows
  elapsed : sample.elapsed = elapsedAt start readings sample.count
  decayed : sample.decayed = decayedAt sigma start readings sample.count

theorem Sample.at_atRow (kind : SampleKind) (bound : row ≤ rows)
    : (Sample.atRow sigma start readings kind row).At sigma start readings rows :=
  ⟨bound, rfl, rfl⟩

/-- The floor sample has the times of the start. -/
theorem Sample.at_floor : (Sample.floor : Sample ℚ).At sigma start readings rows where
  bound := Nat.zero_le rows
  elapsed := by
    have none : (readingAt start readings 0).since start = Duration.zero := by
      simp [readingAt, Duration.since, Duration.zero]
    change (0 : ℚ) = ((readingAt start readings 0).since start).exact
    rw [none, Duration.exact_zero]
  decayed := rfl

/-- Later rows do not change the times at earlier ones. -/
theorem Sample.At.append {sample : Sample ℚ} {more : List Duration}
    (h : sample.At sigma start readings readings.length)
    : sample.At sigma start (readings ++ more) readings.length where
  bound := h.bound
  elapsed := by rw [h.elapsed, elapsedAt, elapsedAt, readingAt_append h.bound]
  decayed := by rw [h.decayed, decayedAt_append h.bound]

namespace Timer

theorem at_of_mem_rowSamples {timer : Timer ℚ} {sample : Sample ℚ}
    (h : sample ∈ timer.rowSamples start readings)
    : sample.At timer.sigma start readings readings.length := by
  simp only [rowSamples] at h
  split at h
  · obtain rfl := List.mem_singleton.mp h
    exact Sample.at_floor
  · rcases List.mem_append.mp h with checkpoint | overflow
    · obtain ⟨k, reached, rfl⟩ := List.mem_map.mp checkpoint
      exact Sample.at_atRow _ (Schedule.mem_reached.mp reached).2
    · split at overflow
      · cases overflow
      · obtain rfl := List.mem_singleton.mp overflow
        exact Sample.at_atRow _ (Nat.le_refl _)

/-- The samples of a run count to ever later rows and have the times of these, as the readings of
the script tell them.
-/
theorem samples_at {W : Type} [Sink W] (timer : Timer ℚ) {script : Script} {log : W}
    {trace : Trace ℚ}
    (returned : (timer.run script log).result = .ok trace)
    : (∀ sample ∈ trace.samples,
        sample.At timer.sigma script.reading script.readings trace.fetched)
      ∧ trace.samples.Pairwise (fun first second => first.count < second.count) := by
  obtain ⟨readings, last, stop, fetched, rfl, _⟩ := run_ok returned
  have events : script.readings = readings ++ last.readings := by
    simp [Script.readings, Script.events_of_fetches fetched, Function.comp_def]
  constructor
  · intro sample member
    rw [events]
    exact (at_of_mem_rowSamples member).append
  · have ordered := timer.schedule.pairwise_shape readings.length
    rw [← timer.map_rowSamples script.reading, List.map_map, List.pairwise_map] at ordered
    exact ordered

/-- On a clock that does not go back, the decayed time of a sample is the sum of the gaps before
its rows, the gap before a row with as many decays as rows up to it. Elapsed and decayed times do
not fall from one sample to a later one, the decayed time is at most one decay of the elapsed one,
and for a constant gap it is a geometric sum, which no number of rows takes past its limit.
-/
theorem decay_in_closed_form {W : Type} [Sink W] (timer : Timer ℚ) (script : Script) (log : W)
    (trace : Trace ℚ)
    (positive : 0 < timer.sigma) (below : timer.sigma < 1)
    (forward : Forward script.reading script.readings trace.fetched)
    (returned : (timer.run script log).result = .ok trace)
    : let sigma := timer.sigma
      let time := timeAt script.reading script.readings
      (∀ sample ∈ trace.samples,
        sample.elapsed = time sample.count - time 0
        ∧ sample.decayed
          = ∑ i ∈ Finset.Icc 1 sample.count, (time i - time (i - 1)) * sigma ^ i
        ∧ sample.decayed ≤ sigma * sample.elapsed)
      ∧ trace.samples.Pairwise (fun first second =>
          first.elapsed ≤ second.elapsed ∧ first.decayed ≤ second.decayed)
      ∧ ∀ gap : Duration, (∀ row < trace.fetched, time (row + 1) - time row = gap.exact) →
          ∀ sample ∈ trace.samples,
            sample.decayed = gap.exact * sigma * (1 - sigma ^ sample.count) / (1 - sigma)
            ∧ sample.decayed ≤ gap.exact * sigma / (1 - sigma) := by
  intro sigma time
  obtain ⟨atRows, ordered⟩ := timer.samples_at returned
  refine ⟨?_, ?_, ?_⟩
  · intro sample member
    have row := atRows sample member
    refine ⟨?_, ?_, ?_⟩
    · rw [row.elapsed]
      exact forward.elapsedAt_eq row.bound
    · rw [row.decayed]
      exact forward.decayedAt_eq_sum row.bound
    · rw [row.decayed, row.elapsed]
      exact forward.decayedAt_le positive below row.bound
  · refine ordered.imp_of_mem ?_
    intro first second firstMember secondMember order
    have earlier := atRows first firstMember
    have later := atRows second secondMember
    rw [earlier.elapsed, later.elapsed, earlier.decayed, later.decayed]
    exact ⟨forward.elapsedAt_mono order.le later.bound,
      forward.decayedAt_mono positive order.le later.bound⟩
  · intro gap constant sample member
    have row := atRows sample member
    have closed : sample.decayed
        = gap.exact * sigma * (1 - sigma ^ sample.count) / (1 - sigma) := by
      rw [row.decayed]
      exact forward.decayedAt_of_gap below constant row.bound
    refine ⟨closed, ?_⟩
    rw [closed]
    exact geometric_le gap.exact_nonneg positive below sample.count

/-- Half a decay, and a tenth of a second before each of three rows. -/
theorem decay_in_closed_form_tenths
    : ∃ (timer : Timer ℚ) (script : Script) (trace : Trace ℚ),
        timer.sigma = 1 / 2
        ∧ script.readings = [⟨100000007⟩, ⟨200000007⟩, ⟨300000007⟩]
        ∧ (timer.run script ({} : Log)).result = .ok trace
        ∧ trace.samples.map (fun sample => (sample.count, sample.decayed))
          = [(2, 3 / 40), (3, 7 / 80)]
        ∧ ∀ sample ∈ trace.samples,
            sample.decayed
              = 1 / 10 * (1 / 2) * (1 - (1 / 2) ^ sample.count) / (1 - 1 / 2)
            ∧ sample.decayed ≤ 1 / 10 * (1 / 2) / (1 - 1 / 2) := by
  let timer : Timer ℚ := {
    schedule := ⟨[2, 5], by simp, by simp, by simp [Increasing]⟩
    sigma := 1 / 2
  }
  let script : Script := {
    reading := ⟨7⟩
    events := [(⟨100000007⟩, .row), (⟨200000007⟩, .row), (⟨300000007⟩, .row)]
  }
  have run
      : (timer.run script ({} : Log)).result.toOption.map (fun trace =>
          (trace.fetched, trace.samples.map (fun sample => (sample.count, sample.decayed))))
        = some (3, [(2, 3 / 40), (3, 7 / 80)]) := by
    decide +kernel
  cases returned : (timer.run script ({} : Log)).result with
  | error fault => rw [returned] at run; cases run
  | ok trace =>
      rw [returned] at run
      obtain ⟨fetched, samples⟩ := Prod.mk.inj (Option.some.inj run)
      have forward : Forward script.reading script.readings trace.fetched := by
        rw [fetched, Forward]
        decide +kernel
      have tenths
          : ∀ row < trace.fetched,
              timeAt script.reading script.readings (row + 1)
                - timeAt script.reading script.readings row
              = Duration.exact ⟨100000000⟩ := by
        rw [fetched]
        decide +kernel
      have tenth : Duration.exact ⟨100000000⟩ = 1 / 10 := by decide +kernel
      obtain ⟨_, _, constant⟩ :=
        decay_in_closed_form timer script ({} : Log) trace (by decide +kernel) (by decide +kernel)
          forward returned
      refine ⟨timer, script, trace, rfl, rfl, returned, samples, ?_⟩
      rw [← tenth]
      exact constant ⟨100000000⟩ tenths

end Timer

end JoinLatency

import JoinLatency.Proofs.Timer.Sampling
import JoinLatency.Proofs.Timer.Shift

/-! Runs on synthetic cursors. The rows of a cursor are all one delay apart, so that a scripted
failure and the budget tell beforehand at which row a run stops and whether it loses its
connection there. A run ends before that only if the clock has no room for all the rows.
-/

namespace JoinLatency

variable {R W : Type} [Seconds R]

-----------------------------------------------------------------------------------------
-- Rows of a cursor
-----------------------------------------------------------------------------------------

namespace SyntheticCursor

/-- The time that a number of rows takes. -/
def timeOf (cursor : SyntheticCursor) (rows : Nat) : Duration :=
  ⟨rows * cursor.delay.nanoseconds⟩

/-- The cursor after a number of rows. -/
def after (cursor : SyntheticCursor) (rows : Nat) : SyntheticCursor :=
  {
    cursor with
    clock := cursor.clock.later (cursor.timeOf rows)
    fetched := cursor.fetched + rows
  }

/-- Whether the clock of a cursor can show the reading after a number of rows. -/
def Shows (cursor : SyntheticCursor) (rows : Nat) : Prop :=
  cursor.clock.nanoseconds + rows * cursor.delay.nanoseconds ≤ Duration.longest.nanoseconds

theorem Shows.of_le {cursor : SyntheticCursor} {rows more : Nat} (h : cursor.Shows more)
    (fewer : rows ≤ more)
    : cursor.Shows rows := by
  have time := Nat.mul_le_mul_right cursor.delay.nanoseconds fewer
  unfold Shows at h ⊢
  omega

theorem shows_iff_plus? {cursor : SyntheticCursor} {rows : Nat}
    : cursor.Shows rows
      ↔ cursor.clock.plus? (cursor.timeOf rows) = some (cursor.after rows).clock := by
  rw [Duration.plus?_eq_some_iff]
  exact ⟨fun shown => ⟨rfl, shown⟩, And.right⟩

end SyntheticCursor

/-- Whether rows that took some time have used up the budget. -/
def Timer.spentAfter (timer : Timer R) (passed : Duration) : Bool :=
  Seconds.reaches (Seconds.ofDuration passed : R) (Seconds.ofDuration timer.budget)

namespace SyntheticCursor

/-- A run loses its connection if the loss is scripted for a row that there is, and no row before
it uses up the budget.
-/
def loses (timer : Timer R) (cursor : SyntheticCursor) : Bool :=
  match cursor.failure with
  | some (after, .connectionLost _) =>
      after ≤ cursor.rows
        && (List.range after).all fun row =>
          !timer.spentAfter (cursor.timeOf (row + 1))
  | _ => false

theorem loses_iff {timer : Timer R} {cursor : SyntheticCursor}
    : cursor.loses timer = true
      ↔ ∃ after message,
          cursor.failure = some (after, .connectionLost message)
          ∧ after ≤ cursor.rows
          ∧ ∀ row < after, timer.spentAfter (cursor.timeOf (row + 1)) = false := by
  rw [loses]
  split
  next after message failure =>
    simp only [failure, Bool.and_eq_true, decide_eq_true_eq, List.all_eq_true, List.mem_range,
      Bool.not_eq_true']
    constructor
    · exact fun h => ⟨after, message, rfl, h⟩
    · rintro ⟨after', message', same, h⟩
      obtain ⟨rfl, _⟩ := Prod.mk.inj (Option.some.inj same)
      exact h
  next other =>
    refine iff_of_false (by simp) ?_
    rintro ⟨after, message, failure, _⟩
    exact other after message failure

/-- What one fetch answers: a failure that is due, a row if there is one, or the end. There is no
answer if the clock cannot be moved on to the row.
-/
inductive Answers (cursor : SyntheticCursor) : Option (Fetch × SyntheticCursor) → Prop
  | row (shown : cursor.Shows 1) (there : cursor.fetched < cursor.rows)
    (later : ∀ failure ∈ cursor.failure, cursor.fetched < failure.1)
    : Answers cursor (some (.row, cursor.after 1))
  | finished (ended : cursor.rows ≤ cursor.fetched)
    (later : ∀ failure ∈ cursor.failure, cursor.fetched < failure.1)
    : Answers cursor (some (.finished, cursor))
  | failed {after : Nat} {error : FetchError} (due : after ≤ cursor.fetched)
    (scripted : cursor.failure = some (after, error))
    : Answers cursor (some (.failed error, cursor))
  | overflow (beyond : ¬ cursor.Shows 1) (there : cursor.fetched < cursor.rows)
    (later : ∀ failure ∈ cursor.failure, cursor.fetched < failure.1)
    : Answers cursor none

theorem answers_fetch (cursor : SyntheticCursor) : cursor.Answers (RowSource.fetch cursor) := by
  change cursor.Answers cursor.fetch
  rw [fetch]
  cases due : cursor.failure.filter fun failure => failure.1 ≤ cursor.fetched with
  | some failure =>
      obtain ⟨scripted, reached⟩ := Option.filter_eq_some_iff.mp due
      exact .failed (of_decide_eq_true reached) scripted
  | none =>
      have later : ∀ failure ∈ cursor.failure, cursor.fetched < failure.1 := by
        intro failure scripted
        simpa using Option.filter_eq_none_iff.mp due failure scripted
      by_cases last : cursor.rows ≤ cursor.fetched
      · simp only [if_pos last]
        exact .finished last later
      · simp only [if_neg last]
        have there := Nat.lt_of_not_le last
        have next : cursor.timeOf 1 = cursor.delay := by simp [timeOf]
        by_cases shown : cursor.Shows 1
        · have moved := shows_iff_plus?.mp shown
          rw [next] at moved
          rw [moved]
          exact .row shown there later
        · have beyond : cursor.clock.plus? cursor.delay = none := by
            refine Duration.plus?_eq_none_iff.mpr ?_
            simpa [Shows] using shown
          rw [beyond]
          exact .overflow shown there later

theorem answers_of_fetch {cursor : SyntheticCursor} {outcome : Option (Fetch × SyntheticCursor)}
    (h : RowSource.fetch cursor = outcome)
    : cursor.Answers outcome :=
  h ▸ cursor.answers_fetch

end SyntheticCursor

/-- Rows of a cursor are one delay apart, and come before its end, before its failure and before the
end of its clock.
-/
structure SyntheticCursor.Gives (cursor : SyntheticCursor) (readings : List Duration)
    (last : SyntheticCursor) : Prop where
  last : last = cursor.after readings.length
  reading
    : ∀ row ≤ readings.length,
        readingAt cursor.clock readings row = cursor.clock.later (cursor.timeOf row)
  within : ∀ row < readings.length, cursor.fetched + row < cursor.rows
  early : ∀ row < readings.length, ∀ failure ∈ cursor.failure, cursor.fetched + row < failure.1
  shown : readings ≠ [] → cursor.Shows readings.length

/-- One more row comes one delay before the rows of the cursor that it leaves. -/
theorem SyntheticCursor.Gives.cons {cursor last : SyntheticCursor} {readings : List Duration}
    (more : (cursor.after 1).Gives readings last) (first : cursor.Shows 1)
    (there : cursor.fetched < cursor.rows)
    (later : ∀ failure ∈ cursor.failure, cursor.fetched < failure.1)
    : cursor.Gives ((cursor.after 1).clock :: readings) last := by
  have clock (row : Nat) : (cursor.after 1).clock.later ((cursor.after 1).timeOf row)
      = cursor.clock.later (cursor.timeOf (row + 1)) := by
    simp only [after, timeOf, Duration.later, Duration.mk.injEq, Nat.add_mul, Nat.one_mul]
    omega
  constructor
  · rw [more.last, after, clock]
    simp [after, Nat.add_right_comm, Nat.add_assoc]
  · intro row bound
    cases row with
    | zero => simp [readingAt, timeOf, Duration.later]
    | succ row =>
        have within : row < ((cursor.after 1).clock :: readings).length := bound
        rw [← clock, ← more.reading row (Nat.le_of_succ_le_succ bound)]
        simp only [readingAt, List.getElem?_cons_succ, List.getElem?_eq_getElem within,
          Option.getD_some]
  · intro row bound
    cases row with
    | zero => exact there
    | succ row =>
        have next := more.within row (Nat.lt_of_succ_lt_succ bound)
        simpa [after, Nat.add_right_comm, Nat.add_assoc] using next
  · intro row bound failure scripted
    cases row with
    | zero => exact later failure scripted
    | succ row =>
        have next := more.early row (Nat.lt_of_succ_lt_succ bound) failure scripted
        simpa [after, Nat.add_right_comm, Nat.add_assoc] using next
  · intro _
    cases readings with
    | nil => exact first
    | cons now rest =>
        have shown := more.shown (List.cons_ne_nil now rest)
        simp only [Shows, after, timeOf, Duration.later, List.length_cons, Nat.add_mul,
          Nat.one_mul] at shown ⊢
        omega

/-- All rows that are fetched from a cursor are those that it gives, by induction along them. -/
theorem Fetches.gives {cursor last : SyntheticCursor} {readings : List Duration}
    (h : Fetches cursor readings last)
    : cursor.Gives readings last := by
  induction h with
  | nil cursor =>
      refine ⟨?_, ?_, by simp, by simp, fun some => absurd rfl some⟩
      · simp [SyntheticCursor.after, SyntheticCursor.timeOf, Duration.later]
      · simp [readingAt, SyntheticCursor.timeOf, Duration.later]
  | @row cursor next last readings answer more ih =>
      cases SyntheticCursor.answers_of_fetch answer with
      | row shown there later => exact ih.cons shown there later

theorem SyntheticCursor.Gives.le_of_scripted {cursor last : SyntheticCursor}
    {readings : List Duration} (h : cursor.Gives readings last) (fresh : cursor.fetched = 0)
    {after : Nat} {error : FetchError} (scripted : cursor.failure = some (after, error))
    : readings.length ≤ after := by
  by_contra late
  have bound := h.early after (by omega) (after, error) (by simp [scripted])
  omega

/-- The rows of a fresh cursor are at most all of them. -/
theorem SyntheticCursor.Gives.length_le_rows {cursor last : SyntheticCursor}
    {readings : List Duration} (h : cursor.Gives readings last) (fresh : cursor.fetched = 0)
    : readings.length ≤ cursor.rows := by
  by_contra more
  have within := h.within cursor.rows (by omega)
  omega

/-- A clock that cannot be moved on has no room for all the rows of a fresh cursor. -/
theorem SyntheticCursor.Gives.not_shows {cursor last : SyntheticCursor}
    {readings : List Duration} (h : cursor.Gives readings last) (fresh : cursor.fetched = 0)
    (ended : RowSource.fetch last = none)
    : ¬ cursor.Shows cursor.rows := by
  obtain rfl := h.last
  cases answers_of_fetch ended with
  | overflow beyond there later =>
      refine fun shown => beyond ?_
      simp only [after, fresh] at there
      have next := shown.of_le (show readings.length + 1 ≤ cursor.rows by omega)
      simp only [Shows, after, timeOf, Duration.later, Nat.add_mul, Nat.one_mul] at next ⊢
      omega

-----------------------------------------------------------------------------------------
-- Runs on a cursor
-----------------------------------------------------------------------------------------

namespace Timer

variable {cursor last : SyntheticCursor} {readings : List Duration}

/-- Whether a row of a cursor uses up the budget can be told from its number. -/
theorem spentAt_of_gives (timer : Timer R) (rows : cursor.Gives readings last) {row : Nat}
    (bound : row ≤ readings.length)
    : timer.spentAt cursor.clock readings row = timer.spentAfter (cursor.timeOf row) := by
  rw [spentAt, elapsedAt, rows.reading row bound, Duration.since_later, spentAfter]

/-- A run leaves its cursor after the rows that it fetched. -/
theorem exists_source_eq_after [Sink W] (timer : Timer R) (fresh : cursor.fetched = 0) (log : W)
    : ∃ rows ≤ cursor.rows, (timer.run cursor log).source = cursor.after rows := by
  obtain ⟨readings, last, fetches, ending⟩ :=
    runFrom_ending timer cursor.clock (.fresh timer cursor.clock log) cursor
  have rows := fetches.gives
  refine ⟨readings.length, rows.length_le_rows fresh, ?_⟩
  rw [← rows.last]
  change (runFrom timer cursor.clock (.fresh timer cursor.clock log) cursor).source = last
  generalize runFrom timer cursor.clock (.fresh timer cursor.clock log) cursor = finished
    at ending ⊢
  cases ending with
  | finished answer on =>
      cases SyntheticCursor.answers_of_fetch answer
      rfl
  | @failed error rest answer on =>
      cases SyntheticCursor.answers_of_fetch answer
      cases error <;> rfl
  | overflow answer on => rfl
  | logFailed some on failed => rfl
  | spent some on sound spent => rfl

variable {log : Log}

/-- A failed fetch leaves a trace unless it lost the connection. -/
theorem stopFailed_cases {σ : Type} (course : Course R Log)
    (unlimited : course.log.capacity = none) (error : FetchError) (source : σ)
    : (∃ message,
        error = .connectionLost message
        ∧ (stopFailed course error source).result = .error (.connectionLost message))
      ∨ (∀ message, error ≠ .connectionLost message)
        ∧ ∃ trace, (stopFailed course error source).result = .ok trace := by
  have stopped {text : String} (reason : StopReason)
      : ∃ trace,
          (stop { course with log := course.log.write text } reason source).result = .ok trace :=
    ⟨_, congrArg Finished.result (stop_of_unlimited _ (by exact unlimited) reason source)⟩
  rw [stopFailed_of_unlimited course unlimited]
  cases error with
  | canceled message => exact .inr ⟨by simp, stopped (.canceled message)⟩
  | connectionLost message => exact .inl ⟨message, rfl, rfl⟩
  | other message => exact .inr ⟨by simp, stopped (.failed message)⟩

/-- A run on a fresh cursor with an unlimited log loses its connection exactly if this is scripted
before the rows or the budget are used up. Every other run leaves a trace, unless the clock has no
room for all the rows and ended the run.
-/
theorem run_result_cases (timer : Timer R) (fresh : cursor.fetched = 0)
    (unlimited : log.capacity = none)
    : (cursor.loses timer = true
        ∧ ∃ message, (timer.run cursor log).result = .error (.connectionLost message))
      ∨ (cursor.loses timer = false ∧ ∃ trace, (timer.run cursor log).result = .ok trace)
      ∨ (¬ cursor.Shows cursor.rows ∧ (timer.run cursor log).result = .error .clockOverflow) := by
  have begun : timer.run cursor log
      = runFrom timer cursor.clock (.fresh timer cursor.clock log) cursor := rfl
  obtain ⟨readings, last, fetches, ending⟩ :=
    runFrom_ending timer cursor.clock (.fresh timer cursor.clock log) cursor
  have rows := fetches.gives
  obtain rfl := rows.last
  have room : (Course.advanceAll timer cursor.clock (.fresh timer cursor.clock log)
      readings).log.capacity = none :=
    (Course.advanceAll_capacity timer cursor.clock _ readings).trans unlimited
  have stopped (reason : StopReason) (source : SyntheticCursor)
      : ∃ trace, (stop (Course.advanceAll timer cursor.clock (.fresh timer cursor.clock log)
          readings) reason source).result = .ok trace :=
    ⟨_, congrArg Finished.result (stop_of_unlimited _ room reason source)⟩
  rw [begun]
  generalize runFrom timer cursor.clock (.fresh timer cursor.clock log) cursor = finished
    at ending ⊢
  cases ending with
  | @finished rest answer on =>
      refine .inr (.inl ⟨Bool.eq_false_iff.mpr fun lost => ?_, stopped _ rest⟩)
      obtain ⟨after, message, scripted, within, _⟩ := SyntheticCursor.loses_iff.mp lost
      cases SyntheticCursor.answers_of_fetch answer with
      | finished ended later =>
          have due := later (after, .connectionLost message)
            (by simp [SyntheticCursor.after, scripted])
          simp only [SyntheticCursor.after] at ended due
          omega
  | @failed error rest answer on =>
      cases SyntheticCursor.answers_of_fetch answer with
      | @failed after _ due scripted =>
          have scripted : cursor.failure = some (after, error) := scripted
          have bound := rows.le_of_scripted fresh scripted
          rcases stopFailed_cases _ room error _ with ⟨message, rfl, lost⟩ | ⟨other, kept⟩
          · refine .inl ⟨?_, message, lost⟩
            refine SyntheticCursor.loses_iff.mpr ⟨after, message, scripted, ?_, ?_⟩
            · simp only [SyntheticCursor.after] at due
              have within := rows.length_le_rows fresh
              omega
            · intro row early
              simp only [SyntheticCursor.after] at due
              rw [← timer.spentAt_of_gives rows (by omega)]
              exact on.under (Nat.succ_pos row) (by omega) (by omega)
          · refine .inr (.inl ⟨Bool.eq_false_iff.mpr fun lost => ?_, kept⟩)
            obtain ⟨after', message, scripted', _⟩ := SyntheticCursor.loses_iff.mp lost
            obtain ⟨_, same⟩ := Prod.mk.inj (Option.some.inj (scripted.symm.trans scripted'))
            exact other message same
  | overflow answer on => exact .inr (.inr ⟨rows.not_shows fresh answer, rfl⟩)
  | logFailed some on failed => cases (Log.status_of_unlimited room).symm.trans failed
  | spent some on sound spent =>
      refine .inr (.inl ⟨Bool.eq_false_iff.mpr fun lost => ?_, stopped _ _⟩)
      obtain ⟨after, message, scripted, _, under⟩ := SyntheticCursor.loses_iff.mp lost
      have bound := rows.le_of_scripted fresh scripted
      obtain ⟨row, count⟩ : ∃ row, readings.length = row + 1 :=
        Nat.exists_eq_succ_of_ne_zero (mt List.length_eq_zero_iff.mp some)
      have whole := Course.spent_take timer cursor.clock log
        (show 0 < readings.length by omega) (Nat.le_refl readings.length)
      rw [List.take_length, spent, timer.spentAt_of_gives rows (Nat.le_refl _), count,
        under row (by omega)] at whole
      cases whole

end Timer

end JoinLatency

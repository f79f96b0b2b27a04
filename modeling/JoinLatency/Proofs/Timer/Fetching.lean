import JoinLatency.Timer.Run

/-! How runs go. A run fetches some rows, each of which leaves it under its budget with a log that
has not failed, and then ends: the source has no row, its clock cannot be moved on, or the last row
used up the budget or was more than the log could take.
-/

namespace JoinLatency

variable {R W σ : Type} [Seconds R] [Sink W] [RowSource σ]

/-- Fetching from one source gives nothing but rows until another one is left. A row counts as
the reading of the clock after it.
-/
inductive Fetches : σ → List Duration → σ → Prop
  | nil (source : σ) : Fetches source [] source
  | row {source next last : σ} {readings : List Duration}
    (answer : RowSource.fetch source = some (.row, next)) (more : Fetches next readings last)
    : Fetches source (RowSource.now next :: readings) last

namespace Course

/-- The course after rows at some readings. -/
def advanceAll (timer : Timer R) (start : Duration) (course : Course R W)
    (readings : List Duration) : Course R W :=
  readings.foldl (fun course now => course.advance timer start now) course

theorem advanceAll_concat (timer : Timer R) (start now : Duration) (course : Course R W)
    (readings : List Duration)
    : course.advanceAll timer start (readings ++ [now])
      = (course.advanceAll timer start readings).advance timer start now := by
  simp only [advanceAll, List.foldl_append, List.foldl_cons, List.foldl_nil]

/-- Whether a run goes on after a row: its log has not failed and its budget is not used up. -/
def goesOn (timer : Timer R) (course : Course R W) : Bool :=
  (Sink.status course.log).toBool && !course.spent timer

/-- Whether a run goes on after each of the first rows, up to a number of them. -/
def GoesOnFor (timer : Timer R) (start : Duration) (course : Course R W)
    (readings : List Duration) (rows : Nat) : Prop :=
  ∀ n, 0 < n → n ≤ rows → (course.advanceAll timer start (readings.take n)).goesOn timer = true

/-- A run that goes on after one row and then for more rows goes on for all of them. -/
theorem GoesOnFor.cons {timer : Timer R} {start now : Duration} {course : Course R W}
    {readings : List Duration} {rows : Nat}
    (first : (course.advance timer start now).goesOn timer = true)
    (later : GoesOnFor timer start (course.advance timer start now) readings rows)
    : GoesOnFor timer start course (now :: readings) (rows + 1) := by
  intro n positive bound
  cases n with
  | zero => omega
  | succ n =>
      rcases Nat.eq_zero_or_pos n with rfl | more
      · exact first
      · exact later n more (by omega)

theorem GoesOnFor.zero {timer : Timer R} {start : Duration} {course : Course R W}
    {readings : List Duration}
    : GoesOnFor timer start course readings 0 := by
  intro n positive bound
  omega

end Course

namespace Timer

/-- How a run ends after rows at some readings. Without a further row it has gone on after all of
them, otherwise after all but the last.
-/
inductive Ending (timer : Timer R) (start : Duration) (course : Course R W)
    (readings : List Duration) (last : σ)
    : Finished R σ W → Prop
  | finished {rest : σ} (answer : RowSource.fetch last = some (.finished, rest))
    (rows : course.GoesOnFor timer start readings readings.length)
    : Ending timer start course readings last
        (stop (course.advanceAll timer start readings) .exhausted rest)
  | failed {error : FetchError} {rest : σ}
    (answer : RowSource.fetch last = some (.failed error, rest))
    (rows : course.GoesOnFor timer start readings readings.length)
    : Ending timer start course readings last
        (stopFailed (course.advanceAll timer start readings) error rest)
  | overflow (answer : RowSource.fetch last = none)
    (rows : course.GoesOnFor timer start readings readings.length)
    : Ending timer start course readings last
        ⟨.error .clockOverflow, (course.advanceAll timer start readings).log, last⟩
  | logFailed (some : readings ≠ [])
    (rows : course.GoesOnFor timer start readings (readings.length - 1)) {fault : IoFault}
    (failed : Sink.status (course.advanceAll timer start readings).log = .error fault)
    : Ending timer start course readings last
        ⟨.error (.io fault), (course.advanceAll timer start readings).log, last⟩
  | spent (some : readings ≠ [])
    (rows : course.GoesOnFor timer start readings (readings.length - 1))
    (sound : Sink.status (course.advanceAll timer start readings).log = .ok ())
    (spent : (course.advanceAll timer start readings).spent timer = true)
    : Ending timer start course readings last
        (stop (course.advanceAll timer start readings) .budgetExceeded last)

/-- A row that leaves a run going puts itself before the rows of its ending. -/
theorem Ending.cons {timer : Timer R} {start now : Duration} {course : Course R W}
    {readings : List Duration} {last : σ} {result : Finished R σ W}
    (first : (course.advance timer start now).goesOn timer = true)
    (h : Ending timer start (course.advance timer start now) readings last result)
    : Ending timer start course (now :: readings) last result := by
  have fewer (some : readings ≠ []) : readings.length - 1 + 1 = readings.length := by
    have positive := List.length_pos_iff.mpr some
    omega
  cases h with
  | finished answer rows => exact .finished answer (.cons first rows)
  | failed answer rows => exact .failed answer (.cons first rows)
  | overflow answer rows => exact .overflow answer (.cons first rows)
  | logFailed some rows failed =>
      refine .logFailed (by simp) ?_ failed
      have longer := Course.GoesOnFor.cons first rows
      rwa [fewer some] at longer
  | spent some rows sound spent =>
      refine .spent (by simp) ?_ sound spent
      have longer := Course.GoesOnFor.cons first rows
      rwa [fewer some] at longer

/-- Every run fetches some rows and ends after them, by induction along the run. -/
theorem runFrom_ending (timer : Timer R) (start : Duration) (course : Course R W) (source : σ)
    : ∃ readings last,
        Fetches source readings last
        ∧ Ending timer start course readings last (runFrom timer start course source) := by
  fun_induction runFrom timer start course source with
  | case1 course source rest answer =>
      exact ⟨[], source, .nil source, .finished answer .zero⟩
  | case2 course source error rest answer =>
      exact ⟨[], source, .nil source, .failed answer .zero⟩
  | case3 course source rest answer next fault failed =>
      exact ⟨[RowSource.now rest], rest, .row answer (.nil rest),
        .logFailed (by simp) .zero failed⟩
  | case4 course source rest answer next sound spent =>
      exact ⟨[RowSource.now rest], rest, .row answer (.nil rest),
        .spent (by simp) .zero sound spent⟩
  | case5 course source rest answer next sound under ih =>
      obtain ⟨readings, last, rows, ending⟩ := ih
      have on : next.goesOn timer = true := by
        simp [Course.goesOn, sound, Except.toBool, Bool.eq_false_iff.mpr under]
      exact ⟨RowSource.now rest :: readings, last, .row answer rows, ending.cons on⟩
  | case6 course source answer => exact ⟨[], source, .nil source, .overflow answer .zero⟩

omit [Seconds R] [RowSource σ] in
/-- The last writes to a log leave the result of a run, unless they fail. -/
theorem finish_result (log : W) (result : Except Error (Trace R)) (source : σ)
    : (finish log result source).result = result
      ∨ ∃ fault, (finish log result source).result = .error (.io fault) := by
  simp only [finish]
  split
  · exact .inl rfl
  next fault failed => exact .inr ⟨fault, rfl⟩

omit [Seconds R] [RowSource σ] in
theorem finish_ne_overflow (log : W) {result : Except Error (Trace R)}
    (other : result ≠ .error .clockOverflow) (source : σ)
    : (finish log result source).result ≠ .error .clockOverflow := by
  obtain same | ⟨fault, failed⟩ := finish_result log result source
  · rwa [same]
  · simp [failed]

/-- The clock ends a run only where its source has no answer. -/
theorem fetches_of_overflow {timer : Timer R} {source : σ} {log : W}
    (h : (timer.run source log).result = .error .clockOverflow)
    : ∃ readings last, Fetches source readings last ∧ RowSource.fetch last = none := by
  obtain ⟨readings, last, rows, ending⟩ := runFrom_ending timer (RowSource.now source)
    (.fresh timer (RowSource.now source) log) source
  change (runFrom timer (RowSource.now source) (.fresh timer (RowSource.now source) log)
    source).result = _ at h
  generalize runFrom timer (RowSource.now source) (.fresh timer (RowSource.now source) log) source
    = finished at h ending
  have closes (course : Course R W) (reason : StopReason) (rest : σ)
      : (stop course reason rest).result ≠ .error .clockOverflow :=
    finish_ne_overflow _ (by simp) rest
  cases ending with
  | finished answer on => exact absurd h (closes _ _ _)
  | @failed error rest answer on =>
      cases error with
      | canceled message => exact absurd h (closes _ _ _)
      | connectionLost message => exact absurd h (finish_ne_overflow _ (by simp) rest)
      | other message => exact absurd h (closes _ _ _)
  | overflow answer on => exact ⟨readings, last, rows, answer⟩
  | logFailed some on failed => cases h
  | spent some on sound spent => exact absurd h (closes _ _ _)

end Timer

end JoinLatency

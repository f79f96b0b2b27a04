import JoinLatency.Proofs.Timer.Traces
import JoinLatency.Proofs.Timer.Shift

/-! Runs with a log of limited capacity. Such a run goes along with the run on an unlimited log
until its log is full, and then fails at once. Its log holds the first bytes of the whole text.
-/

namespace JoinLatency

variable {R W σ : Type} [Seconds R]

-----------------------------------------------------------------------------------------
-- Later sources
-----------------------------------------------------------------------------------------

/-- Some more fetches, whatever their answers, lead from one source to another. -/
inductive LeadsTo [RowSource σ] : σ → σ → Prop
  | refl (source : σ) : LeadsTo source source
  | fetch {source next later : σ} {answer : Fetch}
    (answered : RowSource.fetch source = some (answer, next)) (more : LeadsTo next later)
    : LeadsTo source later

namespace Script

/-- A fetch takes at most one event. -/
theorem length_events_of_fetch {script next : Script} {answer : Fetch}
    (h : RowSource.fetch script = some (answer, next))
    : next.events.length ≤ script.events.length := by
  by_cases row : answer = .row
  · subst row
    simp [events_of_row h]
  · rcases events_of_not_row row h with same | read
    · exact Nat.le_of_eq (congrArg List.length same).symm
    · simp [read]

theorem length_events_of_leadsTo {script later : Script} (h : LeadsTo script later)
    : later.events.length ≤ script.events.length := by
  induction h with
  | refl script => exact Nat.le_refl _
  | fetch answered _ ih => exact Nat.le_trans ih (length_events_of_fetch answered)

/-- More fetches from a script have handed out at least as many rows. -/
theorem rowsUntil_le_of_leadsTo (script : Script) {rest later : Script} (h : LeadsTo rest later)
    : script.rowsUntil rest ≤ script.rowsUntil later := by
  have left := length_events_of_leadsTo h
  have taken : script.events.length - rest.events.length
      ≤ script.events.length - later.events.length := by
    omega
  exact ((List.take_prefix_take_left taken).sublist).countP_le

end Script

-----------------------------------------------------------------------------------------
-- Growing logs
-----------------------------------------------------------------------------------------

/-- The first bytes of two arrays in a row are those of the first one, if it has enough. -/
theorem extract_append_left {first second : ByteArray} {size : Nat} (h : size ≤ first.size)
    : (first ++ second).extract 0 size = first.extract 0 size := by
  have none : size - first.size = 0 := by omega
  simp [ByteArray.extract_append, none]

namespace Log

/-- A later log has more text at the end. -/
def Grows (earlier later : Log) : Prop :=
  later.capacity = earlier.capacity ∧ ∃ more, later.text = earlier.text ++ more

theorem Grows.refl (log : Log) : log.Grows log :=
  ⟨rfl, "", String.append_empty.symm⟩

theorem Grows.trans {first second third : Log} (h : first.Grows second) (h' : second.Grows third)
    : first.Grows third := by
  obtain ⟨same, more, text⟩ := h
  obtain ⟨same', more', text'⟩ := h'
  exact ⟨same'.trans same, more ++ more', by rw [text', text, String.append_assoc]⟩

theorem grows_write (log : Log) (text : String) : log.Grows (log.write text) :=
  ⟨rfl, text, rfl⟩

theorem grows_record (log : Log) (text : String) : log.Grows (Sink.record log text) := by
  unfold Sink.record
  split
  · exact log.grows_write text
  · exact .refl log

theorem Grows.size_le {earlier later : Log} (h : earlier.Grows later)
    : earlier.text.utf8ByteSize ≤ later.text.utf8ByteSize := by
  obtain ⟨_, more, text⟩ := h
  rw [text, String.utf8ByteSize_append]
  omega

end Log

namespace Course

theorem logProgress_grows (told : Bool) (log : Log) (tally : Tally R)
    : log.Grows (logProgress told log tally) := by
  cases told
  · exact .refl log
  · exact log.grows_record _

theorem close_grows (course : Course R Log) (reason : StopReason)
    : course.log.Grows (course.close reason).1 := by
  simp only [close]
  split
  · exact (course.log.grows_record _).trans (Log.grows_record _ _)
  · exact course.log.grows_record _

end Course

namespace Timer

theorem stop_grows (course : Course R Log) (reason : StopReason) (source : σ)
    : course.log.Grows (stop course reason source).log := by
  rw [stop_eq, finish, Log.settle_eq]
  exact course.close_grows reason

theorem stopFailed_grows (course : Course R Log) (error : FetchError) (source : σ)
    : course.log.Grows (stopFailed course error source).log := by
  let noted := { course with log := Sink.record course.log (LogLine.failure error) }
  have note : course.log.Grows noted.log := course.log.grows_record _
  cases error with
  | canceled message => exact note.trans (stop_grows noted (.canceled message) source)
  | connectionLost message =>
      rw [stopFailed, finish, Log.settle_eq]
      exact note
  | other message => exact note.trans (stop_grows noted (.failed message) source)

/-- A run only adds to its log, by induction along the run. -/
theorem runFrom_grows [RowSource σ] (timer : Timer R) (start : Duration) (course : Course R Log)
    (source : σ)
    : course.log.Grows (runFrom timer start course source).log := by
  fun_induction runFrom timer start course source with
  | case1 course source rest answer => exact stop_grows course .exhausted rest
  | case2 course source error rest answer => exact stopFailed_grows course error rest
  | case3 course source rest answer next fault failed => exact Course.logProgress_grows _ _ _
  | case4 course source rest answer next sound spent =>
      exact (Course.logProgress_grows _ _ _).trans (stop_grows next .budgetExceeded rest)
  | case5 course source rest answer next sound under ih =>
      exact (Course.logProgress_grows _ _ _).trans ih
  | case6 course source ended => exact .refl course.log

/-- A run only fetches from its source, by induction along the run. -/
theorem runFrom_leads [RowSource σ] [Sink W] (timer : Timer R) (start : Duration)
    (course : Course R W) (source : σ)
    : LeadsTo source (runFrom timer start course source).source := by
  fun_induction runFrom timer start course source with
  | case1 course source rest answer => exact .fetch answer (.refl rest)
  | case2 course source error rest answer =>
      refine .fetch answer ?_
      cases error <;> exact .refl rest
  | case3 course source rest answer next fault failed => exact .fetch answer (.refl rest)
  | case4 course source rest answer next sound spent => exact .fetch answer (.refl rest)
  | case5 course source rest answer next sound under ih => exact .fetch answer ih
  | case6 course source ended => exact .refl source

end Timer

-----------------------------------------------------------------------------------------
-- Limited logs
-----------------------------------------------------------------------------------------

/-- A limited log keeps up with an unlimited one until it is full, and then stays as it is. -/
structure Log.Keeps (capacity : Nat) (whole limited : Log) : Prop where
  unlimited : whole.capacity = none
  limit : limited.capacity = some capacity
  text
    : limited.text = whole.text
      ∨ capacity < limited.text.utf8ByteSize ∧ ∃ more, whole.text = limited.text ++ more

namespace Log.Keeps

variable {capacity : Nat} {whole limited : Log}

/-- A full log is too small for the whole text, and has the first bytes of it. -/
theorem of_full (h : capacity < limited.text.utf8ByteSize) {more : String}
    (text : whole.text = limited.text ++ more)
    : capacity < whole.text.utf8ByteSize
      ∧ limited.text.toUTF8.extract 0 capacity = whole.text.toUTF8.extract 0 capacity := by
  constructor
  · rw [text, String.utf8ByteSize_append]
    omega
  · simp only [text, String.toUTF8, String.toByteArray_append]
    exact (extract_append_left (Nat.le_of_lt h)).symm

/-- A limited log fails if the whole text is too long for it. -/
theorem status_eq (h : Keeps capacity whole limited)
    : Sink.status limited
      = if capacity < whole.text.utf8ByteSize then .error .logFull else .ok () := by
  have overfull : limited.overfull = decide (capacity < whole.text.utf8ByteSize) := by
    rcases h.text with same | ⟨full, _, text⟩
    · simp only [Log.overfull, h.limit, same]
    · simp only [Log.overfull, h.limit]
      rw [decide_eq_true full, decide_eq_true (of_full full text).1]
  simp [Sink.status, Log.status, overfull]

/-- A limited log holds the first bytes of the whole text. -/
theorem held_eq (h : Keeps capacity whole limited)
    : limited.held = whole.text.toUTF8.extract 0 capacity := by
  simp only [Log.held, h.limit]
  rcases h.text with same | ⟨full, _, text⟩
  · rw [same]
  · exact (of_full full text).2

/-- A full log keeps up with whatever else is written to the unlimited one. -/
theorem grow (h : Keeps capacity whole limited) (full : capacity < whole.text.utf8ByteSize)
    {later : Log} (grows : whole.Grows later)
    : Keeps capacity later limited := by
  obtain ⟨same, more, text⟩ := grows
  refine ⟨same.trans h.unlimited, h.limit, .inr ?_⟩
  rcases h.text with whole | ⟨full, rest, begun⟩
  · exact ⟨whole ▸ full, more, whole ▸ text⟩
  · exact ⟨full, rest ++ more, by rw [text, begun, String.append_assoc]⟩

/-- Both logs take a text, or the limited one has failed and stays as it is. -/
theorem record (h : Keeps capacity whole limited) (text : String)
    : Keeps capacity (Sink.record whole text) (Sink.record limited text) := by
  rw [Log.record_of_unlimited h.unlimited, Sink.record, h.status_eq]
  by_cases full : capacity < whole.text.utf8ByteSize
  · rw [if_pos full]
    exact h.grow full (whole.grows_write text)
  · rw [if_neg full]
    rcases h.text with same | ⟨late, _, begun⟩
    · exact ⟨h.unlimited, h.limit, .inl (congrArg (· ++ text) same)⟩
    · exact absurd (of_full late begun).1 full

end Log.Keeps

/-- A run with a limited log beside the same run with an unlimited one. If the whole text fits, the
results are the same. Otherwise the run failed for its log, without going further in its source.
-/
structure Finished.Limits [RowSource σ] (capacity : Nat) (whole limited : Finished R σ Log)
    : Prop where
  log : Log.Keeps capacity whole.log limited.log
  result
    : limited.result
      = if capacity < whole.log.text.utf8ByteSize then .error (.io .logFull) else whole.result
  leads : LeadsTo limited.source whole.source

namespace Course

/-- The same course with another log. -/
def withLog (course : Course R Log) (log : Log) : Course R Log :=
  { course with log := log }

variable {capacity : Nat} {course : Course R Log} {limited : Log}

theorem advance_keeps (h : Log.Keeps capacity course.log limited) (timer : Timer R)
    (start now : Duration)
    : ∃ next,
        Log.Keeps capacity (course.advance timer start now).log next
        ∧ (course.withLog limited).advance timer start now
          = (course.advance timer start now).withLog next := by
  have told (told : Bool) (tally : Tally R)
      : Log.Keeps capacity (logProgress told course.log tally)
          (logProgress told limited tally) := by
    cases told with
    | true => exact h.record _
    | false => exact h
  exact ⟨_, told _ _, rfl⟩

theorem close_keeps (h : Log.Keeps capacity course.log limited) (reason : StopReason)
    : Log.Keeps capacity (course.close reason).1 ((course.withLog limited).close reason).1
      ∧ ((course.withLog limited).close reason).2 = (course.close reason).2 := by
  refine ⟨?_, rfl⟩
  cases unsampled : course.tally.fetched != 0 && !course.recorded with
  | false =>
      simp only [close, withLog, unsampled]
      exact h.record _
  | true =>
      simp only [close, withLog, unsampled]
      exact (h.record _).record _

end Course

namespace Timer

variable [RowSource σ] {capacity : Nat} {course : Course R Log} {limited : Log}

omit [Seconds R] in
/-- A run that ends with a write fails if the text is too long for its log. -/
theorem finish_limits {whole : Log} (h : Log.Keeps capacity whole limited)
    (result : Except Error (Trace R)) (source : σ)
    : Finished.Limits capacity (finish whole result source) (finish limited result source) := by
  rw [finish_of_unlimited h.unlimited, finish, Log.settle_eq]
  refine ⟨h, ?_, .refl source⟩
  simp only [h.status_eq]
  by_cases full : capacity < whole.text.utf8ByteSize
  · rw [if_pos full, if_pos full]
  · rw [if_neg full, if_neg full]

theorem stop_limits (h : Log.Keeps capacity course.log limited) (reason : StopReason) (source : σ)
    : Finished.Limits capacity (stop course reason source)
        (stop (course.withLog limited) reason source) := by
  obtain ⟨keeps, trace⟩ := course.close_keeps h reason
  rw [stop_eq, stop_eq, trace]
  exact finish_limits keeps _ source

theorem stopFailed_limits (h : Log.Keeps capacity course.log limited) (error : FetchError)
    (source : σ)
    : Finished.Limits capacity (stopFailed course error source)
        (stopFailed (course.withLog limited) error source) := by
  let noted := { course with log := Sink.record course.log (LogLine.failure error) }
  have note : Log.Keeps capacity noted.log (Sink.record limited (LogLine.failure error)) :=
    h.record _
  cases error with
  | canceled message => exact stop_limits note (.canceled message) source
  | connectionLost message => exact finish_limits note _ source
  | other message => exact stop_limits note (.failed message) source

omit [Seconds R] in
/-- A run whose limited log is full fails, and holds the first bytes of whatever the other run goes
on to write.
-/
theorem limits_of_full {log : Log} (h : Log.Keeps capacity log limited)
    (full : capacity < log.text.utf8ByteSize) {whole : Finished R σ Log}
    (grows : log.Grows whole.log) {source : σ} (leads : LeadsTo source whole.source)
    : Finished.Limits capacity whole ⟨.error (.io .logFull), limited, source⟩ := by
  refine ⟨h.grow full grows, ?_, leads⟩
  rw [if_pos (Nat.lt_of_lt_of_le full grows.size_le)]

/-- A row of a run with a limited log ends it if the text is too long by now. -/
theorem runFrom_limited_row (h : Log.Keeps capacity course.log limited) (timer : Timer R)
    (start : Duration) {source rest : σ} (answer : RowSource.fetch source = some (.row, rest))
    : let next := course.advance timer start (RowSource.now rest)
      ∃ log, Log.Keeps capacity next.log log
        ∧ runFrom timer start (course.withLog limited) source
          = if capacity < next.log.text.utf8ByteSize then ⟨.error (.io .logFull), log, rest⟩
            else if next.spent timer then stop (next.withLog log) .budgetExceeded rest
            else runFrom timer start (next.withLog log) rest := by
  intro next
  obtain ⟨log, keeps, advanced⟩ := course.advance_keeps h timer start (RowSource.now rest)
  refine ⟨log, keeps, ?_⟩
  have status : Sink.status (next.withLog log).log
      = if capacity < next.log.text.utf8ByteSize then .error .logFull else .ok () :=
    keeps.status_eq
  have spent : (next.withLog log).spent timer = next.spent timer := rfl
  rw [runFrom_of_answer answer]
  simp only [advanced]
  rw [status, spent]
  by_cases full : capacity < next.log.text.utf8ByteSize
  · simp only [if_pos full]
    rfl
  · simp only [if_neg full]
    rfl

/-- The rest of a run with a limited log, beside the one with an unlimited log, by induction along
the latter. The two get the same answers until the limited log is full.
-/
theorem runFrom_limits (timer : Timer R) (start : Duration) (course : Course R Log) (source : σ)
    : ∀ limited : Log, Log.Keeps capacity course.log limited
      → course.log.text.utf8ByteSize ≤ capacity
      → Finished.Limits capacity (runFrom timer start course source)
          (runFrom timer start (course.withLog limited) source) := by
  fun_induction runFrom timer start course source with
  | case1 course source rest answer =>
      intro limited h _
      rw [runFrom_of_answer answer]
      exact stop_limits h .exhausted rest
  | case2 course source error rest answer =>
      intro limited h _
      rw [runFrom_of_answer answer]
      exact stopFailed_limits h error rest
  | case3 course source rest answer next fault failed =>
      intro limited h _
      have room := (course.advance_capacity timer start (RowSource.now rest)).trans h.unlimited
      cases (Log.status_of_unlimited room).symm.trans failed
  | case4 course source rest answer next sound spent =>
      intro limited h _
      obtain ⟨log, keeps, row⟩ := runFrom_limited_row h timer start answer
      rw [row]
      by_cases full : capacity < next.log.text.utf8ByteSize
      · rw [if_pos full]
        exact limits_of_full keeps full (stop_grows next .budgetExceeded rest) (.refl rest)
      · rw [if_neg full, if_pos spent]
        exact stop_limits keeps .budgetExceeded rest
  | case5 course source rest answer next sound under ih =>
      intro limited h _
      obtain ⟨log, keeps, row⟩ := runFrom_limited_row h timer start answer
      rw [row]
      by_cases full : capacity < next.log.text.utf8ByteSize
      · rw [if_pos full]
        exact limits_of_full keeps full (runFrom_grows timer start next rest)
          (runFrom_leads timer start next rest)
      · rw [if_neg full, if_neg under]
        exact ih log keeps (Nat.le_of_not_lt full)
  | case6 course source ended =>
      intro limited h fits
      rw [runFrom_of_none ended]
      exact ⟨h, (if_neg (Nat.not_lt_of_le fits)).symm, .refl source⟩

/-- A log of some capacity takes the text of a run with the same result if the whole text fits. If
it does not, the log holds the first bytes of the text, as many as it can, and the run fails for
that, whatever it would have returned. In no case are more rows fetched.
-/
theorem run_of_capacity (timer : Timer R) (script : Script) (capacity : Nat)
    : let whole := timer.run script ({} : Log)
      let limited := timer.run script ({ capacity := some capacity } : Log)
      let text := whole.log.text.toUTF8
      (text.size ≤ capacity → limited.log.held = text ∧ limited.result = whole.result)
      ∧ (capacity < text.size
        → limited.log.held = text.extract 0 capacity
          ∧ limited.result = .error (.io .logFull))
      ∧ script.rowsUntil limited.source ≤ script.rowsUntil whole.source := by
  intro whole limited text
  have keeps : Log.Keeps capacity {} { capacity := some capacity } := ⟨rfl, rfl, .inl rfl⟩
  have limits : Finished.Limits capacity whole limited :=
    runFrom_limits timer script.reading (.fresh timer script.reading {}) script _ keeps
      (Nat.zero_le capacity)
  have size : text.size = whole.log.text.utf8ByteSize := rfl
  refine ⟨fun fits => ⟨?_, ?_⟩, fun long => ⟨limits.log.held_eq, ?_⟩,
    script.rowsUntil_le_of_leadsTo limits.leads⟩
  · rw [limits.log.held_eq]
    exact ByteArray.ext (ByteArray.data_extract.trans (Array.extract_eq_self_of_le fits))
  · rw [limits.result, ← size, if_neg (Nat.not_lt_of_le fits)]
  · rw [limits.result, ← size, if_pos long]

/-- A lost connection, of whose note the first eight bytes fit. -/
theorem run_of_capacity_within_note
    : ∃ (timer : Timer Float) (script : Script),
        timer.progressInterval = 1
        ∧ (timer.run script ({} : Log)).log.text
          = "1, 0.000000, 0.000000\nDatabase connection issue: gone\n"
        ∧ (timer.run script ({ capacity := some 30 } : Log)).log.held
          = "1, 0.000000, 0.000000\nDatabase".toUTF8
        ∧ (timer.run script ({ capacity := some 30 } : Log)).result = .error (.io .logFull)
        ∧ script.rowsUntil (timer.run script ({ capacity := some 30 } : Log)).source ≤ 1 := by
  let timer : Timer Float := {
    schedule := ⟨[2], by simp, by simp, by simp [Increasing]⟩
    sigma := 0.5
    progressInterval := 1
  }
  let script : Script := {
    reading := ⟨0⟩
    events := [(⟨1⟩, .row), (⟨2⟩, .failed (.connectionLost "gone"))]
  }
  have text : (timer.run script ({} : Log)).log.text
      = "1, 0.000000, 0.000000\nDatabase connection issue: gone\n" := by
    decide +kernel
  have rows : script.rowsUntil (timer.run script ({} : Log)).source = 1 := by decide +kernel
  obtain ⟨_, long, fewer⟩ := run_of_capacity timer script 30
  rw [text] at long
  rw [rows] at fewer
  obtain ⟨held, failed⟩ := long (by decide)
  exact ⟨timer, script, rfl, text, held.trans (by decide +kernel), failed, fewer⟩

end Timer

end JoinLatency

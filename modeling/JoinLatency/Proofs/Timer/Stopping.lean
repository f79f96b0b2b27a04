import JoinLatency.Proofs.Timer.Shift
import JoinLatency.Proofs.Timer.Traces

/-! Why runs stop. A run with an unlimited log ends at the first row that uses up the budget, and
otherwise the first answer that is no row decides. A source that counts its fetches shows that
nothing is fetched beyond that.
-/

namespace JoinLatency

variable {R W σ τ : Type} [Seconds R]

-----------------------------------------------------------------------------------------
-- Views of a source
-----------------------------------------------------------------------------------------

/-- The end of a run with another view of its source. -/
def Finished.map (f : σ → τ) (finished : Finished R σ W) : Finished R τ W :=
  { result := finished.result, log := finished.log, source := f finished.source }

/-- A source may be replaced by another one that answers alike at the same readings. -/
structure View [RowSource σ] [RowSource τ] (view : σ → τ) : Prop where
  fetch (source : σ)
    : RowSource.fetch (view source)
      = (RowSource.fetch source).map fun (answer, rest) => (answer, view rest)
  now (source : σ) : RowSource.now (view source) = RowSource.now source

theorem View.fetch_of_answer [RowSource σ] [RowSource τ] {view : σ → τ} (same : View view)
    {source rest : σ} {answer : Fetch} (h : RowSource.fetch source = some (answer, rest))
    : RowSource.fetch (view source) = some (answer, view rest) := by
  rw [same.fetch, h]
  rfl

theorem View.alike [RowSource σ] [RowSource τ] {view : σ → τ} (same : View view)
    : RowSource.Alike .zero False (fun source other => other = view source) where
  now := by
    rintro source _ rfl
    exact same.now source
  fetch := by
    rintro source _ rfl
    cases fetched : RowSource.fetch source with
    | none => exact .inl ⟨by rw [same.fetch, fetched]; rfl, .inl rfl⟩
    | some answer => exact .inr ⟨_, _, _, rfl, same.fetch_of_answer fetched, rfl⟩

/-- A run goes the same on a view of its source. -/
theorem Timer.run_view [RowSource σ] [RowSource τ] [Sink W] {view : σ → τ} (same : View view)
    (timer : Timer R) (source : σ) (log : W)
    : (timer.run source log).map view = timer.run (view source) log := by
  obtain ⟨result, left, seen⟩ | ⟨⟨⟩, _⟩ := run_alike .same same.alike timer rfl (rfl : log = log)
  rw [Finished.map, ← result, ← left, ← seen]

-----------------------------------------------------------------------------------------
-- Counting fetches
-----------------------------------------------------------------------------------------

/-- A source with the number of fetches that it has answered. -/
structure Counted (σ : Type) where
  source : σ
  calls : Nat := 0

instance [RowSource σ] : RowSource (Counted σ) where
  now counted := RowSource.now counted.source
  fetch counted :=
    (RowSource.fetch counted.source).map fun (answer, rest) =>
      (answer, { source := rest, calls := counted.calls + 1 })
  remaining counted := RowSource.remaining counted.source
  remaining_lt h := by
    obtain ⟨⟨_, _⟩, fetched, same⟩ := Option.map_eq_some_iff.mp h
    obtain ⟨rfl, rfl⟩ := Prod.mk.inj same
    exact RowSource.remaining_lt fetched

namespace Counted

variable [RowSource σ]

theorem view : View (Counted.source : Counted σ → σ) :=
  ⟨fun _ => by simp [RowSource.fetch, Function.comp_def], fun _ => rfl⟩

/-- A fetch is answered by the counted source and counts once. -/
theorem fetch_inv {counted rest : Counted σ} {answer : Fetch}
    (h : RowSource.fetch counted = some (answer, rest))
    : RowSource.fetch counted.source = some (answer, rest.source)
      ∧ rest.calls = counted.calls + 1 := by
  obtain ⟨_, fetched, same⟩ := Option.map_eq_some_iff.mp h
  obtain ⟨rfl, rfl⟩ := Prod.mk.inj same
  exact ⟨fetched, rfl⟩

/-- Every row of a counted source counts once, by induction on the rows. -/
theorem fetches_inv {counted last : Counted σ} {readings : List Duration}
    (h : Fetches counted readings last)
    : Fetches counted.source readings last.source
      ∧ last.calls = counted.calls + readings.length := by
  induction h with
  | nil counted => exact ⟨.nil _, rfl⟩
  | row answer _ ih =>
      obtain ⟨fetched, calls⟩ := fetch_inv answer
      obtain ⟨more, later⟩ := ih
      refine ⟨.row fetched more, ?_⟩
      simp only [later, calls, List.length_cons]
      omega

end Counted

/-- Counting the fetches of a run does not change it. -/
theorem Timer.run_counted [RowSource σ] [Sink W] (timer : Timer R) (counted : Counted σ)
    (log : W)
    : (timer.run counted log).map Counted.source = timer.run counted.source log :=
  run_view Counted.view timer counted log

-----------------------------------------------------------------------------------------
-- Answers of a script
-----------------------------------------------------------------------------------------

namespace Script

/-- The answer of a script to a fetch, counted from zero. Past its events that is the end. -/
def answer (script : Script) (fetch : Nat) : Fetch :=
  ((script.events[fetch]?).map (·.2)).getD .finished

/-- A script answers the fetches of rows with rows. -/
theorem answer_of_lt {script last : Script} {rows : List Duration} (h : Fetches script rows last)
    {fetch : Nat} (bound : fetch < rows.length)
    : script.answer fetch = .row := by
  rw [answer, events_of_fetches h, List.getElem?_append_left (by simpa using bound)]
  simp [bound]

/-- The fetch after some rows has the answer of the script that they leave. -/
theorem answer_of_fetch {script last rest : Script} {rows : List Duration} {answer : Fetch}
    (h : Fetches script rows last) (fetched : RowSource.fetch last = some (answer, rest))
    : script.answer rows.length = answer := by
  have here : script.events[rows.length]? = last.events.head? := by
    rw [events_of_fetches h, List.getElem?_append_right (by simp), List.length_map, Nat.sub_self,
      List.head?_eq_getElem?]
  rw [Script.answer, here]
  obtain ⟨reading, events⟩ := last
  cases events with
  | nil => exact (Prod.mk.inj (Option.some.inj fetched)).1
  | cons event more => exact (Prod.mk.inj (Option.some.inj fetched)).1

theorem readings_of_fetches {script last : Script} {rows : List Duration}
    (h : Fetches script rows last)
    : script.readings = rows ++ last.readings := by
  simp [readings, events_of_fetches h, Function.comp_def]

end Script

-----------------------------------------------------------------------------------------
-- The end of a run
-----------------------------------------------------------------------------------------

/-- What an answer that is no row makes of a run after a number of rows: all of them but the loss
of a connection are reasons to stop. A row decides nothing.
-/
def Fetch.Decides (rows : Nat) (outcome : Except Error (Nat × StopReason)) : Fetch → Prop
  | .row => False
  | .finished => outcome = .ok (rows, .exhausted)
  | .failed (.canceled message) => outcome = .ok (rows, .canceled message)
  | .failed (.other message) => outcome = .ok (rows, .failed message)
  | .failed (.connectionLost message) => outcome = .error (.connectionLost message)

/-- The number of rows of a run and the reason why it stopped. -/
def Finished.outcome (finished : Finished R σ W) : Except Error (Nat × StopReason) :=
  finished.result.map fun trace => (trace.fetched, trace.stop)

namespace Timer

/-- How a run with an unlimited log stops after rows at some readings: the budget is used up at
the last of them and no earlier, or at none of them and the next answer decides, if there is one.
-/
inductive Stops [RowSource σ] (timer : Timer R) (start : Duration) (readings : List Duration)
    (last : σ) (finished : Finished R σ W)
    : Prop
  | spent (some : 0 < readings.length)
    (under : ∀ row, 0 < row → row < readings.length → timer.spentAt start readings row = false)
    (spent : timer.spentAt start readings readings.length = true)
    (source : finished.source = last)
    (outcome : finished.outcome = .ok (readings.length, .budgetExceeded))
  | answered
    (under : ∀ row, 0 < row → row ≤ readings.length → timer.spentAt start readings row = false)
    {answer : Fetch} (fetched : RowSource.fetch last = some (answer, finished.source))
    (decides : answer.Decides readings.length finished.outcome)
  | overflow
    (under : ∀ row, 0 < row → row ≤ readings.length → timer.spentAt start readings row = false)
    (fetched : RowSource.fetch last = none) (source : finished.source = last)
    (outcome : finished.outcome = .error .clockOverflow)

variable {timer : Timer R} {start : Duration} {readings : List Duration}

theorem stop_outcome {course : Course R Log} (sampled : course.Sampled timer start readings)
    (unlimited : course.log.capacity = none) (reason : StopReason) (source : σ)
    : (stop course reason source).outcome = .ok (readings.length, reason) := by
  rw [Finished.outcome, stop_of_unlimited course unlimited, close_trace sampled]
  rfl

/-- A note in the log of a course leaves its samples alone. -/
theorem sampled_note {course : Course R Log} (sampled : course.Sampled timer start readings)
    (text : String)
    : { course with log := course.log.write text }.Sampled timer start readings :=
  ⟨sampled.tally, sampled.ahead, sampled.samples, sampled.recorded⟩

theorem stopFailed_decides {course : Course R Log}
    (sampled : course.Sampled timer start readings) (unlimited : course.log.capacity = none)
    (error : FetchError) (source : σ)
    : (Fetch.failed error).Decides readings.length (stopFailed course error source).outcome := by
  have noted := sampled_note sampled (LogLine.failure error)
  rw [stopFailed_of_unlimited course unlimited]
  cases error with
  | canceled message => exact stop_outcome noted unlimited (.canceled message) source
  | connectionLost message => rfl
  | other message => exact stop_outcome noted unlimited (.failed message) source

/-- A run with an unlimited log does not end by a full log, and goes on after every row under the
budget.
-/
theorem Ending.stops [RowSource σ] {log : Log} (unlimited : log.capacity = none) {last : σ}
    {finished : Finished R σ Log}
    (h : Ending timer start (Course.fresh timer start log) readings last finished)
    : timer.Stops start readings last finished := by
  have room := (Course.advanceAll_capacity timer start (Course.fresh timer start log)
    readings).trans unlimited
  have sampled := Course.sampled_advanceAll timer start log readings
  cases h with
  | finished answer on =>
      exact .answered (fun row positive bound => on.under positive bound bound) answer
        (stop_outcome sampled room .exhausted _)
  | @failed error rest answer on =>
      have left : (stopFailed ((Course.fresh timer start log).advanceAll timer start readings)
          error rest).source = rest := by
        cases error <;> rfl
      exact .answered (fun row positive bound => on.under positive bound bound)
        (answer.trans (by rw [left])) (stopFailed_decides sampled room error rest)
  | overflow answer on =>
      exact .overflow (fun row positive bound => on.under positive bound bound) answer rfl rfl
  | logFailed some on failed => cases (Log.status_of_unlimited room).symm.trans failed
  | spent some on sound spent =>
      have positive : 0 < readings.length := List.length_pos_iff.mpr some
      have whole := Course.spent_take timer start log positive (Nat.le_refl _)
      rw [List.take_length, spent] at whole
      exact .spent positive
        (fun row first bound => on.under first (by omega) (by omega)) whole.symm rfl
        (stop_outcome sampled room .budgetExceeded last)

/-- The source that a run leaves is the one that its rows left, or the next fetch from it brought
another answer.
-/
theorem Stops.left [RowSource σ] {last : σ} {finished : Finished R σ W}
    (h : timer.Stops start readings last finished)
    : finished.source = last
      ∨ ∃ answer, answer ≠ .row ∧ RowSource.fetch last = some (answer, finished.source) := by
  cases h with
  | spent _ _ _ source _ => exact .inl source
  | answered _ fetched decides =>
      refine .inr ⟨_, ?_, fetched⟩
      rintro rfl
      exact decides
  | overflow _ _ source _ => exact .inl source

/-- A view of the source shows a run that stops alike. -/
theorem Stops.map [RowSource σ] [RowSource τ] {view : σ → τ} (same : View view) {last : σ}
    {finished : Finished R σ W} (h : timer.Stops start readings last finished)
    : timer.Stops start readings (view last) (finished.map view) := by
  cases h with
  | spent some under spent source outcome =>
      exact .spent some under spent (congrArg view source) outcome
  | answered under fetched decides =>
      exact .answered under (same.fetch_of_answer fetched) decides
  | overflow under fetched source outcome =>
      exact .overflow under (by rw [same.fetch, fetched]; rfl) (congrArg view source) outcome

/-- Every run fetches some rows and ends after them. -/
theorem run_ending [RowSource σ] [Sink W] (timer : Timer R) (source : σ) (log : W)
    : ∃ readings last,
        Fetches source readings last
        ∧ Ending timer (RowSource.now source) (Course.fresh timer (RowSource.now source) log)
            readings last (timer.run source log) :=
  runFrom_ending timer _ _ source

/-- A run counts rows up to the first at which the budget is used up, and then fetches nothing
more, whatever would come next. If there is no such row, the run counts all rows up to the first
other answer, and this answer alone decides how it stops.
-/
theorem stop_of_run (timer : Timer R) (script : Script) (opening : String)
    : let log : Log := { text := opening }
      let finished := timer.run (Counted.mk script 0) log
      let rows := script.rowsUntil finished.source.source
      let spentAt := timer.spentAt script.reading script.readings
      finished.map Counted.source = timer.run script log
      ∧ (∀ fetch < rows, script.answer fetch = .row)
      ∧ (∀ row, 0 < row → row < rows → spentAt row = false)
      ∧ ((0 < rows
            ∧ spentAt rows = true
            ∧ finished.source.calls = rows
            ∧ finished.outcome = .ok (rows, .budgetExceeded))
          ∨ ((0 < rows → spentAt rows = false)
            ∧ finished.source.calls = rows + 1
            ∧ (script.answer rows).Decides rows finished.outcome)) := by
  intro log finished rows spentAt
  obtain ⟨readings, last, fetches, ending⟩ := timer.run_ending (Counted.mk script 0) log
  have stops := ending.stops rfl
  obtain ⟨fetched, calls⟩ := Counted.fetches_inv fetches
  have counted : rows = readings.length :=
    Script.rowsUntil_of_fetches fetched (stops.left.imp (congrArg Counted.source)
      fun ⟨answer, other, next⟩ => ⟨answer, other, (Counted.fetch_inv next).1⟩)
  have same {row : Nat} (bound : row ≤ readings.length)
      : spentAt row = timer.spentAt script.reading readings row := by
    simp only [spentAt, Timer.spentAt, elapsedAt, Script.readings_of_fetches fetched,
      readingAt_append bound]
  rw [counted]
  refine ⟨timer.run_counted _ _, fun fetch bound => Script.answer_of_lt fetched bound, ?_⟩
  cases stops with
  | spent some under spent source outcome =>
      refine ⟨fun row positive before => ?_, .inl ⟨some, ?_, ?_, outcome⟩⟩
      · exact (same (Nat.le_of_lt before)).trans (under row positive before)
      · exact (same (Nat.le_refl _)).trans spent
      · rw [source, calls, Nat.zero_add]
  | @answered under answer next decides =>
      obtain ⟨answered, more⟩ := Counted.fetch_inv next
      refine ⟨fun row positive before => ?_, .inr ⟨fun positive => ?_, ?_, ?_⟩⟩
      · exact (same (Nat.le_of_lt before)).trans (under row positive (Nat.le_of_lt before))
      · exact (same (Nat.le_refl _)).trans (under _ positive (Nat.le_refl _))
      · rw [more, calls, Nat.zero_add]
      · rw [Script.answer_of_fetch fetched answered]
        exact decides
  | overflow _ none _ _ => cases none

/-- The second row uses up the budget, and the loss of the connection after it goes unnoticed. -/
theorem stop_of_run_before_loss
    : ∃ (timer : Timer Float) (script : Script),
        let finished := timer.run (Counted.mk script 0) ({} : Log)
        script.answer 2 = .failed (.connectionLost "gone")
        ∧ timer.spentAt script.reading script.readings 1 = false
        ∧ timer.spentAt script.reading script.readings 2 = true
        ∧ finished.source.calls = 2
        ∧ finished.outcome = .ok (2, .budgetExceeded) := by
  let timer : Timer Float := {
    schedule := ⟨[5], by simp, by simp, by simp [Increasing]⟩
    sigma := 0.5
    budget := ⟨20⟩
  }
  let script : Script := {
    reading := ⟨0⟩
    events := [(⟨19⟩, .row), (⟨20⟩, .row), (⟨21⟩, .failed (.connectionLost "gone"))]
  }
  have rows : script.rowsUntil (timer.run (Counted.mk script 0) ({} : Log)).source.source = 2 := by
    decide +kernel
  have spent : timer.spentAt script.reading script.readings 2 = true := by decide +kernel
  obtain ⟨_, _, under, stopped | ⟨going, _⟩⟩ := stop_of_run timer script ""
  · rw [rows] at under stopped
    exact ⟨timer, script, rfl, under 1 (by decide) (by decide), spent, stopped.2.2⟩
  · rw [rows] at going
    rw [going (by decide)] at spent
    cases spent

end Timer

end JoinLatency

import JoinLatency.Proofs.Outcome
import JoinLatency.Proofs.Timer.Stopping
import JoinLatency.Proofs.Timer.Synthetic
import Mathlib

/-! Several runs on one cursor. Each of them goes on where the one before it stopped, until a row
uses up its own budget or the cursor has no more rows. From then on every fetch from the cursor
has the same answer.
-/

namespace JoinLatency

variable {R σ : Type} [Seconds R]

-----------------------------------------------------------------------------------------
-- Counting rows
-----------------------------------------------------------------------------------------

/-- The number of rows in an answer. -/
def Fetch.rows : Fetch → Nat
  | .row => 1
  | .finished => 0
  | .failed _ => 0

theorem Fetch.rows_of_ne {answer : Fetch} (other : answer ≠ .row) : answer.rows = 0 := by
  cases answer with
  | row => exact absurd rfl other
  | finished => rfl
  | failed error => rfl

/-- A source with the number of rows that it has handed out. -/
structure Handed (σ : Type) where
  source : σ
  rows : Nat := 0

instance [RowSource σ] : RowSource (Handed σ) where
  now handed := RowSource.now handed.source
  fetch handed :=
    (RowSource.fetch handed.source).map fun (answer, rest) =>
      (answer, { source := rest, rows := handed.rows + answer.rows })
  remaining handed := RowSource.remaining handed.source
  remaining_lt h := by
    obtain ⟨⟨_, _⟩, fetched, same⟩ := Option.map_eq_some_iff.mp h
    obtain ⟨rfl, rfl⟩ := Prod.mk.inj same
    exact RowSource.remaining_lt fetched

namespace Handed

variable [RowSource σ]

theorem view : View (Handed.source : Handed σ → σ) :=
  ⟨fun _ => by simp [RowSource.fetch, Function.comp_def], fun _ => rfl⟩

theorem fetch_inv {handed rest : Handed σ} {answer : Fetch}
    (h : RowSource.fetch handed = some (answer, rest))
    : RowSource.fetch handed.source = some (answer, rest.source)
      ∧ rest.rows = handed.rows + answer.rows := by
  obtain ⟨⟨_, _⟩, fetched, same⟩ := Option.map_eq_some_iff.mp h
  obtain ⟨rfl, rfl⟩ := Prod.mk.inj same
  exact ⟨fetched, rfl⟩

/-- Every row that is fetched was handed out, by induction on the rows. -/
theorem fetches_inv {handed last : Handed σ} {readings : List Duration}
    (h : Fetches handed readings last)
    : Fetches handed.source readings last.source
      ∧ last.rows = handed.rows + readings.length := by
  induction h with
  | nil handed => exact ⟨.nil _, rfl⟩
  | row answer _ ih =>
      obtain ⟨fetched, rows⟩ := fetch_inv answer
      obtain ⟨more, later⟩ := ih
      refine ⟨.row fetched more, ?_⟩
      simp only [later, rows, Fetch.rows, List.length_cons]
      omega

end Handed

/-- One of several runs on a source: the number of rows that it fetched, and what it left. -/
structure Turn (R σ : Type) where
  rows : Nat
  finished : Finished R σ Log

/-- A run on a source as a turn. -/
def Timer.turn [RowSource σ] (timer : Timer R) (source : σ) (log : Log) : Turn R σ where
  rows := (timer.run (Handed.mk source 0) log).source.rows
  finished := timer.run source log

/-- A turn stops after the rows that it fetched. -/
theorem Timer.turn_stops [RowSource σ] (timer : Timer R) (source : σ) {log : Log}
    (unlimited : log.capacity = none)
    : ∃ readings last,
        Fetches source readings last
        ∧ timer.Stops (RowSource.now source) readings last (timer.turn source log).finished
        ∧ (timer.turn source log).rows = readings.length := by
  obtain ⟨readings, last, fetches, ending⟩ := timer.run_ending (Handed.mk source 0) log
  have stops := ending.stops unlimited
  obtain ⟨fetched, rows⟩ := Handed.fetches_inv fetches
  refine ⟨readings, last.source, fetched, ?_, ?_⟩
  · have seen := stops.map Handed.view
    rw [run_view Handed.view] at seen
    exact seen
  · rw [Nat.zero_add] at rows
    rcases stops.left with same | ⟨answer, other, next⟩
    · exact (congrArg Handed.rows same).trans rows
    · exact (Handed.fetch_inv next).2.trans (by rw [rows, Fetch.rows_of_ne other, Nat.add_zero])

/-- Runs one after another on a source, each with its own timer and log, and the source that they
leave.
-/
def turns [RowSource σ] (source : σ) : List (Timer R × Log) → List (Turn R σ) × σ
  | [] => ([], source)
  | (timer, log) :: rest =>
      let turn := timer.turn source log
      let (later, last) := turns turn.finished.source rest
      (turn :: later, last)

/-- Whether a run stopped because its budget was used up. -/
def Finished.EndsByBudget (finished : Finished R σ Log) : Prop :=
  ∃ rows, finished.outcome = .ok (rows, .budgetExceeded)

omit [Seconds R] in
/-- Another answer than a row never tells of the budget. -/
theorem Fetch.Decides.not_endsByBudget {answer : Fetch} {rows : Nat} {finished : Finished R σ Log}
    (h : answer.Decides rows finished.outcome)
    : ¬ finished.EndsByBudget := by
  rintro ⟨other, spent⟩
  rw [spent] at h
  match answer, h with
  | .finished, h => cases h
  | .failed (.canceled _), h => cases h
  | .failed (.other _), h => cases h
  | .failed (.connectionLost _), h => cases h

/-- Another answer than a row never tells of the end of the clock. -/
theorem Fetch.Decides.ne_clockOverflow {answer : Fetch} {rows : Nat}
    {outcome : Except Error (Nat × StopReason)} (h : answer.Decides rows outcome)
    : outcome ≠ .error .clockOverflow := by
  rintro rfl
  match answer, h with
  | .finished, h => cases h
  | .failed (.canceled _), h => cases h
  | .failed (.other _), h => cases h
  | .failed (.connectionLost _), h => cases h

/-- The same answer without rows decides on the same reason. -/
theorem Fetch.Decides.again {answer : Fetch} {rows : Nat}
    {outcome next : Except Error (Nat × StopReason)} (h : answer.Decides rows outcome)
    (repeated : answer.Decides 0 next)
    : next = outcome.map fun stop => (0, stop.2) := by
  match answer, h, repeated with
  | .finished, h, repeated => rw [h, repeated]; rfl
  | .failed (.canceled _), h, repeated => rw [h, repeated]; rfl
  | .failed (.other _), h, repeated => rw [h, repeated]; rfl
  | .failed (.connectionLost _), h, repeated => rw [h, repeated]; rfl

-----------------------------------------------------------------------------------------
-- Rows that are left
-----------------------------------------------------------------------------------------

namespace SyntheticCursor

variable {cursor rest : SyntheticCursor}

/-- The number of rows before the end of a cursor and before its failure. -/
def available (cursor : SyntheticCursor) : Nat :=
  cursor.failure.elim cursor.rows fun failure => min cursor.rows failure.1

/-- The number of rows still to come. -/
def left (cursor : SyntheticCursor) : Nat :=
  cursor.available - cursor.fetched

/-- The answer after the last row: a failure that is scripted for a row there is, or the end. -/
def lastAnswer (cursor : SyntheticCursor) : Fetch :=
  match cursor.failure with
  | some (after, error) => if after ≤ cursor.rows then .failed error else .finished
  | none => .finished

theorem after_zero (cursor : SyntheticCursor) : cursor.after 0 = cursor := by
  simp [after, timeOf, Duration.later]

theorem after_after (cursor : SyntheticCursor) (first second : Nat)
    : (cursor.after first).after second = cursor.after (first + second) := by
  simp [after, timeOf, Duration.later, Nat.add_mul, Nat.add_assoc]

theorem lt_available_iff {row : Nat}
    : row < cursor.available ↔ row < cursor.rows ∧ ∀ failure ∈ cursor.failure, row < failure.1 := by
  rw [available]
  cases cursor.failure with
  | none => simp
  | some failure => simp

/-- Only the available rows of a cursor are fetched. -/
theorem Gives.length_le {last : SyntheticCursor} {readings : List Duration}
    (h : cursor.Gives readings last) (within : cursor.fetched ≤ cursor.available)
    : cursor.fetched + readings.length ≤ cursor.available := by
  cases count : readings.length with
  | zero => exact within
  | succ row =>
      have last : row < readings.length := by omega
      exact lt_available_iff.mpr ⟨h.within row last, h.early row last⟩

theorem fetch_eq_self {answer : Fetch} (h : RowSource.fetch cursor = some (answer, rest))
    (other : answer ≠ .row)
    : rest = cursor := by
  cases answers_of_fetch h with
  | row => exact absurd rfl other
  | finished => rfl
  | failed => rfl

/-- An answer other than a row is the last one, and comes when no rows are left. -/
theorem lastAnswer_of_fetch {answer : Fetch} (h : RowSource.fetch cursor = some (answer, rest))
    (other : answer ≠ .row) (within : cursor.fetched ≤ cursor.available)
    : cursor.fetched = cursor.available ∧ answer = cursor.lastAnswer := by
  cases answers_of_fetch h with
  | row => exact absurd rfl other
  | finished ended later =>
      have none : ¬ cursor.fetched < cursor.available := fun more =>
        absurd (lt_available_iff.mp more).1 (by omega)
      refine ⟨by omega, ?_⟩
      rw [lastAnswer]
      split
      next after error scripted =>
        have beyond := later (after, error) scripted
        exact (if_neg (by dsimp only at beyond; omega)).symm
      next => rfl
  | @failed after error due scripted =>
      have least : cursor.available = min cursor.rows after := by
        rw [available, scripted]
        rfl
      refine ⟨by omega, ?_⟩
      rw [lastAnswer, scripted]
      exact (if_pos (by omega)).symm

/-- The clock of a cursor is at its end only while rows are left. -/
theorem lt_available_of_fetch (h : RowSource.fetch cursor = none)
    : ¬ cursor.Shows 1 ∧ cursor.fetched < cursor.available := by
  cases answers_of_fetch h with
  | overflow beyond there later => exact ⟨beyond, lt_available_iff.mpr ⟨there, later⟩⟩

theorem shows_after_iff {first second : Nat}
    : (cursor.after first).Shows second ↔ cursor.Shows (first + second) := by
  simp only [Shows, after, timeOf, Duration.later, Nat.add_mul, Nat.add_assoc]

end SyntheticCursor

-----------------------------------------------------------------------------------------
-- A run on a cursor
-----------------------------------------------------------------------------------------

namespace Timer

variable {timer : Timer R} {cursor : SyntheticCursor} {log : Log}

/-- The row of a cursor that uses up the budget is the first that takes enough time from the start
of a run. There may be none.
-/
def IsBudgetRow (timer : Timer R) (cursor : SyntheticCursor) : Option Nat → Prop
  | some row =>
      0 < row
      ∧ timer.spentAfter (cursor.timeOf row) = true
      ∧ ∀ earlier, 0 < earlier → earlier < row →
          timer.spentAfter (cursor.timeOf earlier) = false
  | none => ∀ row, 0 < row → timer.spentAfter (cursor.timeOf row) = false

theorem exists_isBudgetRow (timer : Timer R) (cursor : SyntheticCursor)
    : ∃ budgetRow, timer.IsBudgetRow cursor budgetRow := by
  by_cases some : ∃ row, 0 < row ∧ timer.spentAfter (cursor.timeOf row) = true
  · refine ⟨Nat.find some, (Nat.find_spec some).1, (Nat.find_spec some).2, ?_⟩
    intro earlier positive before
    exact Bool.eq_false_iff.mpr fun spent => Nat.find_min some before ⟨positive, spent⟩
  · exact ⟨none, fun row positive => Bool.eq_false_iff.mpr fun spent => some ⟨row, positive, spent⟩⟩

/-- The row that uses up the budget comes after all rows that do not. -/
theorem IsBudgetRow.beyond {budgetRow : Option Nat} (h : timer.IsBudgetRow cursor budgetRow)
    {rows : Nat}
    (under : ∀ row, 0 < row → row ≤ rows → timer.spentAfter (cursor.timeOf row) = false)
    : ¬ ∃ row ∈ budgetRow, row ≤ rows := by
  rintro ⟨row, rfl, among⟩
  have spent := h.2.1
  rw [under row h.1 among] at spent
  cases spent

/-- Rows are not bounded by one beyond them. -/
theorem elim_min_of_beyond {budgetRow : Option Nat} {rows : Nat}
    (beyond : ¬ ∃ row ∈ budgetRow, row ≤ rows)
    : budgetRow.elim rows (min rows) = rows := by
  cases budgetRow with
  | none => rfl
  | some row =>
      have late : rows ≤ row := by
        by_contra among
        exact beyond ⟨row, rfl, by omega⟩
      exact Nat.min_eq_left late

/-- The number of rows that a run takes if its clock has room for them: those that are left, but
none after the one that uses up the budget.
-/
def rowsUpTo (cursor : SyntheticCursor) (budgetRow : Option Nat) : Nat :=
  budgetRow.elim cursor.left (min cursor.left)

/-- A turn on a cursor takes all these rows, unless its clock has no room for them. If the row that
uses up the budget is among them, it ends by the budget, and otherwise by the last answer.
-/
structure Takes (timer : Timer R) (cursor : SyntheticCursor) (budgetRow : Option Nat)
    (turn : Turn R SyntheticCursor) : Prop where
  budget : timer.IsBudgetRow cursor budgetRow
  source : turn.finished.source = cursor.after turn.rows
  within : turn.rows ≤ cursor.left
  shown : 0 < turn.rows → cursor.Shows turn.rows
  overflow
    : turn.finished.outcome = .error .clockOverflow
      ↔ 0 < rowsUpTo cursor budgetRow ∧ ¬ cursor.Shows (rowsUpTo cursor budgetRow)
  rows
    : turn.finished.outcome ≠ .error .clockOverflow → turn.rows = rowsUpTo cursor budgetRow
  ends
    : turn.finished.outcome ≠ .error .clockOverflow →
        (turn.finished.EndsByBudget ↔ ∃ row ∈ budgetRow, row ≤ cursor.left)
  outcome
    : turn.finished.outcome = .error .clockOverflow
      ∨ turn.finished.outcome = .ok (turn.rows, .budgetExceeded)
      ∨ cursor.lastAnswer.Decides turn.rows turn.finished.outcome

/-- Every run on a cursor is such a turn, wherever earlier runs have left the cursor. -/
theorem exists_takes (timer : Timer R) (within : cursor.fetched ≤ cursor.available)
    (unlimited : log.capacity = none)
    : ∃ budgetRow, timer.Takes cursor budgetRow (timer.turn cursor log) := by
  obtain ⟨readings, last, fetches, stops, rows⟩ := timer.turn_stops cursor unlimited
  have gives := fetches.gives
  have bound := gives.length_le within
  have among : readings.length ≤ cursor.left := by
    rw [SyntheticCursor.left]
    omega
  have spentAt {row : Nat} (early : row ≤ readings.length)
      : timer.spentAfter (cursor.timeOf row)
        = timer.spentAt (RowSource.now cursor) readings row :=
    (timer.spentAt_of_gives gives early).symm
  have shown (positive : 0 < (timer.turn cursor log).rows)
      : cursor.Shows (timer.turn cursor log).rows := by
    rw [rows] at positive ⊢
    exact gives.shown (List.ne_nil_of_length_pos positive)
  have room {expected : Nat} (all : expected = readings.length)
      : ¬ (0 < expected ∧ ¬ cursor.Shows expected) := by
    rintro ⟨positive, beyond⟩
    rw [all] at positive beyond
    exact beyond (gives.shown (List.ne_nil_of_length_pos positive))
  cases stops with
  | spent some under spent source outcome =>
      -- The last of the rows is the one that uses up the budget, and one of those that were left.
      have all : rowsUpTo cursor (readings.length) = readings.length := Nat.min_eq_right among
      have sound : (timer.turn cursor log).finished.outcome ≠ .error .clockOverflow := by
        simp [outcome]
      refine ⟨readings.length, ⟨some, ?_, fun row positive before => ?_⟩, ?_, rows ▸ among, shown,
        iff_of_false sound (room all), fun _ => rows.trans all.symm,
        fun _ => iff_of_true ⟨_, outcome⟩ ⟨_, rfl, among⟩, .inr (.inl ?_)⟩
      · rw [spentAt (Nat.le_refl _), spent]
      · rw [spentAt (Nat.le_of_lt before), under row positive before]
      · rw [source, gives.last, rows]
      · rw [outcome, rows]
  | @answered under answer next decides =>
      -- The rows that were left are used up, and the one that uses up the budget is beyond them.
      have other : answer ≠ .row := by
        rintro rfl
        exact decides
      have same := SyntheticCursor.fetch_eq_self next other
      rw [gives.last] at next
      obtain ⟨ended, rfl⟩ := SyntheticCursor.lastAnswer_of_fetch next other bound
      have whole : readings.length = cursor.left := Nat.eq_sub_of_add_eq' ended
      obtain ⟨budgetRow, budget⟩ := timer.exists_isBudgetRow cursor
      have beyond : ¬ ∃ row ∈ budgetRow, row ≤ cursor.left :=
        budget.beyond fun row positive early => by
          rw [← whole] at early
          rw [spentAt early, under row positive early]
      have all : rowsUpTo cursor budgetRow = readings.length :=
        (elim_min_of_beyond beyond).trans whole.symm
      rw [← rows] at decides
      refine ⟨budgetRow, budget, ?_, rows ▸ among, shown,
        iff_of_false decides.ne_clockOverflow (room all), fun _ => rows.trans all.symm,
        fun _ => iff_of_false decides.not_endsByBudget beyond, .inr (.inr decides)⟩
      rw [same, gives.last, rows]
  | overflow under next source outcome =>
      -- One more row is left, which is not beyond the budget, but the clock has no room for it.
      rw [gives.last] at next
      obtain ⟨stuck, more⟩ := SyntheticCursor.lt_available_of_fetch next
      obtain ⟨budgetRow, budget⟩ := timer.exists_isBudgetRow cursor
      have beyond : ¬ ∃ row ∈ budgetRow, row ≤ readings.length :=
        budget.beyond fun row positive early => (spentAt early).trans (under row positive early)
      have next : readings.length + 1 ≤ rowsUpTo cursor budgetRow := by
        have more : cursor.fetched + readings.length < cursor.available := more
        have left : readings.length + 1 ≤ cursor.left := by
          rw [SyntheticCursor.left]
          omega
        cases budgetRow with
        | none => exact left
        | some row =>
            have late : readings.length < row := by
              by_contra early
              exact beyond ⟨row, rfl, by omega⟩
            exact Nat.le_min.mpr ⟨left, late⟩
      refine ⟨budgetRow, budget, ?_, rows ▸ among, shown,
        iff_of_true outcome ⟨by omega, fun shown => ?_⟩, fun sound => absurd outcome sound,
        fun sound => absurd outcome sound, .inl outcome⟩
      · rw [source, gives.last, rows]
      · exact stuck (SyntheticCursor.shows_after_iff.mpr (shown.of_le next))

end Timer

-----------------------------------------------------------------------------------------
-- Runs one after another
-----------------------------------------------------------------------------------------

/-- A cursor that was left by a run with some outcome has no more rows: every fetch from it has the
answer that decided the outcome, or none.
-/
inductive SyntheticCursor.Halts (cursor : SyntheticCursor)
    : Except Error (Nat × StopReason) → Prop
  | answered {answer : Fetch} {rows : Nat} {outcome : Except Error (Nat × StopReason)}
    (fetched : RowSource.fetch cursor = some (answer, cursor))
    (decides : answer.Decides rows outcome)
    : Halts cursor outcome
  | overflow (fetched : RowSource.fetch cursor = none)
    : Halts cursor (.error .clockOverflow)

/-- A run that does not end by its budget leaves a cursor without more rows. -/
theorem Timer.halts_of_turn (timer : Timer R) (cursor : SyntheticCursor) {log : Log}
    (unlimited : log.capacity = none)
    (other : ¬ (timer.turn cursor log).finished.EndsByBudget)
    : (timer.turn cursor log).finished.source.Halts (timer.turn cursor log).finished.outcome := by
  obtain ⟨readings, last, _, stops, _⟩ := timer.turn_stops cursor unlimited
  cases stops with
  | spent _ _ _ _ outcome => exact absurd ⟨_, outcome⟩ other
  | answered _ fetched decides =>
      have same := SyntheticCursor.fetch_eq_self fetched (by rintro rfl; exact decides)
      exact .answered (by rw [same] at fetched ⊢; exact fetched) decides
  | overflow _ fetched source outcome =>
      rw [outcome, source]
      exact .overflow fetched

/-- A turn on a cursor without more rows fetches nothing, leaves it as it is and ends for the same
reason.
-/
theorem SyntheticCursor.Halts.turn {cursor : SyntheticCursor}
    {outcome : Except Error (Nat × StopReason)} (h : cursor.Halts outcome) (timer : Timer R)
    {log : Log} (unlimited : log.capacity = none)
    : (timer.turn cursor log).rows = 0
      ∧ (timer.turn cursor log).finished.source = cursor
      ∧ (timer.turn cursor log).finished.outcome = outcome.map fun stop => (0, stop.2) := by
  obtain ⟨readings, last, fetches, stops, rows⟩ := timer.turn_stops cursor unlimited
  cases fetches with
  | row answer more =>
      cases h with
      | answered fetched decides =>
          obtain ⟨rfl, _⟩ := Prod.mk.inj (Option.some.inj (fetched.symm.trans answer))
          exact decides.elim
      | overflow fetched => cases fetched.symm.trans answer
  | nil =>
      refine ⟨rows, ?_⟩
      cases stops with
      | spent some => cases some
      | answered _ next repeated =>
          cases h with
          | answered fetched decides =>
              obtain ⟨rfl, same⟩ := Prod.mk.inj (Option.some.inj (fetched.symm.trans next))
              exact ⟨same.symm, decides.again repeated⟩
          | overflow fetched => cases fetched.symm.trans next
      | overflow _ next source ended =>
          cases h with
          | answered fetched decides => cases fetched.symm.trans next
          | overflow fetched => exact ⟨source, ended⟩

/-- Turns on a cursor without more rows fetch nothing and end for the same reason, by induction
along them.
-/
theorem SyntheticCursor.Halts.turns {cursor : SyntheticCursor}
    {outcome : Except Error (Nat × StopReason)} (h : cursor.Halts outcome)
    {runs : List (Timer R × Log)} (unlimited : ∀ run ∈ runs, run.2.capacity = none)
    : ∀ turn ∈ (turns cursor runs).1,
        turn.rows = 0 ∧ turn.finished.outcome = outcome.map fun stop => (0, stop.2) := by
  induction runs with
  | nil => simp [JoinLatency.turns]
  | cons run rest ih =>
      obtain ⟨timer, log⟩ := run
      obtain ⟨first, others⟩ := List.forall_mem_cons.mp unlimited
      obtain ⟨rows, same, ended⟩ := h.turn timer first
      intro turn member
      rw [JoinLatency.turns, same] at member
      rcases List.mem_cons.mp member with rfl | later
      · exact ⟨rows, ended⟩
      · exact ih others turn later

/-- Several turns on a cursor take its rows one after another, and once one of them did not end by
the budget, the later ones repeat its reason without any rows.
-/
structure SyntheticCursor.Serves (cursor : SyntheticCursor)
    (served : List (Turn R SyntheticCursor) × SyntheticCursor) : Prop where
  last : served.2 = cursor.after (served.1.map (·.rows)).sum
  within : served.2.fetched ≤ cursor.available
  shown : 0 < (served.1.map (·.rows)).sum → cursor.Shows (served.1.map (·.rows)).sum
  repeated
    : served.1.Pairwise fun earlier later =>
        ¬ earlier.finished.EndsByBudget →
          later.rows = 0
          ∧ later.finished.outcome = earlier.finished.outcome.map fun stop => (0, stop.2)

/-- Wherever earlier runs have left a cursor, it serves all runs, by induction along them. -/
theorem turns_serve {cursor : SyntheticCursor} (within : cursor.fetched ≤ cursor.available)
    {runs : List (Timer R × Log)} (unlimited : ∀ run ∈ runs, run.2.capacity = none)
    : cursor.Serves (turns cursor runs) := by
  induction runs generalizing cursor with
  | nil => exact ⟨cursor.after_zero.symm, within, fun some => absurd some (Nat.lt_irrefl 0), .nil⟩
  | cons run rest ih =>
      obtain ⟨timer, log⟩ := run
      obtain ⟨first, others⟩ := List.forall_mem_cons.mp unlimited
      obtain ⟨_, takes⟩ := timer.exists_takes within first
      have bound : (cursor.after (timer.turn cursor log).rows).fetched ≤ cursor.available := by
        have taken : (timer.turn cursor log).rows ≤ cursor.available - cursor.fetched :=
          takes.within
        change cursor.fetched + (timer.turn cursor log).rows ≤ cursor.available
        omega
      have next := ih bound others
      rw [turns, takes.source]
      refine ⟨?_, next.within, ?_, List.pairwise_cons.mpr ⟨?_, next.repeated⟩⟩
      · exact next.last.trans (cursor.after_after _ _)
      · intro some
        rw [List.map_cons, List.sum_cons] at some ⊢
        rcases Nat.eq_zero_or_pos ((turns (cursor.after (timer.turn cursor log).rows)
          rest).1.map (·.rows)).sum with none | more
        · rw [none, Nat.add_zero] at some ⊢
          exact takes.shown some
        · exact SyntheticCursor.shows_after_iff.mp (next.shown more)
      · intro turn later other
        rw [← takes.source] at later
        exact (timer.halts_of_turn cursor first other).turns others turn later

/-- A run on a fresh cursor fetches the rows before its end and before its failure, up to the row
that uses up the budget, unless the clock cannot show the reading after them: this and nothing else
ends the run at the end of its clock. Otherwise the run ends by the budget exactly if that row is
among them, and if not by the answer after the last row. Several runs on the cursor share these
rows, one delay each, and once a run did not end by its budget, all later runs end for the same
reason without any rows.
-/
theorem runs_of_fresh_cursor {cursor : SyntheticCursor} (fresh : cursor.fetched = 0)
    : (∀ (timer : Timer R) (log : Log), log.capacity = none →
        let turn := timer.turn cursor log
        ∃ budgetRow,
          timer.IsBudgetRow cursor budgetRow
          ∧ let rows := budgetRow.elim cursor.available (min cursor.available)
            (turn.finished.outcome = .error .clockOverflow ↔ 0 < rows ∧ ¬ cursor.Shows rows)
            ∧ (turn.finished.outcome ≠ .error .clockOverflow →
                turn.rows = rows
                ∧ turn.finished.source = cursor.after rows
                ∧ (0 < rows →
                    cursor.clock.plus? (cursor.timeOf rows) = some turn.finished.source.clock)
                ∧ (turn.finished.EndsByBudget ↔ ∃ row ∈ budgetRow, row ≤ cursor.available)
                ∧ (turn.finished.outcome = .ok (rows, .budgetExceeded)
                  ∨ cursor.lastAnswer.Decides rows turn.finished.outcome)))
      ∧ ∀ runs : List (Timer R × Log), (∀ run ∈ runs, run.2.capacity = none) →
          let (served, last) := turns cursor runs
          last.fetched = (served.map (·.rows)).sum
          ∧ last.fetched ≤ cursor.available
          ∧ last = cursor.after last.fetched
          ∧ (0 < last.fetched →
              cursor.clock.plus? (cursor.timeOf last.fetched) = some last.clock)
          ∧ served.Pairwise fun earlier later =>
              ¬ earlier.finished.EndsByBudget →
                later.rows = 0
                ∧ later.finished.outcome
                  = earlier.finished.outcome.map fun stop => (0, stop.2) := by
  have within : cursor.fetched ≤ cursor.available := by omega
  have left : cursor.left = cursor.available := by
    rw [SyntheticCursor.left, fresh, Nat.sub_zero]
  constructor
  · intro timer log unlimited turn
    obtain ⟨budgetRow, takes⟩ := timer.exists_takes within unlimited
    obtain ⟨budget, source, _, shown, overflow, rows, ends, outcome⟩ := takes
    simp only [Timer.rowsUpTo, left] at overflow rows ends
    refine ⟨budgetRow, budget, overflow, fun sound => ?_⟩
    rw [rows sound] at source outcome shown
    refine ⟨rows sound, source, fun some => ?_, ends sound, outcome.resolve_left sound⟩
    rw [source]
    exact SyntheticCursor.shows_iff_plus?.mp (shown some)
  · intro runs unlimited
    have serves := turns_serve within unlimited
    have fetched : (turns cursor runs).2.fetched = ((turns cursor runs).1.map (·.rows)).sum := by
      rw [serves.last, SyntheticCursor.after, fresh, Nat.zero_add]
    have last : (turns cursor runs).2 = cursor.after (turns cursor runs).2.fetched := by
      rw [fetched]
      exact serves.last
    refine ⟨fetched, serves.within, last, fun some => ?_, serves.repeated⟩
    rw [congrArg SyntheticCursor.clock last]
    exact SyntheticCursor.shows_iff_plus?.mp (fetched ▸ serves.shown (fetched ▸ some))

/-- The first run ends by its budget at the second row, the next one is canceled after the third
row, and so is the last one, which finds no rows.
-/
theorem runs_of_fresh_cursor_canceled
    : ∃ (cursor : SyntheticCursor) (hasty patient : Timer Float),
        let first := hasty.turn cursor {}
        let second := patient.turn first.finished.source {}
        let third := patient.turn second.finished.source {}
        first.rows = 2
        ∧ first.finished.EndsByBudget
        ∧ second.rows = 1
        ∧ second.finished.outcome = .ok (1, .canceled "stop")
        ∧ third.rows = 0
        ∧ third.finished.outcome = .ok (0, .canceled "stop")
        ∧ third.finished.source.fetched = 3
        ∧ third.finished.source.clock = ⟨8⟩ := by
  let cursor : SyntheticCursor := {
    clock := ⟨5⟩
    rows := 4
    delay := ⟨1⟩
    failure := some (3, .canceled "stop")
  }
  let patient : Timer Float := {
    schedule := ⟨[2], by simp, by simp, by simp [Increasing]⟩
    sigma := 0.5
  }
  let hasty : Timer Float := { patient with budget := ⟨2⟩ }
  let first := hasty.turn cursor {}
  let second := patient.turn first.finished.source {}
  have rows : first.rows = 2 ∧ second.rows = 1 := by decide +kernel
  have canceled : second.finished.outcome = .ok (1, .canceled "stop") :=
    toOption_eq_some.mp (by decide +kernel)
  have spent : hasty.spentAfter (cursor.timeOf 2) = true := by decide +kernel
  have stopped : first.finished.outcome.toBool = true := by decide +kernel
  have fresh : cursor.fetched = 0 := rfl
  obtain ⟨single, several⟩ := runs_of_fresh_cursor (R := Float) fresh
  obtain ⟨budgetRow, budget, _, sound⟩ := single hasty {} rfl
  obtain ⟨_, _, _, ends, _⟩ := sound fun overflow => by
    rw [show first.finished.outcome = _ from overflow] at stopped
    cases stopped
  obtain ⟨fetched, _, _, clock, repeated⟩ :=
    several [(hasty, {}), (patient, {}), (patient, {})] (by simp)
  obtain ⟨_, later⟩ := List.pairwise_cons.mp repeated
  obtain ⟨last, _⟩ := List.pairwise_cons.mp later
  obtain ⟨none, again⟩ := last _ (List.mem_singleton_self _) (by
    rintro ⟨_, other⟩
    cases canceled.symm.trans other)
  have total : (patient.turn second.finished.source {}).finished.source.fetched = 3 := by
    refine fetched.trans ?_
    change first.rows + (second.rows + ((patient.turn second.finished.source {}).rows + 0)) = 3
    rw [rows.1, rows.2, none]
  refine ⟨cursor, hasty, patient, rows.1, ends.mpr ?_, rows.2, canceled, none, ?_, total, ?_⟩
  · cases budgetRow with
    | none =>
        rw [budget 2 (by decide)] at spent
        cases spent
    | some row =>
        have available : cursor.available = 3 := rfl
        refine ⟨row, rfl, ?_⟩
        by_contra beyond
        rw [budget.2.2 2 (by decide) (by omega)] at spent
        cases spent
  · rw [again, canceled]
    rfl
  · have moved := clock (by rw [total]; decide)
    rw [total] at moved
    exact (Option.some.inj moved).symm

end JoinLatency

import JoinLatency.Proofs.Sweep.Scripts
import JoinLatency.Proofs.Timer.Synthetic

/-! Sweeps that come to their reports because their clock lasts. Every repetition takes something
from what the clock has left, so that it is enough if there is something left for all of them: a
steady session takes nothing, and a synthetic one at most the time of all its rows.
-/

namespace JoinLatency

namespace Sweep

variable {S C D W : Type} [RowSource C] [Session S C] [Sink W] [Storage D W] {sweep : Sweep}
  {left : Nat → Bench S D → Prop}

-----------------------------------------------------------------------------------------
-- What the clock has left
-----------------------------------------------------------------------------------------

/-- Benches whose clock lasts for some more repetitions: none of them overflows it. -/
structure Lasts (sweep : Sweep) (left : Nat → Bench S D → Prop) : Prop where
  fewer {repetitions : Nat} {bench : Bench S D}
    : left (repetitions + 1) bench → left repetitions bench
  runOnce {repetitions : Nat} {bench : Bench S D} (job : Job) (iteration : Nat)
    : left (repetitions + 1) bench
      → (sweep.runOnce job iteration bench).1 ≠ .error .clockOverflow
        ∧ left repetitions (sweep.runOnce job iteration bench).2
  logAverages {repetitions : Nat} {bench : Bench S D} (job : Job) (averaged : AveragedTrace)
    : left repetitions bench → left repetitions (logAverages job averaged bench).2

namespace Lasts

variable (lasts : sweep.Lasts left) {bench : Bench S D}

include lasts

theorem of_add (more : Nat) {repetitions : Nat} (h : left (repetitions + more) bench)
    : left repetitions bench := by
  induction more with
  | zero => exact h
  | succ more ih => exact ih (lasts.fewer h)

/-- Repetitions do not overflow a clock that lasts for all of them, by induction on their number. -/
theorem repeatFrom (job : Job) {repetitions count : Nat} (iteration : Nat)
    (h : left (repetitions + count) bench)
    : (sweep.repeatFrom job bench iteration count).2.1 ≠ some .clockOverflow
      ∧ left repetitions (sweep.repeatFrom job bench iteration count).2.2 := by
  induction count generalizing bench iteration with
  | zero => exact ⟨by simp [Sweep.repeatFrom], h⟩
  | succ count ih =>
      obtain ⟨sound, more⟩ := lasts.runOnce job iteration h
      rw [Sweep.repeatFrom]
      split
      next error next failed =>
        rw [failed] at sound more
        exact ⟨by simpa using sound, lasts.of_add count more⟩
      next trace next returned =>
        rw [returned] at more
        exact ih (iteration + 1) more

theorem runJob (job : Job) {repetitions : Nat}
    (h : left (repetitions + sweep.config.repetitions) bench)
    : (sweep.runJob job bench).1.fatal? = none ∧ left repetitions (sweep.runJob job bench).2 := by
  have repeated := lasts.repeatFrom job 1 h
  rw [Sweep.runJob, VariantRun.fatal?_eq_none_iff]
  split
  next runs error next failed =>
    rw [failed] at repeated
    exact ⟨by simpa using repeated.1, repeated.2⟩
  next runs next finished =>
    rw [finished] at repeated
    have logged := lasts.logAverages job (averageRuns runs) repeated.2
    dsimp only
    split
    next written =>
      rw [written] at logged
      exact ⟨by simp, logged⟩
    next written =>
      rw [written] at logged
      exact ⟨by simp, logged⟩

/-- Variants of an accepted sweep do not overflow a clock that lasts for all their repetitions, by
induction along them.
-/
theorem runVariants (accepted : sweep.Accepted) (base : String) {variants : List Variant}
    (all : ∀ variant ∈ variants, variant ∈ sweep.space.variants)
    (h : left (variants.length * sweep.config.repetitions) bench)
    : (sweep.runVariants base bench variants).1 ≠ .error .clockOverflow := by
  induction variants generalizing bench with
  | nil => simp [Sweep.runVariants]
  | cons variant rest ih =>
      rw [List.forall_mem_cons] at all
      rw [List.length_cons, Nat.succ_mul] at h
      obtain ⟨job, own⟩ := accepted.exists_job base all.1
      obtain ⟨sound, more⟩ := lasts.runJob job h
      rw [← runVariant_of_job own] at sound more
      have later := ih all.2 more
      simp only [Sweep.runVariants, sound]
      intro ended
      apply later
      revert ended
      cases (sweep.runVariants base (sweep.runVariant base variant bench).2 rest).1 <;>
        simp [Except.map]

/-- A sweep whose clock lasts for the repetitions of all variants does not end before its report. -/
theorem run (accepted : sweep.Accepted) {detailBase summaryBase : String}
    {error : Error} (failed : (sweep.run detailBase summaryBase bench).1 = .error error)
    : error = .clockOverflow
      ∧ ¬ left (sweep.space.variants.length * sweep.config.repetitions) bench := by
  obtain ⟨rfl, overflow⟩ := overflow_of_run failed
  exact ⟨rfl, fun enough => lasts.runVariants accepted detailBase (fun _ member => member) enough
    overflow⟩

end Lasts

/-- A repetition whose log can be opened fails as it does with the open log. -/
theorem runOnce_overflow {job : Job} {iteration : Nat} {bench : Bench S D}
    (h : (sweep.runOnce job iteration bench).1 = .error .clockOverflow)
    : ∃ (files : D) (log : W),
        (sweep.runQuery job iteration { bench with files } log).1 = .error .clockOverflow := by
  rw [runOnce] at h
  split at h
  · cases h
  next log files opened => exact ⟨files, log, h⟩

end Sweep

-----------------------------------------------------------------------------------------
-- Steady sessions
-----------------------------------------------------------------------------------------

/-- A session whose clock is never moved past its last reading. -/
structure Session.Steady (S : Type) {C : Type} [RowSource C] [Session S C] : Prop where
  configure (session : S) (settings : Settings)
    : (Session.configure session settings).1 ≠ .error .clockOverflow
  submit (session : S) (sql : String) : (Session.submit session sql).1 ≠ .error .clockOverflow
  fetch (cursor : C) : RowSource.fetch cursor ≠ none

/-- The clock of a steady session lasts. -/
theorem Session.Steady.lasts {S C D W : Type} [RowSource C] [Session S C] [Sink W] [Storage D W]
    (steady : Session.Steady S) (sweep : Sweep)
    : sweep.Lasts fun (_ : Nat) (_ : Bench S D) => True where
  fewer _ := trivial
  runOnce {repetitions bench} job iteration _ := by
    refine ⟨fun overflow => ?_, trivial⟩
    obtain ⟨files, log, overflow⟩ := Sweep.runOnce_overflow overflow
    rw [Sweep.runQuery] at overflow
    split at overflow
    next error session refused =>
      obtain rfl := Except.error.inj overflow
      exact steady.configure _ _ (congrArg (·.1) refused)
    · dsimp only at overflow
      split at overflow
      · cases overflow
      · split at overflow
        next error session refused =>
          obtain rfl := Except.error.inj overflow
          exact steady.submit _ _ (congrArg (·.1) refused)
        · split at overflow
          · cases overflow
          · obtain ⟨_, last, _, ended⟩ := Timer.fetches_of_overflow overflow
            exact steady.fetch last ended
  logAverages _ _ _ := trivial

/-- On a steady session a sweep does not end before its report. -/
theorem Sweep.Accepted.overflow_of_steady {S C D W : Type} [RowSource C] [Session S C] [Sink W]
    [Storage D W] {sweep : Sweep} (h : sweep.Accepted) {detailBase summaryBase : String}
    {bench : Bench S D} {error : Error}
    (failed : (sweep.run detailBase summaryBase bench).1 = .error error)
    : error = .clockOverflow ∧ ¬ Session.Steady S :=
  ⟨(overflow_of_run failed).1, fun steady => ((steady.lasts sweep).run h failed).2 trivial⟩

-----------------------------------------------------------------------------------------
-- Synthetic sessions
-----------------------------------------------------------------------------------------

/-- Whether the clock of a session can show the reading after a number of runs over all rows. -/
def SyntheticSession.HasRoom (session : SyntheticSession) (runs : Nat) : Prop :=
  session.clock.nanoseconds + runs * (session.rows * session.delay.nanoseconds)
    ≤ Duration.longest.nanoseconds

instance (session : SyntheticSession) (runs : Nat) : Decidable (session.HasRoom runs) :=
  inferInstanceAs (Decidable (_ ≤ _))

namespace Sweep

variable {D W : Type} [Sink W] [Storage D W] (sweep : Sweep)

omit [Storage D W] in
/-- A repetition moves the clock by the time of at most all rows. -/
theorem runQuery_clock (job : Job) (iteration : Nat) (bench : Bench SyntheticSession D) (log : W)
    : (sweep.runQuery job iteration bench log).2.2.session.clock.nanoseconds
      ≤ bench.session.clock.nanoseconds
        + bench.session.rows * bench.session.delay.nanoseconds := by
  have moved (log : W)
      : (sweep.timer.run (bench.session.cursor job.sql) log).source.clock.nanoseconds
        ≤ bench.session.clock.nanoseconds
          + bench.session.rows * bench.session.delay.nanoseconds := by
    obtain ⟨rows, bound, left⟩ := sweep.timer.exists_source_eq_after
      (show (bench.session.cursor job.sql).fetched = 0 from rfl) log
    rw [left]
    exact Nat.add_le_add_left (Nat.mul_le_mul_right _ bound) _
  simp only [runQuery, Session.configure, Session.submit]
  split
  · exact Nat.le_add_right _ _
  · split
    · exact Nat.le_add_right _ _
    · exact moved _

/-- A session with room for a number of runs lasts for as many repetitions. -/
theorem hasRoom_lasts
    : sweep.Lasts fun repetitions (bench : Bench SyntheticSession D) =>
        bench.session.HasRoom repetitions where
  fewer {repetitions bench} h := by
    simp only [SyntheticSession.HasRoom, Nat.succ_mul] at h ⊢
    omega
  runOnce {repetitions bench} job iteration h := by
    have room : bench.session.clock.nanoseconds
        + repetitions * (bench.session.rows * bench.session.delay.nanoseconds)
        + bench.session.rows * bench.session.delay.nanoseconds ≤ Duration.longest.nanoseconds := by
      simp only [SyntheticSession.HasRoom, Nat.succ_mul] at h
      omega
    constructor
    · intro overflow
      obtain ⟨files, log, overflow⟩ := runOnce_overflow overflow
      simp only [runQuery, Session.configure, Session.submit] at overflow
      split at overflow
      · cases overflow
      · split at overflow
        · cases overflow
        · obtain ⟨readings, last, rows, ended⟩ := Timer.fetches_of_overflow overflow
          refine rows.gives.not_shows rfl ended ?_
          change bench.session.clock.nanoseconds
            + bench.session.rows * bench.session.delay.nanoseconds ≤ _
          omega
    · have script := sweep.runOnce_script job iteration bench
      simp only [SyntheticSession.script, Prod.mk.injEq] at script
      simp only [SyntheticSession.HasRoom, script.1, script.2.1]
      obtain same | ⟨files, log, same⟩ := sweep.runOnce_session job iteration bench
      · rw [same]
        omega
      · have moved := sweep.runQuery_clock job iteration { bench with files } log
        rw [← same] at moved
        dsimp only at moved
        omega
  logAverages {repetitions bench} job averaged h := by
    simp only [logAverages_session]
    exact h

variable {sweep}

/-- On a synthetic session a sweep ends before its report only if the clock has no room for all rows
of all repetitions.
-/
theorem Accepted.overflow_of_hasRoom (h : sweep.Accepted) {detailBase summaryBase : String}
    {bench : Bench SyntheticSession D} {error : Error}
    (failed : (sweep.run detailBase summaryBase bench).1 = .error error)
    : error = .clockOverflow
      ∧ ¬ bench.session.HasRoom (sweep.space.variants.length * sweep.config.repetitions) :=
  sweep.hasRoom_lasts.run h failed

end Sweep

end JoinLatency

import JoinLatency.Proofs.Sweep.Reporting
import JoinLatency.Session.Synthetic

/-! Synthetic sessions keep to their scripts: a sweep moves their clock and has statements
recorded, but what becomes of a query stays the same.
-/

namespace JoinLatency

/-- What a session was told to do with queries. -/
def SyntheticSession.script (session : SyntheticSession)
    : Nat × Duration × List ScriptedFailure :=
  (session.rows, session.delay, session.failures)

namespace Sweep

-----------------------------------------------------------------------------------------
-- Sessions over logs and averages
-----------------------------------------------------------------------------------------

section

variable {S C D W : Type} [RowSource C] [Session S C] [Sink W] [Storage D W]

/-- A repetition works on the session only once its log is open. -/
theorem runOnce_session (sweep : Sweep) (job : Job) (iteration : Nat) (bench : Bench S D)
    : (sweep.runOnce job iteration bench).2.session = bench.session
      ∨ ∃ (files : D) (log : W),
          (sweep.runOnce job iteration bench).2.session
          = (sweep.runQuery job iteration { bench with files } log).2.2.session := by
  rw [runOnce]
  split
  · exact .inl rfl
  next log files opened => exact .inr ⟨files, log, rfl⟩

/-- The averages at the end of a job do not touch the session. -/
theorem logAverages_session (job : Job) (averaged : AveragedTrace) (bench : Bench S D)
    : (logAverages job averaged bench).2.session = bench.session := by
  rw [logAverages]
  split <;> rfl

theorem runJob_session (sweep : Sweep) (job : Job) (bench : Bench S D)
    : (sweep.runJob job bench).2.session
      = (sweep.repeatFrom job bench 1 sweep.config.repetitions).2.2.session := by
  rw [runJob]
  split
  next failed => rw [failed]
  next runs next finished =>
    rw [finished]
    have kept := logAverages_session job (averageRuns runs) next
    dsimp only
    split
    next logged =>
      rw [logged] at kept
      exact kept
    next logged =>
      rw [logged] at kept
      exact kept

end

-----------------------------------------------------------------------------------------
-- Scripts
-----------------------------------------------------------------------------------------

variable {D W : Type} [Sink W] [Storage D W]

omit [Storage D W] in
theorem runQuery_script (sweep : Sweep) (job : Job) (iteration : Nat)
    (bench : Bench SyntheticSession D) (log : W)
    : (sweep.runQuery job iteration bench log).2.2.session.script = bench.session.script := by
  simp only [runQuery, Session.configure, Session.submit]
  split
  · rfl
  · split <;> rfl

theorem runOnce_script (sweep : Sweep) (job : Job) (iteration : Nat)
    (bench : Bench SyntheticSession D)
    : (sweep.runOnce job iteration bench).2.session.script = bench.session.script := by
  obtain same | ⟨files, log, same⟩ := sweep.runOnce_session job iteration bench
  · rw [same]
  · rw [same, runQuery_script]

/-- Repetitions leave the script, by induction on their number. -/
theorem repeatFrom_script (sweep : Sweep) (job : Job) (bench : Bench SyntheticSession D)
    (iteration left : Nat)
    : (sweep.repeatFrom job bench iteration left).2.2.session.script = bench.session.script := by
  induction left generalizing bench iteration with
  | zero => rfl
  | succ left ih =>
      have first := sweep.runOnce_script job iteration bench
      rw [repeatFrom]
      split
      next error next failed =>
        rw [failed] at first
        exact first
      next trace next returned =>
        rw [returned] at first
        exact (ih next (iteration + 1)).trans first

theorem runJob_script (sweep : Sweep) (job : Job) (bench : Bench SyntheticSession D)
    : (sweep.runJob job bench).2.session.script = bench.session.script := by
  rw [runJob_session, repeatFrom_script]

theorem runVariant_script (sweep : Sweep) (base : String) (variant : Variant)
    (bench : Bench SyntheticSession D)
    : (sweep.runVariant base variant bench).2.session.script = bench.session.script := by
  rw [runVariant]
  split
  · rfl
  · split
    · rfl
    next job known => exact sweep.runJob_script job bench

/-- Variants leave the script, by induction along them. -/
theorem Passes.script {sweep : Sweep} {base : String} {bench last : Bench SyntheticSession D}
    {variants : List Variant} {runs : List (Variant × VariantRun)}
    (h : sweep.Passes base bench variants runs last)
    : last.session.script = bench.session.script := by
  induction h with
  | nil bench => rfl
  | @cons bench next last variant run variants runs own on more ih =>
      have first := sweep.runVariant_script base variant bench
      rw [own] at first
      exact ih.trans first

end Sweep

end JoinLatency

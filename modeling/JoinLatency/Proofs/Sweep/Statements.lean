import JoinLatency.Proofs.Sweep.Lasting
import JoinLatency.Proofs.Sweep.Trials
import Mathlib.Data.List.Forall2

/-! The statements that a sweep sends. Every repetition applies the settings of its variant and
submits its query, and only a lost connection, or a log that cannot be opened, keeps further
repetitions from being sent. A clock that overflows ends the statements early.
-/

namespace JoinLatency

/-- Two benches lead to the same statements: their sessions have the same script, and the same
paths may be written.
-/
structure Bench.SameTerms (left right : Bench SyntheticSession Files) : Prop where
  script : left.session.script = right.session.script
  directories : left.files.SameDirectories right.files

namespace Sweep

-----------------------------------------------------------------------------------------
-- What is expected
-----------------------------------------------------------------------------------------

/-- What one repetition sends: a statement for every setting, and the query. -/
def Job.request (job : Job) : List String :=
  job.settings.settings.map (fun setting => s!"SET {setting.name} = '{setting.value}';")
    ++ [job.sql]

/-- Whether repetitions of a query lose their connection. They all go alike. -/
def loses (sweep : Sweep) (session : SyntheticSession) (sql : String) : Bool :=
  (session.cursor sql).loses sweep.timer

/-- What a job sends: nothing without a log, one repetition if it loses the connection, and all
repetitions otherwise.
-/
def statementsOf (sweep : Sweep) (bench : Bench SyntheticSession Files) (job : Job)
    : List String :=
  match bench.files.writable job.path with
  | .error _ => []
  | .ok _ =>
      let sent := if sweep.loses bench.session job.sql then 1 else sweep.config.repetitions
      (List.replicate sent job.request).flatten

theorem loses_congr (sweep : Sweep) {left right : SyntheticSession}
    (same : left.script = right.script) (sql : String)
    : sweep.loses left sql = sweep.loses right sql := by
  simp only [SyntheticSession.script, Prod.mk.injEq] at same
  obtain ⟨rows, delay, failures⟩ := same
  have cursors : left.cursor sql = { right.cursor sql with clock := left.clock } := by
    simp only [SyntheticSession.cursor, SyntheticSession.failureOf?, rows, delay, failures]
  rw [loses, loses, cursors]
  rfl

theorem statementsOf_congr (sweep : Sweep) {left right : Bench SyntheticSession Files}
    (same : left.SameTerms right)
    : sweep.statementsOf left = sweep.statementsOf right := by
  funext job
  rw [statementsOf, statementsOf, sweep.loses_congr same.script]
  cases ours : left.files.writable job.path with
  | ok location => rw [same.directories.writable ours]
  | error fault =>
      cases theirs : right.files.writable job.path with
      | ok location =>
          rw [same.directories.symm.writable theirs] at ours
          cases ours
      | error fault' => rfl

-----------------------------------------------------------------------------------------
-- Repetitions
-----------------------------------------------------------------------------------------

variable {bench : Bench SyntheticSession Files} {job : Job} {location : Location}

theorem runQuery_executed (sweep : Sweep) (job : Job) (iteration : Nat)
    (bench : Bench SyntheticSession Files) (file : FileLog)
    : (sweep.runQuery job iteration bench file).2.2.session.executed
      = bench.session.executed ++ job.request :=
  List.append_assoc bench.session.executed _ [job.sql]

/-- A repetition with a log sends its request and fails exactly if it loses the connection, unless
the clock overflows.
-/
theorem runOnce_of_writable (sweep : Sweep) (iteration : Nat)
    (writes : bench.files.writable job.path = .ok location)
    : (sweep.runOnce job iteration bench).2.session.executed
        = bench.session.executed ++ job.request
      ∧ ((sweep.loses bench.session job.sql = true
            ∧ ∃ message, (sweep.runOnce job iteration bench).1 = .error (.connectionLost message))
          ∨ (sweep.loses bench.session job.sql = false
            ∧ ∃ trace, (sweep.runOnce job iteration bench).1 = .ok trace)
          ∨ (sweep.runOnce job iteration bench).1 = .error .clockOverflow) := by
  constructor
  · rw [runOnce, Files.openLog_of_writable writes]
    exact sweep.runQuery_executed job iteration bench { location }
  · rw [(sweep.runOnce_synthetic iteration writes).1]
    obtain lost | kept | ⟨_, overflow⟩ := sweep.timer.run_result_cases
      (show (bench.session.cursor job.sql).fetched = 0 from rfl)
      (show ({} : Log).capacity = none from rfl)
    · exact .inl lost
    · exact .inr (.inl kept)
    · exact .inr (.inr overflow)

theorem runOnce_sameTerms (sweep : Sweep) (job : Job) (iteration : Nat)
    (bench : Bench SyntheticSession Files)
    : bench.SameTerms (sweep.runOnce job iteration bench).2 :=
  ⟨(sweep.runOnce_script job iteration bench).symm,
    (Files.SameDirectories.touch bench.files job.path).trans
      (sweep.runOnce_touch job iteration bench).toSameDirectories⟩

/-- A lost connection is not tried again. -/
theorem repeatFrom_executed_of_loses (sweep : Sweep) (iteration left : Nat)
    (writes : bench.files.writable job.path = .ok location)
    (lost : sweep.loses bench.session job.sql = true)
    : (sweep.repeatFrom job bench iteration (left + 1)).2.2.session.executed
      = bench.session.executed ++ job.request := by
  obtain ⟨sent, outcome⟩ := sweep.runOnce_of_writable iteration writes
  rw [repeatFrom]
  split
  next error next first =>
    rw [first] at sent
    exact sent
  next trace next first =>
    rw [first, lost] at outcome
    obtain ⟨_, message, failed⟩ | ⟨kept, _⟩ | overflow := outcome
    · cases failed
    · cases kept
    · cases overflow

/-- Without a lost connection the repetitions send their requests, by induction on their number.
Only the clock keeps some of them from being sent.
-/
theorem repeatFrom_executed (sweep : Sweep) (iteration left : Nat)
    (writes : bench.files.writable job.path = .ok location)
    (kept : sweep.loses bench.session job.sql = false)
    : let ending := (sweep.repeatFrom job bench iteration left).2
      ∃ sent ≤ left,
        ending.2.session.executed
          = bench.session.executed ++ (List.replicate sent job.request).flatten
        ∧ (ending.1 ≠ some .clockOverflow → sent = left) := by
  induction left generalizing bench iteration with
  | zero => exact ⟨0, Nat.le_refl 0, by simp [repeatFrom], fun _ => rfl⟩
  | succ left ih =>
      have same := sweep.runOnce_sameTerms job iteration bench
      obtain ⟨first, outcome⟩ := sweep.runOnce_of_writable iteration writes
      rcases done : sweep.runOnce job iteration bench with ⟨error | trace, next⟩
      · rw [done, kept] at outcome
        rw [done] at first
        simp only [repeatFrom, done]
        refine ⟨1, Nat.le_add_left 1 left, by simpa using first, fun sound => ?_⟩
        obtain ⟨lost, _⟩ | ⟨_, trace, returned⟩ | overflow := outcome
        · cases lost
        · cases returned
        · exact absurd (congrArg some (Except.error.inj overflow)) sound
      · rw [done] at first same
        obtain ⟨sent, fewer, later, all⟩ := ih (iteration + 1) (same.directories.writable writes)
          (by rw [← sweep.loses_congr same.script, kept])
        simp only [repeatFrom, done]
        refine ⟨sent + 1, Nat.succ_le_succ fewer, ?_, fun sound => congrArg (· + 1) (all sound)⟩
        rw [later, first, List.replicate_succ, List.flatten_cons, List.append_assoc]

/-- A job whose log cannot be opened sends nothing. -/
theorem repeatFrom_executed_of_refused (sweep : Sweep) (job : Job) (iteration left : Nat)
    {fault : IoFault} (refused : bench.files.writable job.path = .error fault)
    : (sweep.repeatFrom job bench iteration left).2.2.session.executed
      = bench.session.executed := by
  cases left with
  | zero => rfl
  | succ left => simp only [repeatFrom, runOnce, Files.openLog_of_refused refused]

-----------------------------------------------------------------------------------------
-- Jobs one after the other
-----------------------------------------------------------------------------------------

theorem runJob_executed (sweep : Sweep) (some : sweep.config.repetitions ≠ 0) (job : Job)
    (bench : Bench SyntheticSession Files)
    : ∃ sent,
        sent <+: sweep.statementsOf bench job
        ∧ (sweep.runJob job bench).2.session.executed = bench.session.executed ++ sent
        ∧ ((sweep.runJob job bench).1.fatal? = none → sent = sweep.statementsOf bench job) := by
  rw [runJob_session, statementsOf]
  split
  next fault refused =>
    refine ⟨[], List.prefix_rfl, ?_, fun _ => rfl⟩
    rw [sweep.repeatFrom_executed_of_refused job 1 _ refused, List.append_nil]
  next location writes =>
    cases lost : sweep.loses bench.session job.sql with
    | true =>
        obtain ⟨left, count⟩ := Nat.exists_eq_succ_of_ne_zero some
        refine ⟨job.request, by simp, ?_, fun _ => by simp⟩
        rw [count, sweep.repeatFrom_executed_of_loses 1 left writes lost]
    | false =>
        obtain ⟨sent, fewer, executed, all⟩ :=
          sweep.repeatFrom_executed 1 sweep.config.repetitions writes lost
        refine ⟨_, ?_, executed, fun on => ?_⟩
        · obtain ⟨rest, count⟩ := Nat.exists_eq_add_of_le fewer
          dsimp only
          rw [if_neg Bool.false_ne_true, count, List.replicate_add, List.flatten_append]
          exact List.prefix_append _ _
        · simp [all (repeatFrom_of_runJob on)]

theorem runVariant_sameTerms (sweep : Sweep) (base : String) (variant : Variant)
    (bench : Bench SyntheticSession Files)
    : bench.SameTerms (sweep.runVariant base variant bench).2 :=
  ⟨(sweep.runVariant_script base variant bench).symm,
    sweep.runVariant_sameDirectories base variant bench⟩

/-- The jobs of some variants send their statements one after the other, by induction along the
variants. What a job sends is known from the first bench on, and only the clock cuts the statements
off.
-/
theorem runVariants_executed (sweep : Sweep) (some : sweep.config.repetitions ≠ 0)
    (base : String) (bench : Bench SyntheticSession Files) {variants : List Variant}
    {jobs : List Job} (known : List.Forall₂ (sweep.IsJobOf base) variants jobs)
    : ∃ sent,
        sent <+: jobs.flatMap (sweep.statementsOf bench)
        ∧ (sweep.runVariants base bench variants).2.session.executed
          = bench.session.executed ++ sent
        ∧ ∀ runs, (sweep.runVariants base bench variants).1 = .ok runs
            → sent = jobs.flatMap (sweep.statementsOf bench) := by
  induction known generalizing bench with
  | nil => exact ⟨[], List.prefix_rfl, by simp [runVariants], fun _ _ => rfl⟩
  | @cons variant job variants jobs own others ih =>
      obtain ⟨first, part, executed, all⟩ := sweep.runJob_executed some job bench
      have same := sweep.runVariant_sameTerms base variant bench
      rw [← runVariant_of_job own] at executed all
      rcases ran : sweep.runVariant base variant bench with ⟨run, next⟩
      rw [ran] at executed all same
      simp only [runVariants, ran, List.flatMap_cons]
      cases on : run.fatal? with
      | some error =>
          refine ⟨first, part.trans (List.prefix_append _ _), executed, fun runs done => ?_⟩
          cases done
      | none =>
          obtain ⟨later, rest, sent, done⟩ := ih next
          rw [← sweep.statementsOf_congr same] at rest done
          rw [all on] at executed
          refine ⟨_, (List.prefix_append_right_inj _).mpr rest, ?_, ?_⟩
          · dsimp only
            rw [sent, executed, List.append_assoc]
          · intro runs whole
            obtain ⟨_, finished, _⟩ := map_eq_ok.mp whole
            rw [done _ finished]

-----------------------------------------------------------------------------------------
-- Whole sweeps
-----------------------------------------------------------------------------------------

section

variable {S C D W : Type} [RowSource C] [Session S C] [Sink W] [Storage D W]

/-- Summaries send nothing, by induction along them. -/
theorem writeSummaries_session (sweep : Sweep) (accumulator : Accumulator Variant)
    (base : String) (bench : Bench S D) (groups : List Variant)
    : (sweep.writeSummaries accumulator base bench groups).2.session = bench.session := by
  induction groups generalizing bench with
  | nil => rfl
  | cons group rest ih =>
      simp only [writeSummaries]
      rw [ih, writeSummary]
      split
      · rfl
      · dsimp only
        split <;> rfl

theorem writeReport_session (sweep : Sweep) (report : Report) (bench : Bench S D)
    : (sweep.writeReport report bench).session = bench.session := by
  rw [writeReport]
  split <;> rfl

theorem run_session (sweep : Sweep) (detailBase summaryBase : String) (bench : Bench S D)
    : (sweep.run detailBase summaryBase bench).2.session
      = (sweep.runVariants detailBase bench sweep.space.variants).2.session := by
  rw [run]
  dsimp only
  split
  next failed => rw [failed]
  next finished =>
    rw [finished, writeReport_session, writeSummaries_session]

end

theorem Accepted.exists_jobs {sweep : Sweep} (h : sweep.Accepted) (base : String)
    {variants : List Variant} (all : ∀ variant ∈ variants, variant ∈ sweep.space.variants)
    : ∃ jobs, List.Forall₂ (sweep.IsJobOf base) variants jobs := by
  induction variants with
  | nil => exact ⟨[], .nil⟩
  | cons variant rest ih =>
      rw [List.forall_mem_cons] at all
      obtain ⟨job, own⟩ := h.exists_job base all.1
      obtain ⟨jobs, others⟩ := ih all.2
      exact ⟨job :: jobs, .cons own others⟩

end Sweep

/-- Every variant of an accepted sweep has a job, and the statements of a sweep that comes to its
report are those of the jobs of its variants, in their order. Each repetition sends the settings and
the query again. All repetitions are sent unless the connection is lost in the first one, which ends
the variant, and a variant without a log sends nothing. A sweep whose clock overflows before its
report has sent a first part of these statements.
-/
theorem Sweep.statements_of_run {grammar : Grammar} {config : Config} {sweep : Sweep}
    (accepted : Sweep.ofConfig grammar config = .ok sweep) (detailBase summaryBase : String)
    (bench : Bench SyntheticSession Files)
    : ∃ jobs sent,
        List.Forall₂ (sweep.IsJobOf detailBase) sweep.space.variants jobs
        ∧ (sweep.run detailBase summaryBase bench).2.session.executed
          = bench.session.executed ++ sent
        ∧ (∀ report, (sweep.run detailBase summaryBase bench).1 = .ok report
          → sent = jobs.flatMap (sweep.statementsOf bench))
        ∧ ∀ error, (sweep.run detailBase summaryBase bench).1 = .error error
            → error = .clockOverflow
              ∧ ¬ bench.session.HasRoom (sweep.space.variants.length * sweep.config.repetitions)
              ∧ sent <+: jobs.flatMap (sweep.statementsOf bench) := by
  have promised := Sweep.accepted_of_config accepted
  obtain ⟨jobs, known⟩ := promised.exists_jobs detailBase fun _ member => member
  obtain ⟨sent, part, executed, all⟩ :=
    sweep.runVariants_executed promised.repetitions detailBase bench known
  refine ⟨jobs, sent, known, ?_, fun report ran => ?_, fun error failed => ?_⟩
  · rw [sweep.run_session, executed]
  · obtain ⟨runs, middle, concludes⟩ := concludes_of_run (Prod.ext ran rfl)
    exact all runs (congrArg (·.1) concludes.ran)
  · obtain ⟨rfl, full⟩ := promised.overflow_of_hasRoom failed
    exact ⟨rfl, full, part⟩

/-- Of four variants, one has a directory in place of its log and sends nothing, one loses its
connection and sends once, and one that is canceled sends as often as the one that is not.
-/
theorem Sweep.statements_of_run_four_variants
    : ∃ (config : Config) (sweep : Sweep) (bench : Bench SyntheticSession Files)
        (jobs : List Sweep.Job) (report : Report),
        Sweep.ofConfig Sql.statements? config = .ok sweep
        ∧ (sweep.run "detail" "summary" bench).1 = .ok report
        ∧ List.Forall₂ (sweep.IsJobOf "detail") sweep.space.variants jobs
        ∧ jobs.flatMap (sweep.statementsOf bench) = [
            "SET work_mem = '1kB';", "select * from t1",
            "SET work_mem = '2kB';", "select * from t2",
            "SET work_mem = '2kB';", "select * from t2",
            "SET work_mem = '3kB';", "select * from t3",
            "SET work_mem = '3kB';", "select * from t3"
          ] := by
  let config : Config := {
    checkpoints := [2]
    repetitions := 2
    query := "select * from t{g}"
    axes := [⟨"g", ["0", "1", "2", "3"]⟩]
    settings := ⟨[⟨"work_mem", "{g}kB"⟩]⟩
    detailPath := "{base}_{g}"
  }
  let session : SyntheticSession := {
    rows := 2
    delay := .ofParts 1 0
    failures := [⟨"t1", 1, .connectionLost "gone"⟩, ⟨"t2", 1, .canceled "late"⟩]
  }
  let files : Files := { nodes := [(["detail_0"], .directory)] }
  let bench : Bench SyntheticSession Files := { session, files, epoch := ⟨0, 0⟩ }
  obtain ⟨sweep, accepted, ended, expected⟩ := Sweep.exists_of_config config
    (fun sweep =>
      (sweep.run "detail" "summary" bench).1.toOption.isSome = true
      ∧ (sweep.run "detail" "summary" bench).2.session.executed = [
        "SET work_mem = '1kB';", "select * from t1",
        "SET work_mem = '2kB';", "select * from t2",
        "SET work_mem = '2kB';", "select * from t2",
        "SET work_mem = '3kB';", "select * from t3",
        "SET work_mem = '3kB';", "select * from t3"
      ])
    (by decide +kernel)
  obtain ⟨report, there⟩ := Option.isSome_iff_exists.mp ended
  have ran := toOption_eq_some.mp there
  obtain ⟨jobs, sent, known, executed, all, _⟩ :=
    statements_of_run accepted "detail" "summary" bench
  exact ⟨config, sweep, bench, jobs, report, accepted, ran, known,
    (all report ran).symm.trans (executed.symm.trans expected)⟩

/-- A clock that overflows in the second of three repetitions: the third one is not sent, although
the log can be opened and no connection is lost.
-/
theorem Sweep.statements_end_at_overflow
    : ∃ (config : Config) (sweep : Sweep) (bench : Bench SyntheticSession Files)
        (job : Sweep.Job),
        Sweep.ofConfig Sql.statements? config = .ok sweep
        ∧ List.Forall₂ (sweep.IsJobOf "detail") sweep.space.variants [job]
        ∧ sweep.statementsOf bench job = ["select * from t", "select * from t", "select * from t"]
        ∧ (sweep.run "detail" "summary" bench).1 = .error .clockOverflow
        ∧ (sweep.run "detail" "summary" bench).2.session.executed
          = bench.session.executed ++ ["select * from t", "select * from t"] := by
  let config : Config := {
    checkpoints := [1]
    repetitions := 3
    query := "select * from t"
    axes := []
    settings := {}
  }
  let session : SyntheticSession := { rows := 1, delay := .longest }
  let bench : Bench SyntheticSession Files := { session, files := {}, epoch := ⟨0, 0⟩ }
  let job : Sweep.Job := { sql := "select * from t", settings := {}, path := "detail" }
  obtain ⟨sweep, accepted, variants, query, settings, path, expected, ended, executed⟩ :=
    Sweep.exists_of_config config
      (fun sweep =>
        sweep.space.variants = [⟨[]⟩]
        ∧ (sweep.query.render ⟨[]⟩).toOption = some job.sql
        ∧ (sweep.config.settings.render ⟨[]⟩).toOption = some job.settings
        ∧ (sweep.detail.renderWith (pathValue "detail" ⟨[]⟩)).toOption = some job.path
        ∧ sweep.statementsOf bench job
          = ["select * from t", "select * from t", "select * from t"]
        ∧ (sweep.run "detail" "summary" bench).1.toOption.isNone = true
        ∧ (sweep.run "detail" "summary" bench).2.session.executed
          = bench.session.executed ++ ["select * from t", "select * from t"])
      (by decide +kernel)
  have own : sweep.IsJobOf "detail" ⟨[]⟩ job :=
    ⟨toOption_eq_some.mp query, toOption_eq_some.mp settings, toOption_eq_some.mp path⟩
  exact ⟨config, sweep, bench, job, accepted, variants ▸ .cons own .nil, expected,
    overflow_of_isNone ended, executed⟩

end JoinLatency

import JoinLatency.Database.Session
import JoinLatency.Proofs.Sweep.Partition
import JoinLatency.Proofs.Sweep.Writing
import JoinLatency.Proofs.Timer.Stopping

/-! What goes wrong in the sweep of a valid configuration. All its texts can be rendered, so that a
variant fails by a file or by its session, and a summary by a file alone.
-/

namespace JoinLatency

-----------------------------------------------------------------------------------------
-- Errors of texts, and errors of a bench
-----------------------------------------------------------------------------------------

namespace Error

/-- The errors of a text that is rendered: it is no template or has an unknown placeholder, a value
is no token, or the text is no query.
-/
inductive OfText : Error → Prop
  | template (fault : TemplateFault) : OfText (.template fault)
  | invalidParameter (name value : String) : OfText (.invalidParameter name value)
  | query (fault : QueryFault) : OfText (.query fault)

/-- The errors of the session and of the files that a sweep works on. -/
inductive OfBench : Error → Prop
  | connectionLost (message : String) : OfBench (.connectionLost message)
  | database (message : String) : OfBench (.database message)
  | io (fault : IoFault) : OfBench (.io fault)

theorem starts_append {heading text : String} (h : heading.toList <+: text.toList) (more : String)
    : heading.toList <+: (text ++ more).toList := by
  rw [String.toList_append]
  exact h.trans (List.prefix_append _ _)

/-- The messages of errors of texts have headings of their own. -/
theorem OfText.heading {error : Error} (h : error.OfText)
    : ∃ heading ∈ ["Template error", "Invalid parameter", "SQL parse error"],
        heading.toList <+: error.message.toList := by
  cases h with
  | template fault => exact ⟨"Template error", by simp, starts_append (by decide) _⟩
  | invalidParameter name value =>
      have start : "Invalid parameter".toList <+: "Invalid parameter `".toList := by decide
      have named := starts_append (starts_append start name) "`: "
      exact ⟨"Invalid parameter", by simp, starts_append (starts_append named _) _⟩
  | query fault => exact ⟨"SQL parse error", by simp, starts_append (by decide) _⟩

theorem OfBench.heading {error : Error} (h : error.OfBench)
    : ∃ heading ∈ ["Database", "IO error"], heading.toList <+: error.message.toList := by
  cases h with
  | connectionLost message =>
      have start : "Database".toList <+: "Database connection lost: ".toList := by decide
      exact ⟨"Database", by simp, starts_append (starts_append (starts_append start _) _) _⟩
  | database message => exact ⟨"Database", by simp, starts_append (by decide) _⟩
  | io fault => exact ⟨"IO error", by simp, starts_append (by decide) _⟩

/-- An error of a bench is told from the errors of texts by its message. -/
theorem OfBench.message_ne {error other : Error} (h : error.OfBench) (text : other.OfText)
    : error.message ≠ other.message := by
  obtain ⟨heading, mine, starts⟩ := h.heading
  obtain ⟨heading', theirs, starts'⟩ := text.heading
  have apart : ∀ heading ∈ ["Database", "IO error"],
      ∀ heading' ∈ ["Template error", "Invalid parameter", "SQL parse error"],
        ¬ (heading.toList <+: heading'.toList ∨ heading'.toList <+: heading.toList) := by
    decide
  intro same
  rw [← same] at starts'
  exact apart heading mine heading' theirs (List.prefix_or_prefix_of_prefix starts starts')

end Error

-----------------------------------------------------------------------------------------
-- Errors of sessions and of runs
-----------------------------------------------------------------------------------------

/-- A session refuses settings and queries with errors of its own, unless its clock overflows. -/
structure Session.OwnErrors (S : Type) {C : Type} [RowSource C] [Session S C] : Prop where
  configure (session : S) (settings : Settings) (error : Error)
    : (Session.configure session settings).1 = .error error → error ≠ .clockOverflow
      → error.OfBench
  submit (session : S) (sql : String) (error : Error)
    : (Session.submit session sql).1 = .error error → error ≠ .clockOverflow → error.OfBench

theorem SyntheticSession.ownErrors : Session.OwnErrors SyntheticSession where
  configure _ _ _ refused := nomatch refused
  submit _ _ _ refused := nomatch refused

namespace Database

theorem ofBench_of_mapError {α : Type} {result : Except Fault α} {error : Error}
    (h : result.mapError Fault.error = .error error)
    : error.OfBench := by
  cases result with
  | ok value => cases h
  | error fault =>
      obtain rfl := Except.error.inj h
      exact .database fault.message

/-- The first batch that fails does so with an error of the database, by induction along them. -/
theorem DatabaseSession.executeAll_error {session : DatabaseSession} {batches : List String}
    {error : Error} (h : (session.executeAll batches).1 = .error error)
    : error.OfBench := by
  induction batches generalizing session with
  | nil => cases h
  | cons sql rest ih =>
      rw [executeAll] at h
      split at h
      next fault next refused =>
        obtain rfl := Except.error.inj h
        exact ofBench_of_mapError (congrArg (·.1) refused)
      next next done => exact ih h

theorem DatabaseSession.ownErrors : Session.OwnErrors DatabaseSession where
  configure _ _ _ refused _ := executeAll_error refused
  submit _ _ _ refused _ := ofBench_of_mapError refused

end Database

/-- A run with an unlimited log fails only by a fetch that lost the connection, unless its clock
overflows.
-/
theorem Timer.lost_of_run_error {R σ : Type} [Seconds R] [RowSource σ] {timer : Timer R}
    {source : σ} {log : Log} (unlimited : log.capacity = none) {error : Error}
    (h : (timer.run source log).result = .error error) (on : error ≠ .clockOverflow)
    : ∃ (cursor rest : σ) (message : String),
        RowSource.fetch cursor = some (.failed (.connectionLost message), rest)
        ∧ error = .connectionLost message := by
  obtain ⟨readings, last, _, ending⟩ := timer.run_ending source log
  have failed : (timer.run source log).outcome = .error error := by
    rw [Finished.outcome, h]
    rfl
  cases ending.stops unlimited with
  | spent _ _ _ _ outcome => cases outcome.symm.trans failed
  | overflow _ _ _ outcome => exact absurd (Except.error.inj (failed.symm.trans outcome)) on
  | @answered _ answer fetched decides =>
      cases answer with
      | row => exact decides.elim
      | finished => cases decides.symm.trans failed
      | failed fault =>
          cases fault with
          | canceled message => cases decides.symm.trans failed
          | other message => cases decides.symm.trans failed
          | connectionLost message =>
              exact ⟨last, _, message, fetched, Except.error.inj (failed.symm.trans decides)⟩

-----------------------------------------------------------------------------------------
-- Faults of jobs
-----------------------------------------------------------------------------------------

namespace Sweep

/-- What can go wrong with a job: the file of its log cannot be written, the session refuses its
settings or its query, or a fetch loses the connection.
-/
inductive JobFault (S : Type) {C : Type} [RowSource C] [Session S C] (job : Job) : Error → Prop
  | file {files : Files} {fault : IoFault} (refused : files.writable job.path = .error fault)
    : JobFault S job (.io fault)
  | settings {session : S} {error : Error}
    (refused : (Session.configure session job.settings).1 = .error error)
    : JobFault S job error
  | query {session : S} {error : Error}
    (refused : (Session.submit session job.sql).1 = .error error)
    : JobFault S job error
  | fetch {cursor rest : C} {message : String}
    (lost : RowSource.fetch cursor = some (.failed (.connectionLost message), rest))
    : JobFault S job (.connectionLost message)

variable {S C : Type} [RowSource C] [Session S C] {sweep : Sweep} {job : Job}
  {bench : Bench S Files} {error : Error}

theorem JobFault.ofBench (own : Session.OwnErrors S) (h : JobFault S job error)
    (on : error ≠ .clockOverflow)
    : error.OfBench := by
  cases h with
  | file refused => exact .io _
  | settings refused => exact own.configure _ _ _ refused on
  | query refused => exact own.submit _ _ _ refused on
  | fetch lost => exact .connectionLost _

theorem jobFault_of_runQuery {iteration : Nat} {file : FileLog}
    (h : (sweep.runQuery job iteration bench file).1 = .error error) (on : error ≠ .clockOverflow)
    : JobFault S job error := by
  simp only [runQuery, Sink.status, Timer.run_fileLog] at h
  split at h
  next fault next refused =>
    obtain rfl := Except.error.inj h
    exact .settings (congrArg (·.1) refused)
  next next configured =>
    split at h
    next fault last refused =>
      obtain rfl := Except.error.inj h
      exact .query (congrArg (·.1) refused)
    next cursor last submitted =>
      obtain ⟨cursor, rest, message, lost, rfl⟩ := Timer.lost_of_run_error rfl h on
      exact .fetch lost

theorem jobFault_of_runOnce {iteration : Nat}
    (h : (sweep.runOnce job iteration bench).1 = .error error) (on : error ≠ .clockOverflow)
    : JobFault S job error := by
  rw [runOnce] at h
  cases writes : bench.files.writable job.path with
  | error fault =>
      rw [Files.openLog_of_refused writes] at h
      obtain rfl := Except.error.inj h
      exact .file writes
  | ok location =>
      rw [Files.openLog_of_writable writes] at h
      exact jobFault_of_runQuery h on

/-- Repetitions fail by one of them, by induction on their number. -/
theorem jobFault_of_repeatFrom {iteration left : Nat}
    (h : (sweep.repeatFrom job bench iteration left).2.1 = some error) (on : error ≠ .clockOverflow)
    : JobFault S job error := by
  induction left generalizing bench iteration with
  | zero => cases h
  | succ left ih =>
      rw [repeatFrom] at h
      split at h
      next fault next failed =>
        obtain rfl := Option.some.inj h
        exact jobFault_of_runOnce (congrArg (·.1) failed) on
      next trace next returned => exact ih h

theorem jobFault_of_runJob (h : (sweep.runJob job bench).1.result = .error error)
    (on : error ≠ .clockOverflow)
    : JobFault S job error := by
  rw [runJob] at h
  split at h
  next runs fault next failed =>
    obtain rfl := Except.error.inj h
    exact jobFault_of_repeatFrom (congrArg (·.2.1) failed) on
  next runs next finished =>
    cases writes : next.files.writable job.path with
    | error fault =>
        simp only [logAverages_of_refused writes] at h
        obtain rfl := Except.error.inj h
        exact .file writes
    | ok location =>
        simp only [logAverages_of_writable writes] at h
        cases h

theorem runJob_query (sweep : Sweep) (job : Job) (bench : Bench S Files)
    : (sweep.runJob job bench).1.query = some job.sql := by
  rw [runJob]
  split
  · rfl
  · dsimp only
    split <;> rfl

-----------------------------------------------------------------------------------------
-- Variants and groups
-----------------------------------------------------------------------------------------

/-- The outcome of a variant has the query of its job, and its error is a fault of the job, but not
that of the clock.
-/
def FailsByJob (S : Type) {C : Type} [RowSource C] [Session S C] (sweep : Sweep) (base : String)
    (variant : Variant) (outcome : VariantOutcome) : Prop :=
  ∃ job,
    sweep.IsJobOf base variant job
    ∧ outcome.query = some job.sql
    ∧ ∀ message, outcome.error = some message →
        ∃ error, JobFault S job error ∧ error ≠ .clockOverflow ∧ message = error.message

theorem Accepted.runVariant_faults (h : sweep.Accepted) (base : String) {variant : Variant}
    (member : variant ∈ sweep.space.variants) (bench : Bench S Files)
    (on : (sweep.runVariant base variant bench).1.fatal? = none)
    : sweep.FailsByJob S base variant
        ((sweep.runVariant base variant bench).1.outcome variant) := by
  obtain ⟨job, mine⟩ := h.exists_job base member
  rw [runVariant_of_job mine] at on ⊢
  refine ⟨job, mine, sweep.runJob_query job bench, fun message failed => ?_⟩
  rw [VariantRun.outcome] at failed
  dsimp only at failed
  split at failed
  · cases failed
  next error result =>
    obtain rfl := Option.some.inj failed
    have sound : error ≠ .clockOverflow := by
      rintro rfl
      exact VariantRun.fatal?_eq_none_iff.mp on result
    exact ⟨error, jobFault_of_runJob result sound, sound, rfl⟩

/-- A session with errors of its own leaves no outcome with an error of a text. -/
theorem FailsByJob.error_ne {base : String} {variant : Variant} {outcome : VariantOutcome}
    (h : sweep.FailsByJob S base variant outcome) (own : Session.OwnErrors S)
    (text : error.OfText)
    : outcome.error ≠ some error.message := by
  obtain ⟨job, _, _, faults⟩ := h
  intro failed
  obtain ⟨fault, mine, on, same⟩ := faults _ failed
  exact (mine.ofBench own on).message_ne text same.symm

/-- All variants of an accepted sweep fail by their jobs only, by induction along them. -/
theorem Passes.faults (h : sweep.Accepted) {base : String} {bench last : Bench S Files}
    {variants : List Variant} {runs : List (Variant × VariantRun)}
    (passes : sweep.Passes base bench variants runs last)
    (members : ∀ variant ∈ variants, variant ∈ sweep.space.variants)
    : List.Forall₂ (sweep.FailsByJob S base) variants
        (runs.map fun (variant, run) => run.outcome variant) := by
  induction passes with
  | nil bench => exact .nil
  | @cons bench next last variant run variants runs own on more ih =>
      rw [List.forall_mem_cons] at members
      have first := h.runVariant_faults base members.1 bench
      rw [own] at first
      exact .cons (first on) (ih members.2)

theorem writeSummary_error {accumulator : Accumulator Variant} {base path message : String}
    {group : Variant} (named : sweep.summary.renderWith (pathValue base group) = .ok path)
    (failed : (sweep.writeSummary accumulator base group bench).1.error = some message)
    : ∃ fault : IoFault, message = (Error.io fault).message := by
  simp only [writeSummary, named] at failed
  split at failed
  next fault files refused => exact ⟨fault, (Option.some.inj failed).symm⟩
  next files saved => cases failed

/-- Summaries whose paths have texts fail by their files only, by induction along the groups. -/
theorem writeSummaries_error {accumulator : Accumulator Variant} {base : String}
    {groups : List Variant}
    (named : ∀ group ∈ groups, ∃ path, sweep.summary.renderWith (pathValue base group) = .ok path)
    {summary : SummaryOutcome}
    (member : summary ∈ (sweep.writeSummaries accumulator base bench groups).1)
    {message : String} (failed : summary.error = some message)
    : ∃ fault : IoFault, message = (Error.io fault).message := by
  induction groups generalizing bench with
  | nil => cases member
  | cons group rest ih =>
      rw [List.forall_mem_cons] at named
      obtain ⟨path, mine⟩ := named.1
      rcases List.mem_cons.mp member with rfl | later
      · exact writeSummary_error mine failed
      · exact ih named.2 later

end Sweep

-----------------------------------------------------------------------------------------
-- Whole sweeps
-----------------------------------------------------------------------------------------

/-- A valid configuration has a sweep in which no text goes wrong. Every variant has a query,
settings and a path for its log, and every group a path for its summary, whatever the bases are.
Every outcome tells its query; a variant fails by a fault of its job, and a summary by its file.
If the session refuses with errors of its own only, no message is that of an error of a text. Only
the clock of a session that is not steady ends the sweep before its report.
-/
theorem Sweep.faults_of_validate {grammar : Grammar} {config : Config}
    (valid : config.validate grammar = .ok ())
    : ∃ sweep,
        Sweep.ofConfig grammar config = .ok sweep
        ∧ sweep.config = config
        ∧ ∀ detailBase summaryBase : String,
            (∀ variant ∈ sweep.space.variants,
              (∃ job, sweep.IsJobOf detailBase variant job)
              ∧ ∃ path,
                  sweep.summary.renderWith (pathValue summaryBase (sweep.groupOf variant))
                  = .ok path)
            ∧ ∀ {S C : Type} [RowSource C] [Session S C] (bench : Bench S Files),
                (∀ error, (sweep.run detailBase summaryBase bench).1 = .error error →
                  error = .clockOverflow ∧ ¬ Session.Steady S)
                ∧ ∀ report last, sweep.run detailBase summaryBase bench = (.ok report, last) →
                    List.Forall₂ (sweep.FailsByJob S detailBase) sweep.space.variants
                      report.variants
                    ∧ (∀ summary ∈ report.summaries, ∀ message,
                        summary.error = some message
                        → ∃ fault : IoFault, message = (Error.io fault).message)
                    ∧ (Session.OwnErrors S → ∀ error : Error, error.OfText →
                        (∀ outcome ∈ report.variants, outcome.error ≠ some error.message)
                        ∧ ∀ summary ∈ report.summaries, summary.error ≠ some error.message) := by
  obtain ⟨sweep, made, same⟩ := Sweep.exists_of_validate valid
  have accepted := Sweep.accepted_of_config made
  refine ⟨sweep, made, same, fun detailBase summaryBase => ⟨fun variant member => ?_, ?_⟩⟩
  · exact ⟨accepted.exists_job detailBase member, accepted.exists_summaryPath summaryBase member⟩
  intro S C _ _ bench
  refine ⟨fun error failed => accepted.overflow_of_steady failed, fun report last ran => ?_⟩
  obtain ⟨runs, middle, concludes⟩ := concludes_of_run ran
  have settled : List.Forall₂ (sweep.FailsByJob S detailBase) sweep.space.variants
      report.variants := by
    rw [concludes.outcomes]
    exact concludes.passes.faults accepted fun _ member => member
  have named (group : Variant)
      (member : group ∈ distinct (sweep.space.variants.map sweep.groupOf))
      : ∃ path, sweep.summary.renderWith (pathValue summaryBase group) = .ok path := by
    obtain ⟨variant, there, rfl⟩ :=
      List.mem_map.mp (((firstOccurrences_distinct _).mem_iff group).mp member)
    exact accepted.exists_summaryPath summaryBase there
  have written (summary : SummaryOutcome) (member : summary ∈ report.summaries)
      (message : String) (failed : summary.error = some message)
      : ∃ fault : IoFault, message = (Error.io fault).message :=
    writeSummaries_error named (concludes.summaries ▸ member) failed
  refine ⟨settled, written, fun own error text => ⟨?_, ?_⟩⟩
  · have apart := settled.flip.imp
      fun outcome variant (settles : sweep.FailsByJob S detailBase variant outcome) =>
        And.intro (settles.error_ne own text) settles
    exact ((List.forall₂_and_left _ _).mp apart).1
  · intro summary member failed
    obtain ⟨fault, same⟩ := written summary member _ failed
    exact (Error.OfBench.io fault).message_ne text same.symm

/-- An axis with the name of the base, and a group that repeats a name. The connection is lost in
the first variant, and the directory of the summaries is missing.
-/
theorem Sweep.faults_of_validate_base_axis
    : ∃ (config : Config) (sweep : Sweep) (bench last : Bench SyntheticSession Files)
        (report : Report),
        config.axes.map (·.name) = ["base", "g"]
        ∧ config.groupBy = ["g", "g"]
        ∧ config.settings.settings.map (·.value) = ["\x7bbase\x7dkB"]
        ∧ Sweep.ofConfig Sql.statements? config = .ok sweep
        ∧ sweep.run "detail" "summary" bench = (.ok report, last)
        ∧ report.variants.map (·.query) = [some "select * from t0_a", some "select * from t1_a"]
        ∧ report.variants.map (·.error) = [some (Error.connectionLost "gone").message, none]
        ∧ report.summaries.length = 1
        ∧ (∀ summary ∈ report.summaries,
            ∃ fault : IoFault, summary.error = some (Error.io fault).message)
        ∧ ∀ error : Error, error.OfText →
            ∀ outcome ∈ report.variants, outcome.error ≠ some error.message := by
  let config : Config := {
    checkpoints := [2]
    query := "select * from t\x7bbase\x7d_\x7bg\x7d"
    axes := [⟨"base", ["0", "1"]⟩, ⟨"g", ["a"]⟩]
    groupBy := ["g", "g"]
    settings := { settings := [⟨"work_mem", "\x7bbase\x7dkB"⟩] }
    summaryPath := "\x7bg\x7d/\x7bbase\x7d"
  }
  let session : SyntheticSession := {
    rows := 2
    delay := .ofParts 1 0
    failures := [⟨"t0", 1, .connectionLost "gone"⟩]
  }
  let bench : Bench SyntheticSession Files := { session, files := {}, epoch := ⟨0, 0⟩ }
  obtain ⟨sweep, made, report, there, queries, errors, count, refused⟩ :=
    Sweep.exists_of_config config
      (fun sweep => ∃ report ∈ (sweep.run "detail" "summary" bench).1.toOption,
        report.variants.map (·.query) = [some "select * from t0_a", some "select * from t1_a"]
        ∧ report.variants.map (·.error) = [some (Error.connectionLost "gone").message, none]
        ∧ report.summaries.length = 1
        ∧ ∀ summary ∈ report.summaries, summary.error.isSome = true)
      (by decide +kernel)
  obtain ⟨_, valid, _⟩ := bind_eq_ok.mp made
  obtain ⟨sweep', made', _, runs⟩ := faults_of_validate valid
  obtain rfl := Except.ok.inj (made.symm.trans made')
  obtain ⟨_, reported⟩ := (runs "detail" "summary").2 bench
  obtain ⟨_, written, apart⟩ := reported report _ (run_of_mem there)
  refine ⟨config, sweep, bench, _, report, rfl, rfl, rfl, made, run_of_mem there, queries, errors,
    count, ?_, ?_⟩
  · intro summary member
    obtain ⟨message, failed⟩ := Option.isSome_iff_exists.mp (refused summary member)
    obtain ⟨fault, rfl⟩ := written summary member message failed
    exact ⟨fault, failed⟩
  · exact fun error text => (apart SyntheticSession.ownErrors error text).1

end JoinLatency

import JoinLatency.Proofs.Sweep.Statements
import JoinLatency.Proofs.Sweep.SummaryFiles

/-! Detail logs after a sweep. Every job writes at the end of its log, and several jobs may share
one, so that a log holds what it held before and then the passages of its jobs in their order.
-/

namespace JoinLatency

-----------------------------------------------------------------------------------------
-- Contents that grow
-----------------------------------------------------------------------------------------

namespace Files

/-- The content of a file after some texts were written to its end. The first one creates it. -/
def grown (content : Option ByteArray) (texts : List String) : Option ByteArray :=
  texts.foldl (fun content text => some (content.getD ByteArray.empty ++ text.toUTF8)) content

theorem grown_append (content : Option ByteArray) (first second : List String)
    : grown content (first ++ second) = grown (grown content first) second :=
  List.foldl_append

/-- Texts that are written one by one are written as one text, by induction along them. -/
theorem grown_eq (content : Option ByteArray) {texts : List String} (any : texts ≠ [])
    : grown content texts
      = some (content.getD ByteArray.empty ++ (String.join texts).toUTF8) := by
  have joined (text : String) (rest : List String)
      : text.toUTF8 ++ (String.join rest).toUTF8 = (String.join (text :: rest)).toUTF8 := by
    rw [String.join_cons]
    exact String.toByteArray_append.symm
  induction texts generalizing content with
  | nil => exact absurd rfl any
  | cons text rest ih =>
      rw [← joined, ← ByteArray.append_assoc]
      cases rest with
      | nil => simp [grown]
      | cons next rest => exact ih (some (content.getD ByteArray.empty ++ text.toUTF8)) (by simp)

/-- A content with the bytes of a text is the text. -/
theorem content_of_bytes {content : Option ByteArray} {text : String}
    (h : content.map (·.data.toList) = some text.toUTF8.data.toList)
    : content = some text.toUTF8 := by
  obtain ⟨bytes, rfl, same⟩ := Option.map_eq_some_iff.mp h
  exact congrArg some (ByteArray.ext (Array.toList_inj.mp same))

/-- Texts are written to the end of one file, by induction along them. -/
theorem content?_appendAll (files : Files) {location : Location} (ne : location ≠ [])
    (texts : List String) (other : Location)
    : (files.appendAll location texts).content? other
      = if location = other then grown (files.content? other) texts
        else files.content? other := by
  induction texts generalizing files with
  | nil => simp [appendAll, grown]
  | cons text rest ih =>
      have later := ih (files.appendAt location text.toUTF8)
      rw [appendAt, content?_put files ne] at later
      refine later.trans ?_
      split
      next same =>
        subst same
        rfl
      · rfl

end Files

namespace Sweep

-----------------------------------------------------------------------------------------
-- Passages of jobs
-----------------------------------------------------------------------------------------

/-- What a job wrote to its log comes from its outcome and from the times at which its repetitions
started.
-/
structure Passage where
  job : Job
  outcome : VariantOutcome
  starts : List Start

/-- The texts of a passage that are written at a location. -/
def Passage.textsAt (sweep : Sweep) (bench : Bench SyntheticSession Files) (location : Location)
    (passage : Passage) : List String :=
  if (bench.files.writable passage.job.path).toOption = some location then
    sweep.logTexts bench.session passage.job.sql passage.outcome passage.starts
  else []

/-- A passage has a start for each repetition that was tried, at least one, and those with an open
log did not overflow the clock.
-/
structure Passage.Tried (sweep : Sweep) (bench : Bench SyntheticSession Files) (passage : Passage)
    : Prop where
  any : passage.starts ≠ []
  count : passage.starts.length = passage.outcome.attempts
  ended
    : ∀ location, bench.files.writable passage.job.path = .ok location →
        ∀ start ∈ passage.starts, sweep.ComesToEnd bench.session passage.job.sql start

variable {bench : Bench SyntheticSession Files} {location : Location}

theorem logTexts_congr (sweep : Sweep) {left right : SyntheticSession}
    (same : left.script = right.script) (sql : String)
    : sweep.logTexts left sql = sweep.logTexts right sql := by
  funext outcome starts
  simp only [logTexts, entries, sweep.entry_congr same sql]

theorem Passage.textsAt_congr (sweep : Sweep) {left right : Bench SyntheticSession Files}
    (same : left.SameTerms right) (location : Location)
    : Passage.textsAt sweep left location = Passage.textsAt sweep right location := by
  funext passage
  rw [textsAt, textsAt, sweep.logTexts_congr same.script, same.directories.writable_toOption]

theorem Passage.Tried.congr {sweep : Sweep} {left right : Bench SyntheticSession Files}
    {passage : Passage} (h : passage.Tried sweep right) (same : left.SameTerms right)
    : passage.Tried sweep left where
  any := h.any
  count := h.count
  ended location writes := by
    rw [sweep.comesToEnd_congr same.script]
    exact h.ended location (same.directories.writable writes)

/-- At least one repetition was tried, so that a passage is not empty where its path leads. -/
theorem Passage.Tried.textsAt_ne_nil {sweep : Sweep} {passage : Passage}
    (h : passage.Tried sweep bench)
    (writes : bench.files.writable passage.job.path = .ok location)
    : passage.textsAt sweep bench location ≠ [] := by
  rw [textsAt, if_pos (toOption_eq_some.mpr writes), logTexts, entries]
  simp [h.any]

/-- A job that does not end the program leaves a passage at the location of its log, whether it
fails or not.
-/
theorem runJob_passage (sweep : Sweep) (some : sweep.config.repetitions ≠ 0) {job : Job}
    (on : (sweep.runJob job bench).1.fatal? = none) (variant : Variant)
    : ∃ starts : List Start,
        let passage : Passage := ⟨job, (sweep.runJob job bench).1.outcome variant, starts⟩
        passage.Tried sweep bench
        ∧ ∀ location,
            (sweep.runJob job bench).2.files.content? location
            = Files.grown (bench.files.content? location)
                (passage.textsAt sweep bench location) := by
  cases writes : bench.files.writable job.path with
  | error fault =>
      rw [runJob_of_refused sweep some writes]
      refine ⟨[startOn bench], ⟨by simp, rfl, fun location leads => ?_⟩, fun location => ?_⟩
      · cases writes.symm.trans leads
      · rw [Passage.textsAt, if_neg (by simp [writes, Except.toOption])]
        rfl
  | ok place =>
      obtain ⟨run, told⟩ := sweep.runJob_trial some writes on
      obtain ⟨starts, tried, ended, files⟩ := told variant
      have any := sweep.attempts_jobRun some bench.session job.sql variant
      rw [← run, ← tried] at any
      refine ⟨starts, ⟨List.length_eq_zero_iff.not.mp any, tried, fun _ _ => ended⟩,
        fun location => ?_⟩
      rw [files, Files.content?_appendAll bench.files (Files.ne_nil_of_writable writes)]
      split
      next same => rw [Passage.textsAt, if_pos (by rw [writes, same]; rfl)]
      next other =>
        rw [Passage.textsAt, if_neg (by simpa [writes, Except.toOption] using other)]
        rfl

/-- The jobs of some variants leave their passages one after the other, by induction along the
variants. Where a path leads and what a session answers is known from the first bench on.
-/
theorem Passes.passages {sweep : Sweep} (some : sweep.config.repetitions ≠ 0) {base : String}
    {bench last : Bench SyntheticSession Files} {variants : List Variant}
    {runs : List (Variant × VariantRun)} (h : sweep.Passes base bench variants runs last)
    {jobs : List Job} (known : List.Forall₂ (sweep.IsJobOf base) variants jobs)
    : ∃ passages : List Passage,
        passages.map (·.job) = jobs
        ∧ passages.map (·.outcome) = runs.map (fun (variant, run) => run.outcome variant)
        ∧ (∀ passage ∈ passages, passage.Tried sweep bench)
        ∧ ∀ location,
            last.files.content? location
            = Files.grown (bench.files.content? location)
                (passages.flatMap (Passage.textsAt sweep bench location)) := by
  induction h generalizing jobs with
  | nil bench =>
      cases known
      exact ⟨[], rfl, rfl, by simp, fun location => rfl⟩
  | @cons bench next last variant run variants runs own on more ih =>
      obtain ⟨job, jobs, mine, others, rfl⟩ := List.forall₂_cons_left_iff.mp known
      have same := sweep.runVariant_sameTerms base variant bench
      rw [runVariant_of_job mine] at own
      rw [runVariant_of_job mine, own] at same
      have passes : (sweep.runJob job bench).1.fatal? = none := by rw [own]; exact on
      obtain ⟨starts, tried, first⟩ := sweep.runJob_passage some passes variant
      rw [own] at tried first
      obtain ⟨passages, known, outcomes, sound, rest⟩ := ih others
      have all := List.forall_mem_cons.mpr
        ⟨tried, fun passage member => (sound passage member).congr same⟩
      refine ⟨⟨job, _, starts⟩ :: passages, congrArg (job :: ·) known,
        congrArg (_ :: ·) outcomes, all, fun location => ?_⟩
      have later := rest location
      have own : next.files.content? location = _ := first location
      rw [own, ← Passage.textsAt_congr sweep same] at later
      rw [List.flatMap_cons, Files.grown_append]
      exact later

end Sweep

-----------------------------------------------------------------------------------------
-- Whole sweeps
-----------------------------------------------------------------------------------------

/-- What detail logs hold after a sweep. A log that is neither the file of a summary nor that of
the report holds what it held before, and then the passages of all variants whose paths lead to it,
in the order of the sweep. A passage has an entry for each repetition that was tried, none of which
overflowed the clock, and the averages of a completed variant. Only a clock without room for all
rows ends a sweep before its report.
-/
theorem Sweep.detail_logs_grow {grammar : Grammar} {config : Config} {sweep : Sweep}
    (accepted : Sweep.ofConfig grammar config = .ok sweep) (detailBase summaryBase : String)
    (bench : Bench SyntheticSession Files)
    : (∀ error, (sweep.run detailBase summaryBase bench).1 = .error error →
        error = .clockOverflow
        ∧ ¬ bench.session.HasRoom (sweep.space.variants.length * sweep.config.repetitions))
      ∧ ∀ report last, sweep.run detailBase summaryBase bench = (.ok report, last) →
          ∃ passages : List Passage,
            List.Forall₂ (sweep.IsJobOf detailBase) sweep.space.variants (passages.map (·.job))
            ∧ passages.map (·.outcome) = report.variants
            ∧ (∀ passage ∈ passages, passage.Tried sweep bench)
            ∧ ∀ location,
                (∃ passage ∈ passages, bench.files.writable passage.job.path = .ok location)
                → (∀ outcome ∈ report.summaries, outcome.error = none →
                    bench.files.writable outcome.path ≠ .ok location)
                → (∀ path ∈ sweep.config.reportPath, bench.files.writable path ≠ .ok location)
                → last.files.content? location
                  = some ((bench.files.content? location).getD ByteArray.empty
                      ++ (String.join
                            (passages.flatMap
                              (Passage.textsAt sweep bench location))).toUTF8) := by
  have promised := Sweep.accepted_of_config accepted
  refine ⟨fun error failed => promised.overflow_of_hasRoom failed, fun report last ran => ?_⟩
  obtain ⟨jobs, known⟩ := promised.exists_jobs detailBase fun _ member => member
  obtain ⟨runs, middle, concludes⟩ := concludes_of_run ran
  obtain ⟨passages, same, outcomes, tried, contents⟩ :=
    concludes.passes.passages promised.repetitions known
  obtain ⟨after, writes, rfl⟩ := concludes.writesAll
  refine ⟨passages, same ▸ known, outcomes.trans concludes.outcomes.symm, tried,
    fun location detail summaries reports => ?_⟩
  have kinds := concludes.passes.sameDirectories
  have any : passages.flatMap (Passage.textsAt sweep bench location) ≠ [] := by
    obtain ⟨passage, member, leads⟩ := detail
    exact fun empty => (tried passage member).textsAt_ne_nil leads
      (List.flatMap_eq_nil_iff.mp empty passage member)
  have kept := writes.content?_of_apart fun outcome member done leads =>
    summaries outcome member done (kinds.symm.writable leads)
  have left := sweep.writeReport_content? report after fun path wanted leads =>
    reports path wanted ((kinds.trans writes.sameDirectories).symm.writable leads)
  rw [left, kept, contents, Files.grown_eq _ any]

/-- Two variants share a log that is not empty. One loses its connection and is tried once; the
other one is canceled, and tried as often as it should be.
-/
theorem Sweep.detail_logs_grow_shared_path
    : ∃ (config : Config) (sweep : Sweep) (bench last : Bench SyntheticSession Files)
        (report : Report) (passages : List Sweep.Passage),
        Sweep.ofConfig Sql.statements? config = .ok sweep
        ∧ sweep.run "detail" "summary" bench = (.ok report, last)
        ∧ passages.map (·.outcome.status) = [.failed, .completed]
        ∧ passages.map (·.starts.length) = [1, 2]
        ∧ last.files.content? ["detail"]
          = some ("old\n".toUTF8
              ++ (String.join
                    (passages.flatMap
                      (Sweep.Passage.textsAt sweep bench ["detail"]))).toUTF8)
        ∧ last.files.content? ["detail"]
          = some (
              "old\n"
                ++ "========================================================\n"
                ++ "Time of the test run: 1970-01-01 00:00:00.000000\n"
                ++ "BNL: select * from t0 #1\n"
                ++ "  time before fetch: 0.000000 sec\n"
                ++ "Database connection issue: gone\n"
                ++ "========================================================\n"
                ++ "Time of the test run: 1970-01-01 00:00:01.000000\n"
                ++ "BNL: select * from t1 #1\n"
                ++ "  time before fetch: 0.000000 sec\n"
                ++ "Query was canceled: late\n"
                ++ "Total joined tuples fetched: 2, 2.000000\n"
                ++ "Time of current query run: 2.00 sec\n\n"
                ++ "========================================================\n"
                ++ "Time of the test run: 1970-01-01 00:00:03.000000\n"
                ++ "BNL: select * from t1 #2\n"
                ++ "  time before fetch: 0.000000 sec\n"
                ++ "Query was canceled: late\n"
                ++ "Total joined tuples fetched: 2, 2.000000\n"
                ++ "Time of current query run: 2.00 sec\n\n"
                ++ "\tQuery: select * from t1\n"
                ++ "K val:2\tAverage time (unweighted): 2.000000"
                ++ "\t Average time (weighted): 1.970100\n").toUTF8 := by
  let config : Config := {
    checkpoints := [2]
    repetitions := 2
    query := "select * from t\x7bg\x7d"
    axes := [⟨"g", ["0", "1"]⟩]
    settings := {}
    reportPath := some "report"
  }
  let session : SyntheticSession := {
    rows := 3
    delay := .ofParts 1 0
    failures := [⟨"t0", 1, .connectionLost "gone"⟩, ⟨"t1", 2, .canceled "late"⟩]
  }
  let files : Files := { nodes := [(["detail"], .file "old\n".toUTF8)] }
  let bench : Bench SyntheticSession Files := { session, files, epoch := ⟨0, 0⟩ }
  obtain ⟨sweep, accepted, report, there, statuses, attempts, paths, summaries, reports, text⟩ :=
    Sweep.exists_of_config config
    (fun sweep => ∃ report ∈ (sweep.run "detail" "summary" bench).1.toOption,
      report.variants.map (·.status) = [.failed, .completed]
      ∧ report.variants.map (·.attempts) = [1, 2]
      ∧ (∀ variant ∈ sweep.space.variants,
          (sweep.detail.renderWith (pathValue "detail" variant)).toOption = some "detail")
      ∧ (∀ outcome ∈ report.summaries,
          (files.writable outcome.path).toOption ≠ some ["detail"])
      ∧ (∀ path ∈ sweep.config.reportPath, (files.writable path).toOption ≠ some ["detail"])
      ∧ ((sweep.run "detail" "summary" bench).2.files.content? ["detail"]).map (·.data.toList)
        = some (
            "old\n"
              ++ "========================================================\n"
              ++ "Time of the test run: 1970-01-01 00:00:00.000000\n"
              ++ "BNL: select * from t0 #1\n"
              ++ "  time before fetch: 0.000000 sec\n"
              ++ "Database connection issue: gone\n"
              ++ "========================================================\n"
              ++ "Time of the test run: 1970-01-01 00:00:01.000000\n"
              ++ "BNL: select * from t1 #1\n"
              ++ "  time before fetch: 0.000000 sec\n"
              ++ "Query was canceled: late\n"
              ++ "Total joined tuples fetched: 2, 2.000000\n"
              ++ "Time of current query run: 2.00 sec\n\n"
              ++ "========================================================\n"
              ++ "Time of the test run: 1970-01-01 00:00:03.000000\n"
              ++ "BNL: select * from t1 #2\n"
              ++ "  time before fetch: 0.000000 sec\n"
              ++ "Query was canceled: late\n"
              ++ "Total joined tuples fetched: 2, 2.000000\n"
              ++ "Time of current query run: 2.00 sec\n\n"
              ++ "\tQuery: select * from t1\n"
              ++ "K val:2\tAverage time (unweighted): 2.000000"
              ++ "\t Average time (weighted): 1.970100\n").toUTF8.data.toList)
    (by decide +kernel)
  obtain ⟨_, grow⟩ := detail_logs_grow accepted "detail" "summary" bench
  obtain ⟨passages, known, outcomes, tried, contents⟩ := grow report _ (run_of_mem there)
  have counts : passages.map (·.starts.length) = passages.map (·.outcome.attempts) :=
    List.map_congr_left fun passage member => (tried passage member).count
  rw [← outcomes, List.map_map] at statuses attempts
  have leads : ∃ passage ∈ passages, bench.files.writable passage.job.path = .ok ["detail"] := by
    cases passages with
    | nil => cases statuses
    | cons first rest =>
        obtain ⟨variant, others, job, _, variants⟩ := List.forall₂_cons_right_iff.mp known
        have rendered := toOption_eq_some.mp (paths variant (variants ▸ List.mem_cons_self))
        have path : first.job.path = "detail" := Except.ok.inj (job.path.symm.trans rendered)
        refine ⟨first, List.mem_cons_self, ?_⟩
        rw [path]
        exact toOption_eq_some.mp (by decide +kernel)
  refine ⟨config, sweep, bench, _, report, passages, accepted, run_of_mem there, statuses,
    counts.trans attempts, contents ["detail"] leads ?_ ?_, Files.content_of_bytes text⟩
  · intro outcome member _ writes
    exact summaries outcome member (toOption_eq_some.mpr writes)
  · intro path wanted writes
    exact reports path wanted (toOption_eq_some.mpr writes)

/-- Texts that all have a character have it at least once each, by induction along them. -/
theorem length_le_count_join {c : Char} {texts : List String}
    (each : ∀ text ∈ texts, 0 < text.toList.count c)
    : texts.length ≤ (String.join texts).toList.count c := by
  induction texts with
  | nil => simp
  | cons text rest ih =>
      rw [List.forall_mem_cons] at each
      have later := ih each.2
      rw [String.join_cons, String.toList_append, List.count_append, List.length_cons]
      omega

/-- A clock that overflows in the second of three repetitions: its entry breaks off before anything
is told of its run. The log is not made of two or more entries of runs that came to an end, whatever
became of the variant and whenever its repetitions started.
-/
theorem Sweep.detail_log_breaks_off
    : ∃ (config : Config) (sweep : Sweep) (bench : Bench SyntheticSession Files)
        (job : Sweep.Job),
        Sweep.ofConfig Sql.statements? config = .ok sweep
        ∧ config.repetitions = 3
        ∧ List.Forall₂ (sweep.IsJobOf "detail") sweep.space.variants [job]
        ∧ bench.files.writable job.path = .ok ["detail"]
        ∧ ¬ bench.files.SameFile "detail" "summary"
        ∧ config.reportPath = none
        ∧ (sweep.run "detail" "summary" bench).1 = .error .clockOverflow
        ∧ (sweep.run "detail" "summary" bench).2.files.content? ["detail"]
          = some (
              "========================================================\n"
                ++ "Time of the test run: 1970-01-01 00:00:00.000000\n"
                ++ "BNL: select * from t #1\n"
                ++ "  time before fetch: 0.000000 sec\n"
                ++ "Total joined tuples fetched: 1, 18446744073709551616.000000\n"
                ++ "Time of current query run: 18446744073709551616.00 sec\n\n"
                ++ "========================================================\n"
                ++ "Time of the test run: +584554051223-11-09 07:00:15.999999\n"
                ++ "BNL: select * from t #2\n"
                ++ "  time before fetch: 0.000000 sec\n").toUTF8
        ∧ ∀ (outcome : VariantOutcome) (starts : List Start),
            2 ≤ starts.length
            → (∀ start ∈ starts, sweep.ComesToEnd bench.session job.sql start)
            → (sweep.run "detail" "summary" bench).2.files.content? ["detail"]
              ≠ some (String.join
                  (sweep.logTexts bench.session job.sql outcome starts)).toUTF8 := by
  let config : Config := {
    checkpoints := [1]
    repetitions := 3
    query := "select * from t"
    axes := []
    settings := {}
  }
  let session : SyntheticSession := { rows := 1, delay := .longest }
  let bench : Bench SyntheticSession Files := { session, files := {}, epoch := ⟨0, 0⟩ }
  let job : Sweep.Job := { sql := "select * from t", settings := {}, path := "detail" }
  obtain ⟨sweep, accepted, variants, query, settings, path, ended, text, told⟩ :=
    Sweep.exists_of_config config
      (fun sweep =>
        sweep.space.variants = [⟨[]⟩]
        ∧ (sweep.query.render ⟨[]⟩).toOption = some job.sql
        ∧ (sweep.config.settings.render ⟨[]⟩).toOption = some job.settings
        ∧ (sweep.detail.renderWith (pathValue "detail" ⟨[]⟩)).toOption = some job.path
        ∧ (sweep.run "detail" "summary" bench).1.toOption.isNone = true
        ∧ ((sweep.run "detail" "summary" bench).2.files.content? ["detail"]).map (·.data.toList)
          = some (
              "========================================================\n"
                ++ "Time of the test run: 1970-01-01 00:00:00.000000\n"
                ++ "BNL: select * from t #1\n"
                ++ "  time before fetch: 0.000000 sec\n"
                ++ "Total joined tuples fetched: 1, 18446744073709551616.000000\n"
                ++ "Time of current query run: 18446744073709551616.00 sec\n\n"
                ++ "========================================================\n"
                ++ "Time of the test run: +584554051223-11-09 07:00:15.999999\n"
                ++ "BNL: select * from t #2\n"
                ++ "  time before fetch: 0.000000 sec\n").toUTF8.data.toList
        ∧ 0 < (sweep.trial bench.session job.sql).log.text.toList.count 'j')
      (by decide +kernel)
  have own : sweep.IsJobOf "detail" ⟨[]⟩ job :=
    ⟨toOption_eq_some.mp query, toOption_eq_some.mp settings, toOption_eq_some.mp path⟩
  have broken := Files.content_of_bytes text
  obtain ⟨left, holds, once⟩ : ∃ left : String,
      (sweep.run "detail" "summary" bench).2.files.content? ["detail"] = some left.toUTF8
      ∧ left.toList.count 'j' = 1 :=
    ⟨_, broken, by
      simp only [String.toList_append, List.count_append]
      decide +kernel⟩
  refine ⟨config, sweep, bench, job, accepted, rfl, variants ▸ .cons own .nil,
    toOption_eq_some.mp (by decide +kernel), by decide +kernel, rfl, overflow_of_isNone ended,
    broken, fun outcome starts two ends whole => ?_⟩
  have each : ∀ text ∈ sweep.entries bench.session job.sql 1 starts, 0 < text.toList.count 'j' := by
    intro text member
    obtain ⟨⟨start, iteration⟩, there, rfl⟩ := List.mem_map.mp member
    obtain overflow | ⟨_, log⟩ := sweep.trial_alike bench.session job.sql start.clock
    · exact absurd overflow (ends start (List.fst_mem_of_mem_zipIdx there))
    · change 0 < (sweep.entry bench.session job.sql iteration start).toList.count 'j'
      rw [entry, log, String.toList_append, List.count_append]
      omega
  have many := length_le_count_join each
  rw [entries, List.length_map, List.length_zipIdx, ← entries] at many
  obtain rfl := String.toByteArray_inj.mp (Option.some.inj (holds.symm.trans whole))
  rw [logTexts, String.join_append, String.toList_append, List.count_append] at once
  omega

end JoinLatency

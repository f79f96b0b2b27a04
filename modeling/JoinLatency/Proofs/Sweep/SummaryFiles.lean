import JoinLatency.Proofs.Sweep.Reporting
import JoinLatency.Proofs.Sweep.Writing
import JoinLatency.Session.Synthetic

/-! Summary files after a sweep. Groups write their summaries one after the other, each over what
it finds, so a summary is kept as long as no later group with another text writes to its file.
-/

namespace JoinLatency

variable {S C : Type} [RowSource C] [Session S C]

-----------------------------------------------------------------------------------------
-- Summaries one after the other
-----------------------------------------------------------------------------------------

/-- The file of a summary that was written holds its text and nothing else. -/
def Files.Keeps (files : Files) (format : SummaryFormat) (outcome : SummaryOutcome) : Prop :=
  outcome.error = none → files.read outcome.path = .ok (format.text outcome.lines).toUTF8

/-- A summary that is written later has a file of its own, or the same text. -/
def Files.Spares (files : Files) (format : SummaryFormat) (earlier later : SummaryOutcome)
    : Prop :=
  earlier.error = none → later.error = none → files.SameFile earlier.path later.path
    → format.text earlier.lines = format.text later.lines

instance (files : Files) (format : SummaryFormat) (outcome : SummaryOutcome)
    : Decidable (files.Keeps format outcome) :=
  decidable_of_iff
    (outcome.error = none →
      (files.read outcome.path).toOption.map ByteArray.data
        = some (format.text outcome.lines).toUTF8.data)
    (by
      simp only [Files.Keeps, Option.map_eq_some_iff, toOption_eq_some, ← ByteArray.ext_iff,
        exists_eq_right])

instance (files : Files) (format : SummaryFormat)
    : DecidableRel (files.Spares format) :=
  fun earlier later =>
    inferInstanceAs (Decidable (earlier.error = none → later.error = none →
      files.SameFile earlier.path later.path →
        format.text earlier.lines = format.text later.lines))

theorem Files.SameDirectories.spares {left right : Files} (h : left.SameDirectories right)
    (format : SummaryFormat)
    : left.Spares format = right.Spares format := by
  funext earlier later
  simp only [Spares, h.sameFile]

/-- Summaries with some outcomes lead from one tree of files to another. One that fails writes
nothing.
-/
inductive WritesAll (format : SummaryFormat)
    : Files → List SummaryOutcome → Files → Prop
  | nil (files : Files) : WritesAll format files [] files
  | refused {files last : Files} {outcome : SummaryOutcome} {outcomes : List SummaryOutcome}
    (failed : outcome.error ≠ none) (more : WritesAll format files outcomes last)
    : WritesAll format files (outcome :: outcomes) last
  | saved {files next last : Files} {outcome : SummaryOutcome}
    {outcomes : List SummaryOutcome} (done : outcome.error = none)
    (save : files.save outcome.path (format.text outcome.lines).toUTF8 = .ok next)
    (more : WritesAll format next outcomes last)
    : WritesAll format files (outcome :: outcomes) last

/-- The summaries of some groups are written or fail one by one, by induction along them. -/
theorem Sweep.writeSummaries_writesAll (sweep : Sweep) (accumulator : Accumulator Variant)
    (base : String) (bench : Bench S Files) (groups : List Variant)
    : WritesAll sweep.config.summaryFormat bench.files
        (sweep.writeSummaries accumulator base bench groups).1
        (sweep.writeSummaries accumulator base bench groups).2.files := by
  induction groups generalizing bench with
  | nil => exact .nil bench.files
  | cons group rest ih =>
      rw [writeSummaries]
      dsimp only
      rw [writeSummary]
      split
      · exact .refused (by simp) (ih bench)
      next path known =>
        dsimp only
        split
        next fault files refused =>
          obtain ⟨_, rfl⟩ := Files.saveText_of_error refused
          exact .refused (by simp) (ih _)
        next files saved =>
          exact .saved rfl (Files.saveText_of_ok saved) (ih { bench with files })

namespace WritesAll

variable {format : SummaryFormat} {files last : Files} {outcomes : List SummaryOutcome}

theorem sameDirectories (h : WritesAll format files outcomes last)
    : files.SameDirectories last := by
  induction h with
  | nil files => exact .refl files
  | refused failed more ih => exact ih
  | saved done save more ih =>
      obtain ⟨location, writes, same, content⟩ := Files.save_eq_ok save
      exact same.trans ih

theorem writable (h : WritesAll format files outcomes last) {outcome : SummaryOutcome}
    (member : outcome ∈ outcomes) (done : outcome.error = none)
    : ∃ location, files.writable outcome.path = .ok location := by
  induction h with
  | nil files => cases member
  | refused failed more ih =>
      rcases List.mem_cons.mp member with rfl | member
      · exact absurd done failed
      · exact ih member
  | saved first save more ih =>
      obtain ⟨place, writes, same, content⟩ := Files.save_eq_ok save
      rcases List.mem_cons.mp member with rfl | member
      · exact ⟨place, writes⟩
      · obtain ⟨location, later⟩ := ih member
        exact ⟨location, same.symm.writable later⟩

/-- Summaries leave the content of a file that none of them is written to. -/
theorem content?_of_apart (h : WritesAll format files outcomes last) {location : Location}
    (apart : ∀ outcome ∈ outcomes, outcome.error = none →
      files.writable outcome.path ≠ .ok location)
    : last.content? location = files.content? location := by
  induction h with
  | nil files => rfl
  | refused failed more ih => exact ih fun outcome member => apart outcome (by simp [member])
  | saved done save more ih =>
      obtain ⟨place, writes, same, content⟩ := Files.save_eq_ok save
      have other : place ≠ location := by
        rintro rfl
        exact apart _ (by simp) done writes
      rw [ih, content, if_neg other]
      intro outcome member later writes'
      exact apart outcome (by simp [member]) later (same.symm.writable writes')

/-- The summaries are all kept if and only if the later ones spare the files of the earlier ones,
by induction along them. The last summary in a file decides its content.
-/
theorem keeps_iff (h : WritesAll format files outcomes last)
    : (∀ outcome ∈ outcomes, last.Keeps format outcome)
      ↔ outcomes.Pairwise (files.Spares format) := by
  induction h with
  | nil files => simp
  | @refused files last outcome outcomes failed more ih =>
      have kept : last.Keeps format outcome := fun done => absurd done failed
      have spares (later : SummaryOutcome) : files.Spares format outcome later :=
        fun done => absurd done failed
      simp only [List.forall_mem_cons, List.pairwise_cons, kept, spares, ih, true_and,
        implies_true]
  | @saved files next last outcome outcomes done save more ih =>
      obtain ⟨location, writes, same, content⟩ := Files.save_eq_ok save
      have whole := same.trans more.sameDirectories
      rw [List.forall_mem_cons, List.pairwise_cons, ih, ← same.spares]
      refine and_congr_left fun pairwise => ?_
      have kept := ih.mpr (same.spares format ▸ pairwise)
      constructor
      · intro own later member _ done'
        rintro ⟨place, first, second⟩
        have here := (Files.read_eq_ok (whole.writable first)).mp (own done)
        have there := (Files.read_eq_ok (whole.writable second)).mp (kept later member done')
        exact String.toByteArray_inj.mp (Option.some.inj (here.symm.trans there))
      · intro spared _
        rw [Files.read_eq_ok (whole.writable writes)]
        by_cases again : ∃ later ∈ outcomes, later.error = none
            ∧ files.writable later.path = .ok location
        · obtain ⟨later, member, done', second⟩ := again
          rw [spared later member done done' ⟨location, writes, second⟩]
          exact (Files.read_eq_ok (whole.writable second)).mp (kept later member done')
        · rw [more.content?_of_apart, content, if_pos rfl]
          intro later member done' second
          exact again ⟨later, member, done', same.symm.writable second⟩

end WritesAll

-----------------------------------------------------------------------------------------
-- Whole sweeps
-----------------------------------------------------------------------------------------

theorem Sweep.writeReport_sameDirectories (sweep : Sweep) (report : Report)
    (bench : Bench S Files)
    : bench.files.SameDirectories (sweep.writeReport report bench).files := by
  rw [writeReport]
  split
  · exact .refl bench.files
  next path wanted =>
    rcases saved : Storage.save bench.files path report.toJson.indented with ⟨fault | done, next⟩
    · obtain ⟨_, rfl⟩ := Files.saveText_of_error saved
      exact .refl bench.files
    · obtain ⟨place, writes, same, content⟩ := Files.save_eq_ok (Files.saveText_of_ok saved)
      exact same

/-- A report leaves the content of all files but its own. -/
theorem Sweep.writeReport_content? (sweep : Sweep) (report : Report) (bench : Bench S Files)
    {location : Location}
    (apart : ∀ path ∈ sweep.config.reportPath, bench.files.writable path ≠ .ok location)
    : (sweep.writeReport report bench).files.content? location
      = bench.files.content? location := by
  rw [writeReport]
  split
  · rfl
  next path wanted =>
    dsimp only
    rcases saved : Storage.save bench.files path report.toJson.indented with ⟨fault | done, next⟩
    · obtain ⟨_, rfl⟩ := Files.saveText_of_error saved
      rfl
    · obtain ⟨place, writes, same, content⟩ := Files.save_eq_ok (Files.saveText_of_ok saved)
      have other : place ≠ location := by
        rintro rfl
        exact apart path wanted writes
      rw [content, if_neg other]

/-- A report leaves the summaries in all files but its own. -/
theorem Sweep.writeReport_keeps (sweep : Sweep) (report : Report) (bench : Bench S Files)
    {outcome : SummaryOutcome} {location : Location} (format : SummaryFormat)
    (writes : bench.files.writable outcome.path = .ok location)
    (apart : ∀ path, sweep.config.reportPath = some path →
      ¬ bench.files.SameFile path outcome.path)
    : (sweep.writeReport report bench).files.Keeps format outcome
      ↔ bench.files.Keeps format outcome := by
  have same := sweep.writeReport_sameDirectories report bench
  have content := sweep.writeReport_content? report bench fun path wanted writes' =>
    apart path wanted ⟨location, writes', writes⟩
  rw [Files.Keeps, Files.Keeps, Files.read_eq_ok writes, Files.read_eq_ok (same.writable writes),
    content]

namespace Sweep

variable {sweep : Sweep} {detailBase summaryBase : String} {bench middle last : Bench S Files}
  {runs : List (Variant × VariantRun)} {report : Report}

/-- Variants leave the directories, by induction along them. -/
theorem Passes.sameDirectories {base : String} {variants : List Variant}
    (h : sweep.Passes base bench variants runs last)
    : bench.files.SameDirectories last.files := by
  induction h with
  | nil bench => exact .refl bench.files
  | @cons bench next last variant run variants runs own on more ih =>
      have first := sweep.runVariant_sameDirectories base variant bench
      rw [own] at first
      exact first.trans ih

/-- A sweep writes its summaries after all variants and before its report. -/
theorem Concludes.writesAll
    (h : sweep.Concludes detailBase summaryBase bench runs middle report last)
    : ∃ after : Bench S Files,
        WritesAll sweep.config.summaryFormat middle.files report.summaries after.files
        ∧ last = sweep.writeReport report after :=
  ⟨_, h.summaries ▸ sweep.writeSummaries_writesAll _ summaryBase middle _, h.last⟩

theorem Concludes.sameDirectories
    (h : sweep.Concludes detailBase summaryBase bench runs middle report last)
    : bench.files.SameDirectories last.files := by
  obtain ⟨after, writes, rfl⟩ := h.writesAll
  exact (h.passes.sameDirectories.trans writes.sameDirectories).trans
    (sweep.writeReport_sameDirectories report after)

end Sweep

/-- After a sweep every summary that was written is in its file, if and only if no later group
wrote another text to the same file.
-/
theorem Sweep.summaries_kept_iff {sweep : Sweep} {detailBase summaryBase : String}
    {bench last : Bench S Files} {report : Report}
    (ran : sweep.run detailBase summaryBase bench = (.ok report, last))
    (apart : ∀ path ∈ sweep.config.reportPath, ∀ outcome ∈ report.summaries,
      outcome.error = none → ¬ bench.files.SameFile path outcome.path)
    : (∀ outcome ∈ report.summaries, last.files.Keeps sweep.config.summaryFormat outcome)
      ↔ report.summaries.Pairwise (bench.files.Spares sweep.config.summaryFormat) := by
  obtain ⟨runs, middle, concludes⟩ := concludes_of_run ran
  obtain ⟨after, writes, rfl⟩ := concludes.writesAll
  have whole := concludes.passes.sameDirectories.trans writes.sameDirectories
  rw [concludes.passes.sameDirectories.spares, ← writes.keeps_iff]
  refine forall₂_congr fun outcome member => ?_
  by_cases done : outcome.error = none
  · obtain ⟨location, found⟩ := writes.writable member done
    refine sweep.writeReport_keeps report after _ (writes.sameDirectories.writable found) ?_
    intro path wanted shared
    exact apart path wanted outcome member done ((whole.sameFile path outcome.path).mpr shared)
  · exact iff_of_true (fun done' => absurd done' done) fun done' => absurd done' done

/-- Two groups with summary paths of their own keep both summaries beside a report. -/
theorem Sweep.summaries_kept_iff_two_paths
    : ∃ (config : Config) (sweep : Sweep) (bench last : Bench SyntheticSession Files)
        (report : Report),
        Sweep.ofConfig Sql.statements? config = .ok sweep
        ∧ config.groupBy ≠ []
        ∧ sweep.run "detail" "summary" bench = (.ok report, last)
        ∧ report.summaries.length = 2
        ∧ (∀ path ∈ sweep.config.reportPath, ∀ outcome ∈ report.summaries,
            outcome.error = none → ¬ bench.files.SameFile path outcome.path)
        ∧ ∀ outcome ∈ report.summaries,
            last.files.Keeps sweep.config.summaryFormat outcome := by
  let config : Config := {
    checkpoints := [2]
    query := "select * from t\x7bg\x7d"
    axes := [⟨"g", ["0", "1"]⟩]
    groupBy := ["g"]
    settings := {}
    summaryPath := "\x7bbase\x7d_\x7bg\x7d"
    reportPath := some "report"
  }
  let session : SyntheticSession := { rows := 2, delay := .ofParts 1 0 }
  let bench : Bench SyntheticSession Files := { session, files := {}, epoch := ⟨0, 0⟩ }
  obtain ⟨sweep, accepted, report, there, two, apart, spared⟩ := Sweep.exists_of_config config
    (fun sweep => ∃ report ∈ (sweep.run "detail" "summary" bench).1.toOption,
      report.summaries.length = 2
      ∧ (∀ path ∈ sweep.config.reportPath, ∀ outcome ∈ report.summaries,
          outcome.error = none → ¬ bench.files.SameFile path outcome.path)
      ∧ report.summaries.Pairwise (bench.files.Spares sweep.config.summaryFormat))
    (by decide +kernel)
  exact ⟨config, sweep, bench, _, report, accepted, by decide, run_of_mem there, two,
    apart, (summaries_kept_iff (run_of_mem there) apart).mpr spared⟩

/-- Two groups that share a summary path do not keep both summaries: the second one, of a group
that failed, empties the file of the first one.
-/
theorem Sweep.summary_lost_on_shared_path
    : ∃ (config : Config) (sweep : Sweep) (bench last : Bench SyntheticSession Files)
        (report : Report),
        Sweep.ofConfig Sql.statements? config = .ok sweep
        ∧ config.reportPath = none
        ∧ ¬ bench.files.SameFile "detail" "summary"
        ∧ sweep.run "detail" "summary" bench = (.ok report, last)
        ∧ (∀ outcome ∈ report.summaries, outcome.error = none ∧ outcome.path = "summary")
        ∧ last.files.read "summary" = .ok ByteArray.empty
        ∧ ∃ outcome ∈ report.summaries,
            outcome.variants = 1
            ∧ ¬ last.files.Keeps sweep.config.summaryFormat outcome := by
  let config : Config := {
    checkpoints := [2]
    query := "select * from t\x7bg\x7d"
    axes := [⟨"g", ["0", "1"]⟩]
    groupBy := ["g"]
    settings := {}
  }
  let session : SyntheticSession := {
    rows := 2
    delay := .ofParts 1 0
    failures := [⟨"t1", 0, .connectionLost "gone"⟩]
  }
  let bench : Bench SyntheticSession Files := { session, files := {}, epoch := ⟨0, 0⟩ }
  obtain ⟨sweep, accepted, report, there, saved, emptied, lost⟩ := Sweep.exists_of_config config
    (fun sweep => ∃ report ∈ (sweep.run "detail" "summary" bench).1.toOption,
      (∀ outcome ∈ report.summaries, outcome.error = none ∧ outcome.path = "summary")
      ∧ ((sweep.run "detail" "summary" bench).2.files.read "summary").toOption
          = some ByteArray.empty
      ∧ ∃ outcome ∈ report.summaries,
          outcome.variants = 1
          ∧ ¬ (sweep.run "detail" "summary" bench).2.files.Keeps sweep.config.summaryFormat
              outcome)
    (by decide +kernel)
  exact ⟨config, sweep, bench, _, report, accepted, rfl, by decide +kernel, run_of_mem there,
    saved, toOption_eq_some.mp emptied, lost⟩

end JoinLatency

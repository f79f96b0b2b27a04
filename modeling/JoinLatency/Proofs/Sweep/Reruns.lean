import JoinLatency.Proofs.Sweep.Recording
import JoinLatency.Proofs.Sweep.Statements
import JoinLatency.Proofs.Sweep.SummaryFiles

/-! Sweeps that are run again. The session and the files are those that the first run left, with a
clock that is ahead and longer logs, but both runs have the same outcomes and send the same
statements.
-/

namespace JoinLatency

namespace Sweep

/-- A variant has a job whose log can be opened. -/
def Opens {S : Type} (sweep : Sweep) (base : String) (bench : Bench S Files) (variant : Variant)
    : Prop :=
  ∃ job location,
    sweep.IsJobOf base variant job ∧ bench.files.writable job.path = .ok location

variable {sweep : Sweep} {base base' : String} {left right : Bench SyntheticSession Files}
  {variant : Variant}

theorem Opens.of_sameDirectories {next : Bench SyntheticSession Files}
    (h : sweep.Opens base left variant) (same : left.files.SameDirectories next.files)
    : sweep.Opens base next variant := by
  obtain ⟨job, location, known, writes⟩ := h
  exact ⟨job, location, known, same.writable writes⟩

-----------------------------------------------------------------------------------------
-- Variants on two benches
-----------------------------------------------------------------------------------------

/-- A variant whose log can be opened has the same run and sends the same statements on benches
whose sessions have the same script, whatever the bases of the paths are, unless it ends the
program.
-/
theorem Opens.runVariant (some : sweep.config.repetitions ≠ 0)
    (hl : sweep.Opens base left variant) (hr : sweep.Opens base' right variant)
    (same : left.session.script = right.session.script)
    (onLeft : (sweep.runVariant base variant left).1.fatal? = none)
    (onRight : (sweep.runVariant base' variant right).1.fatal? = none)
    : (sweep.runVariant base variant left).1 = (sweep.runVariant base' variant right).1
      ∧ ∃ statements : List String,
          (sweep.runVariant base variant left).2.session.executed
            = left.session.executed ++ statements
          ∧ (sweep.runVariant base' variant right).2.session.executed
            = right.session.executed ++ statements := by
  obtain ⟨job, place, ours, writes⟩ := hl
  obtain ⟨job', place', theirs, writes'⟩ := hr
  have sql : job.sql = job'.sql := Except.ok.inj (ours.query.symm.trans theirs.query)
  have settings : job.settings = job'.settings :=
    Except.ok.inj (ours.settings.symm.trans theirs.settings)
  rw [runVariant_of_job ours] at onLeft ⊢
  rw [runVariant_of_job theirs] at onRight ⊢
  constructor
  · rw [(sweep.runJob_trial some writes onLeft).1, (sweep.runJob_trial some writes' onRight).1, sql,
      sweep.jobRun_congr same]
  · obtain ⟨sent, _, executed, all⟩ := sweep.runJob_executed some job left
    obtain ⟨sent', _, executed', all'⟩ := sweep.runJob_executed some job' right
    refine ⟨sent, executed, executed'.trans (congrArg _ ?_)⟩
    rw [all onLeft, all' onRight, statementsOf, statementsOf, writes, writes', Job.request,
      Job.request, sql, settings, sweep.loses_congr same]

/-- So do all variants one after the other, by induction along them. -/
theorem Passes.reruns (some : sweep.config.repetitions ≠ 0) {variants : List Variant}
    {lastLeft lastRight : Bench SyntheticSession Files}
    {ours theirs : List (Variant × VariantRun)}
    (passes : sweep.Passes base left variants ours lastLeft)
    (passes' : sweep.Passes base' right variants theirs lastRight)
    (hl : ∀ variant ∈ variants, sweep.Opens base left variant)
    (hr : ∀ variant ∈ variants, sweep.Opens base' right variant)
    (same : left.session.script = right.session.script)
    : ours = theirs
      ∧ ∃ statements : List String,
          lastLeft.session.executed = left.session.executed ++ statements
          ∧ lastRight.session.executed = right.session.executed ++ statements := by
  induction passes generalizing right theirs with
  | nil left =>
      cases passes'
      exact ⟨rfl, [], by simp⟩
  | @cons left next last variant run variants runs own on more ih =>
      cases passes' with
      | @cons _ next' _ _ run' _ runs' own' on' more' =>
          rw [List.forall_mem_cons] at hl hr
          have alike := hl.1.runVariant some hr.1 same
          have kept := sweep.runVariant_sameTerms base variant left
          have kept' := sweep.runVariant_sameTerms base' variant right
          rw [own, own'] at alike
          rw [own] at kept
          rw [own'] at kept'
          obtain ⟨result, first, executed, executed'⟩ := alike on on'
          obtain ⟨rest, later, executedRest, executedRest'⟩ := ih more'
            (fun other member => (hl.2 other member).of_sameDirectories kept.directories)
            (fun other member => (hr.2 other member).of_sameDirectories kept'.directories)
            (kept.script.symm.trans (same.trans kept'.script))
          refine ⟨congrArg₂ List.cons (congrArg (variant, ·) result) rest, first ++ later, ?_, ?_⟩
          · rw [executedRest, executed, List.append_assoc]
          · rw [executedRest', executed', List.append_assoc]

theorem Concludes.session {S C D W : Type} [RowSource C] [Session S C] [Sink W]
    [Storage D W] {detailBase summaryBase : String} {bench middle last : Bench S D}
    {runs : List (Variant × VariantRun)} {report : Report}
    (h : sweep.Concludes detailBase summaryBase bench runs middle report last)
    : last.session = middle.session := by
  rw [h.last, writeReport_session, writeSummaries_session]

end Sweep

-----------------------------------------------------------------------------------------
-- Whole sweeps
-----------------------------------------------------------------------------------------

/-- A sweep that is run again on what its first run left has the same outcomes for all variants,
the same groups, counts and lines in its summaries, and sends the same statements once more. The
bases of the paths may be others, as long as the detail logs can be opened. Only a clock without
room for all rows ends one of the runs before its report.
-/
theorem Sweep.reruns_alike {grammar : Grammar} {config : Config} {sweep : Sweep}
    (accepted : Sweep.ofConfig grammar config = .ok sweep)
    (detailBase summaryBase detailBase' summaryBase' : String)
    (bench : Bench SyntheticSession Files)
    (open_ : ∀ base ∈ [detailBase, detailBase'], ∀ variant ∈ sweep.space.variants, ∀ path,
      sweep.detail.renderWith (pathValue base variant) = .ok path
        → ∃ location, bench.files.writable path = .ok location)
    : (∀ error, (sweep.run detailBase summaryBase bench).1 = .error error →
        error = .clockOverflow
        ∧ ¬ bench.session.HasRoom (sweep.space.variants.length * sweep.config.repetitions))
      ∧ ∀ first middle, sweep.run detailBase summaryBase bench = (.ok first, middle) →
          (∀ error, (sweep.run detailBase' summaryBase' middle).1 = .error error →
            error = .clockOverflow
            ∧ ¬ middle.session.HasRoom (sweep.space.variants.length * sweep.config.repetitions))
          ∧ ∀ second last, sweep.run detailBase' summaryBase' middle = (.ok second, last) →
              second.variants = first.variants
              ∧ second.summaries.map SummaryOutcome.content
                = first.summaries.map SummaryOutcome.content
              ∧ ∃ statements : List String,
                  middle.session.executed = bench.session.executed ++ statements
                  ∧ last.session.executed = middle.session.executed ++ statements := by
  have promised := Sweep.accepted_of_config accepted
  refine ⟨fun error failed => promised.overflow_of_hasRoom failed, fun first middle ran => ⟨
    fun error failed => promised.overflow_of_hasRoom failed, fun second last again => ?_⟩⟩
  obtain ⟨runs, left, concludes⟩ := concludes_of_run ran
  obtain ⟨runs', right, concludes'⟩ := concludes_of_run again
  have script : bench.session.script = middle.session.script := by
    rw [concludes.session, concludes.passes.script]
  have opens (base : String) (used : base ∈ [detailBase, detailBase'])
      (variant : Variant) (member : variant ∈ sweep.space.variants)
      : sweep.Opens base bench variant := by
    obtain ⟨job, known⟩ := promised.exists_job base member
    obtain ⟨location, writes⟩ := open_ base used variant member job.path known.path
    exact ⟨job, location, known, writes⟩
  obtain ⟨rfl, statements, ours, theirs⟩ := concludes.passes.reruns promised.repetitions
    concludes'.passes (opens detailBase (by simp))
    (fun variant member =>
      (opens detailBase' (by simp) variant member).of_sameDirectories concludes.sameDirectories)
    script
  refine ⟨?_, ?_, statements, ?_, ?_⟩
  · rw [concludes.outcomes, concludes'.outcomes]
  · rw [concludes.summaries_content, concludes'.summaries_content]
  · rw [concludes.session, ours]
  · rw [concludes'.session, theirs]

/-- A sweep that loses its connection in the first of two variants is run again with other logs, on
a clock that the first run moved.
-/
theorem Sweep.reruns_alike_other_bases
    : ∃ (config : Config) (sweep : Sweep) (bench middle last : Bench SyntheticSession Files)
        (first second : Report) (statements : List String),
        Sweep.ofConfig Sql.statements? config = .ok sweep
        ∧ sweep.run "detail" "summary" bench = (.ok first, middle)
        ∧ sweep.run "other" "elsewhere" middle = (.ok second, last)
        ∧ first.variants.map (·.status) = [.failed, .completed]
        ∧ middle.session.clock ≠ bench.session.clock
        ∧ statements = ["select * from t0", "select * from t1", "select * from t1"]
        ∧ second.variants = first.variants
        ∧ second.summaries.map SummaryOutcome.content
          = first.summaries.map SummaryOutcome.content
        ∧ middle.session.executed = bench.session.executed ++ statements
        ∧ last.session.executed = middle.session.executed ++ statements := by
  let config : Config := {
    checkpoints := [2]
    repetitions := 2
    query := "select * from t\x7bg\x7d"
    axes := [⟨"g", ["0", "1"]⟩]
    groupBy := ["g"]
    settings := {}
    detailPath := "\x7bbase\x7d_\x7bg\x7d"
  }
  let session : SyntheticSession := {
    clock := .ofParts 7 0
    rows := 3
    delay := .ofParts 1 0
    failures := [⟨"t0", 1, .connectionLost "gone"⟩]
    executed := ["begin"]
  }
  let bench : Bench SyntheticSession Files := { session, files := {}, epoch := ⟨0, 0⟩ }
  obtain ⟨sweep, accepted, ⟨first, there, statuses⟩, clock, sent, ended, writes⟩ :=
    Sweep.exists_of_config config
      (fun sweep =>
        let middle := (sweep.run "detail" "summary" bench).2
        (∃ first ∈ (sweep.run "detail" "summary" bench).1.toOption,
          first.variants.map (·.status) = [.failed, .completed])
        ∧ middle.session.clock ≠ bench.session.clock
        ∧ middle.session.executed
          = "begin" :: ["select * from t0", "select * from t1", "select * from t1"]
        ∧ (sweep.run "other" "elsewhere" middle).1.toOption.isSome = true
        ∧ ∀ base ∈ ["detail", "other"], ∀ variant ∈ sweep.space.variants,
            ∀ path ∈ (sweep.detail.renderWith (pathValue base variant)).toOption,
              (bench.files.writable path).toOption.isSome)
      (by decide +kernel)
  obtain ⟨second, here⟩ := Option.isSome_iff_exists.mp ended
  obtain ⟨_, alike⟩ := reruns_alike accepted "detail" "summary" "other" "elsewhere" bench
    fun base used variant member path rendered => by
      obtain ⟨location, writes⟩ := Option.isSome_iff_exists.mp
        (writes base used variant member path (toOption_eq_some.mpr rendered))
      exact ⟨location, toOption_eq_some.mp writes⟩
  obtain ⟨_, again⟩ := alike first _ (run_of_mem there)
  obtain ⟨variants, summaries, statements, ours, theirs⟩ := again second _ (run_of_mem here)
  refine ⟨config, sweep, bench, _, _, first, second, statements, accepted, run_of_mem there,
    run_of_mem here, statuses, clock, ?_, variants, summaries, ours, theirs⟩
  exact (List.cons.inj (ours.symm.trans sent)).2

end JoinLatency

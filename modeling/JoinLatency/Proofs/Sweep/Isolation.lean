import JoinLatency.Proofs.Sweep.Lasting
import JoinLatency.Proofs.Sweep.Recording
import JoinLatency.Proofs.Sweep.Trials
import Mathlib.Data.List.Forall2

/-! Two sweeps side by side whose sessions fail different queries. A query that both sessions
answer alike has the same traces in both sweeps, although the clocks may be apart, and a variant
that fails in one of them touches the same detail log in the other.
-/

namespace JoinLatency

/-- Two benches answer some queries alike and have nodes of the same kinds. -/
structure Bench.Alike (queries : String → Prop) (left right : Bench SyntheticSession Files)
    : Prop where
  rows : left.session.rows = right.session.rows
  delay : left.session.delay = right.session.delay
  failure (sql : String)
    : queries sql → left.session.failureOf? sql = right.session.failureOf? sql
  files : left.files.SameKinds right.files

variable {queries : String → Prop} {left right : Bench SyntheticSession Files}

/-- Benches stay alike as long as their sessions keep to their scripts and the kinds of nodes
stay the same.
-/
theorem Bench.Alike.next (h : Alike queries left right)
    {left' right' : Bench SyntheticSession Files}
    (hl : left'.session.script = left.session.script)
    (hr : right'.session.script = right.session.script)
    (files : left'.files.SameKinds right'.files)
    : Alike queries left' right' := by
  simp only [SyntheticSession.script, Prod.mk.injEq] at hl hr
  obtain ⟨rowsLeft, delayLeft, failuresLeft⟩ := hl
  obtain ⟨rowsRight, delayRight, failuresRight⟩ := hr
  refine ⟨by rw [rowsLeft, rowsRight, h.rows], by rw [delayLeft, delayRight, h.delay], ?_, files⟩
  intro sql asked
  simpa only [SyntheticSession.failureOf?, failuresLeft, failuresRight] using h.failure sql asked

namespace Sweep

-----------------------------------------------------------------------------------------
-- Jobs side by side
-----------------------------------------------------------------------------------------

/-- A repetition of a query that benches answer alike has the same result on them, unless the clock
of one of them overflows.
-/
theorem runOnce_result_alike (sweep : Sweep) (job : Job) (iteration : Nat)
    (h : left.Alike queries right) (asked : queries job.sql)
    (hl : (sweep.runOnce job iteration left).1 ≠ .error .clockOverflow)
    (hr : (sweep.runOnce job iteration right).1 ≠ .error .clockOverflow)
    : (sweep.runOnce job iteration left).1 = (sweep.runOnce job iteration right).1 := by
  have files := h.files.writable job.path
  cases writes : right.files.writable job.path with
  | error fault =>
      rw [writes] at files
      rw [runOnce, runOnce, Files.openLog_of_refused files, Files.openLog_of_refused writes]
  | ok location =>
      rw [writes] at files
      rw [sweep.runOnce_result iteration files hl, sweep.runOnce_result iteration writes hr]
      simp only [trial, SyntheticSession.cursor, h.rows, h.delay, h.failure job.sql asked]

/-- Benches stay alike over a repetition of any query. -/
theorem runOnce_alike (sweep : Sweep) (job : Job) (iteration : Nat)
    (h : left.Alike queries right)
    : Bench.Alike queries (sweep.runOnce job iteration left).2
        (sweep.runOnce job iteration right).2 :=
  h.next (sweep.runOnce_script job iteration left) (sweep.runOnce_script job iteration right)
    ((sweep.runOnce_touch job iteration left).symm.trans
      ((h.files.touch job.path).trans (sweep.runOnce_touch job iteration right)))

/-- Repetitions of a query that benches answer alike have the same traces and the same failure on
them, and leave them alike, by induction on their number.
-/
theorem repeatFrom_result (sweep : Sweep) (job : Job) (iteration count : Nat)
    (h : left.Alike queries right) (asked : queries job.sql)
    (hl : (sweep.repeatFrom job left iteration count).2.1 ≠ some .clockOverflow)
    (hr : (sweep.repeatFrom job right iteration count).2.1 ≠ some .clockOverflow)
    : let ours := sweep.repeatFrom job left iteration count
      let theirs := sweep.repeatFrom job right iteration count
      ours.1 = theirs.1 ∧ ours.2.1 = theirs.2.1 ∧ ours.2.2.Alike queries theirs.2.2 := by
  induction count generalizing left right iteration with
  | zero => exact ⟨rfl, rfl, h⟩
  | succ count ih =>
      have same := sweep.runOnce_result_alike job iteration h asked (runOnce_of_repeatFrom hl)
        (runOnce_of_repeatFrom hr)
      have alike := sweep.runOnce_alike job iteration h
      rcases first : sweep.runOnce job iteration left with ⟨result, next⟩
      rcases other : sweep.runOnce job iteration right with ⟨result', next'⟩
      rw [first, other] at same alike
      obtain rfl : result = result' := same
      simp only [repeatFrom, first, other] at hl hr ⊢
      cases result with
      | error error => exact ⟨rfl, rfl, alike⟩
      | ok trace =>
          obtain ⟨traces, failure, later⟩ := ih (iteration + 1) alike hl hr
          exact ⟨congrArg (trace :: ·) traces, failure, later⟩

theorem runJob_result (sweep : Sweep) (job : Job) (h : left.Alike queries right)
    (asked : queries job.sql) (hl : (sweep.runJob job left).1.fatal? = none)
    (hr : (sweep.runJob job right).1.fatal? = none)
    : (sweep.runJob job left).1 = (sweep.runJob job right).1 := by
  obtain ⟨traces, failure, later⟩ := sweep.repeatFrom_result job 1 sweep.config.repetitions h
    asked (repeatFrom_of_runJob hl) (repeatFrom_of_runJob hr)
  rcases first : sweep.repeatFrom job left 1 sweep.config.repetitions with ⟨runs, fault, next⟩
  rcases other : sweep.repeatFrom job right 1 sweep.config.repetitions
    with ⟨runs', fault', next'⟩
  rw [first, other] at traces failure later
  obtain rfl : runs = runs' := traces
  obtain rfl : fault = fault' := failure
  simp only [runJob, first, other]
  cases fault with
  | some error => rfl
  | none =>
      have files := later.files.writable job.path
      cases writes : next'.files.writable job.path with
      | error fault =>
          simp only [logAverages_of_refused writes, logAverages_of_refused (files.trans writes)]
      | ok location =>
          simp only [logAverages_of_writable writes, logAverages_of_writable (files.trans writes)]

theorem runJob_alike (sweep : Sweep) (job : Job) (h : left.Alike queries right)
    : Bench.Alike queries (sweep.runJob job left).2 (sweep.runJob job right).2 :=
  h.next (sweep.runJob_script job left) (sweep.runJob_script job right)
    ((sweep.runJob_touch job left).symm.trans
      ((h.files.touch job.path).trans (sweep.runJob_touch job right)))

-----------------------------------------------------------------------------------------
-- Variants side by side
-----------------------------------------------------------------------------------------

/-- The query of a variant, if it has one, is among some queries. -/
def Asks (sweep : Sweep) (queries : String → Prop) (variant : Variant) : Prop :=
  ∀ sql, sweep.query.render variant = .ok sql → queries sql

theorem job_sql {sweep : Sweep} {variant : Variant} {base sql : String} {job : Job}
    (h : sweep.job variant base sql = .ok job)
    : job.sql = sql := by
  rw [Sweep.job] at h
  cases settings : sweep.config.settings.render variant with
  | error error => simp [settings, bind, Except.bind] at h
  | ok values =>
      cases path : sweep.detail.renderWith (pathValue base variant) with
      | error error => simp [settings, path, bind, Except.bind] at h
      | ok path' =>
          simp only [settings, path, bind, Except.bind, pure, Except.pure] at h
          rw [← Except.ok.inj h]

theorem runVariant_result (sweep : Sweep) (base : String) (variant : Variant)
    (h : left.Alike queries right) (asks : sweep.Asks queries variant)
    (hl : (sweep.runVariant base variant left).1.fatal? = none)
    (hr : (sweep.runVariant base variant right).1.fatal? = none)
    : (sweep.runVariant base variant left).1 = (sweep.runVariant base variant right).1 := by
  cases render : sweep.query.render variant with
  | error error => simp only [runVariant, render]
  | ok sql =>
      cases known : sweep.job variant base sql with
      | error error => simp only [runVariant, render, known]
      | ok job =>
          have same : job.sql = sql := job_sql known
          simp only [runVariant, render, known] at hl hr ⊢
          exact sweep.runJob_result job h (same ▸ asks sql render) hl hr

theorem runVariant_alike (sweep : Sweep) (base : String) (variant : Variant)
    (h : left.Alike queries right)
    : Bench.Alike queries (sweep.runVariant base variant left).2
        (sweep.runVariant base variant right).2 := by
  rw [runVariant, runVariant]
  split
  · exact h
  · split
    · exact h
    next job known => exact sweep.runJob_alike job h

/-- All variants in two sweeps, of which those with a query that benches answer alike leave the
same run, by induction along the variants.
-/
theorem Passes.result {sweep : Sweep} {base : String} {variants : List Variant}
    {lastLeft lastRight : Bench SyntheticSession Files}
    {ours theirs : List (Variant × VariantRun)}
    (hl : sweep.Passes base left variants ours lastLeft)
    (hr : sweep.Passes base right variants theirs lastRight) (h : left.Alike queries right)
    : List.Forall₂
        (fun ours theirs => ours.1 = theirs.1 ∧ (sweep.Asks queries ours.1 → ours.2 = theirs.2))
        ours theirs
      ∧ lastLeft.Alike queries lastRight := by
  induction hl generalizing right theirs with
  | nil left =>
      cases hr
      exact ⟨.nil, h⟩
  | @cons left next last variant run variants runs own on more ih =>
      cases hr with
      | @cons _ next' _ _ run' _ runs' own' on' more' =>
          have alike := sweep.runVariant_alike base variant h
          have same := sweep.runVariant_result base variant h
          rw [own, own'] at alike same
          obtain ⟨runs, later⟩ := ih more' alike
          exact ⟨.cons ⟨rfl, fun asks => same asks on on'⟩ runs, later⟩

-----------------------------------------------------------------------------------------
-- Summaries side by side
-----------------------------------------------------------------------------------------

variable {group : Variant}

/-- Runs that are the same for all variants of a group are recorded alike for it, by induction
along them. What becomes of the other variants is recorded for other groups.
-/
theorem accumulate_agreeOn (sweep : Sweep) {ours theirs : List (Variant × VariantRun)}
    (same : List.Forall₂
      (fun ours theirs =>
        ours.1 = theirs.1 ∧ (sweep.groupOf ours.1 = group → ours.2 = theirs.2)) ours theirs)
    : (sweep.accumulate ours).AgreeOn group (sweep.accumulate theirs) := by
  have go (left right : Accumulator Variant) (h : left.AgreeOn group right)
      : (ours.foldl sweep.recordRun left).AgreeOn group
          (theirs.foldl sweep.recordRun right) := by
    induction same generalizing left right with
    | nil => exact h
    | @cons entry entry' rest rest' first _ ih =>
        obtain ⟨variant, run⟩ := first
        apply ih
        by_cases member : sweep.groupOf entry.1 = group
        · obtain rfl : entry = entry' := Prod.ext variant (run member)
          exact sweep.recordRun_agreeOn h entry
        · have member' : sweep.groupOf entry'.1 ≠ group := variant ▸ member
          exact (sweep.agreeOn_recordRun left member).symm.trans
            (h.trans (sweep.agreeOn_recordRun right member'))
  rw [accumulate_eq, accumulate_eq]
  exact go {} {} (.refl {})

/-- The summary of a group on which two accumulators agree has the same outcome. -/
theorem writeSummary_outcome (sweep : Sweep) {ours theirs : Accumulator Variant}
    (agree : ours.AgreeOn group theirs) (base : String)
    (files : left.files.SameKinds right.files)
    : (sweep.writeSummary ours base group left).1
      = (sweep.writeSummary theirs base group right).1 := by
  simp only [writeSummary, agree.summary, agree.contributors]
  cases sweep.summary.renderWith (pathValue base group) with
  | error error => rfl
  | ok path =>
      have ours := files.writable path
      cases writes : right.files.writable path with
      | error fault =>
          simp only [Files.saveText_of_refused writes,
            Files.saveText_of_refused (ours.trans writes)]
      | ok location =>
          simp only [Files.saveText_of_writable writes,
            Files.saveText_of_writable (ours.trans writes)]

theorem writeSummary_files (sweep : Sweep) (ours theirs : Accumulator Variant) (base : String)
    (group : Variant) (files : left.files.SameKinds right.files)
    : (sweep.writeSummary ours base group left).2.files.SameKinds
        (sweep.writeSummary theirs base group right).2.files := by
  simp only [writeSummary]
  cases sweep.summary.renderWith (pathValue base group) with
  | error error => exact files
  | ok path =>
      have kinds := files.writable path
      cases writes : right.files.writable path with
      | error fault =>
          simp only [Files.saveText_of_refused writes,
            Files.saveText_of_refused (kinds.trans writes)]
          exact files
      | ok location =>
          have here := kinds.trans writes
          simp only [Files.saveText_of_writable writes, Files.saveText_of_writable here]
          exact files.put (Files.writable_eq_ok here).2 _ _

/-- Summaries of the same groups have the same outcomes where two accumulators agree, by
induction along the groups.
-/
theorem writeSummaries_outcomes (sweep : Sweep) (ours theirs : Accumulator Variant)
    (base : String) (groups : List Variant) (files : left.files.SameKinds right.files) {n : Nat}
    (here : groups[n]? = some group) (agree : ours.AgreeOn group theirs)
    : ∃ outcome,
        outcome.group = group.label
        ∧ (sweep.writeSummaries ours base left groups).1[n]? = some outcome
        ∧ (sweep.writeSummaries theirs base right groups).1[n]? = some outcome := by
  induction groups generalizing left right n with
  | nil => simp at here
  | cons first rest ih =>
      cases n with
      | zero =>
          obtain rfl : first = group := Option.some.inj here
          have same := sweep.writeSummary_outcome agree base files
          exact ⟨_, (sweep.writeSummary_tells ours base first left).1, rfl, congrArg some same.symm⟩
      | succ n => exact ih (sweep.writeSummary_files ours theirs base first files) here

end Sweep

-----------------------------------------------------------------------------------------
-- Whole sweeps
-----------------------------------------------------------------------------------------

/-- Failures of one query leave the other variants alone. Two sweeps whose sessions differ in
the failures of a query have the same outcomes for all variants with other queries, and the same
summaries of all groups without a variant that asks it, wherever their clocks start. Only a clock
without room for all rows ends one of them before its report.
-/
theorem Sweep.failures_isolated (sweep : Sweep) (detailBase summaryBase : String)
    (left right : Bench SyntheticSession Files) (sql : String)
    (rows : left.session.rows = right.session.rows)
    (delay : left.session.delay = right.session.delay)
    (failures : ∀ variant ∈ sweep.space.variants, ∀ other,
      sweep.query.render variant = .ok other → other ≠ sql
        → left.session.failureOf? other = right.session.failureOf? other)
    (files : left.files.SameKinds right.files)
    : (∀ bench ∈ [left, right], ∀ error,
        (sweep.run detailBase summaryBase bench).1 = .error error
        → error = .clockOverflow
          ∧ (sweep.Accepted → ¬ bench.session.HasRoom
              (sweep.space.variants.length * sweep.config.repetitions)))
      ∧ ∀ ours theirs lastLeft lastRight,
          sweep.run detailBase summaryBase left = (.ok ours, lastLeft)
          → sweep.run detailBase summaryBase right = (.ok theirs, lastRight)
          → (∀ (n : Nat) (variant : Variant),
              sweep.space.variants[n]? = some variant
              → sweep.query.render variant ≠ .ok sql
              → ∃ outcome,
                  outcome.variant = variant.label
                  ∧ ours.variants[n]? = some outcome
                  ∧ theirs.variants[n]? = some outcome)
            ∧ ∀ (n : Nat) (group : Variant),
                (distinct (sweep.space.variants.map sweep.groupOf))[n]? = some group
                → (∀ variant ∈ sweep.space.variants,
                    sweep.groupOf variant = group → sweep.query.render variant ≠ .ok sql)
                → ∃ outcome,
                    outcome.group = group.label
                    ∧ ours.summaries[n]? = some outcome
                    ∧ theirs.summaries[n]? = some outcome := by
  refine ⟨fun bench _ error failed => ⟨(overflow_of_run failed).1, fun accepted =>
    (accepted.overflow_of_hasRoom failed).2⟩, ?_⟩
  intro ours theirs lastLeft lastRight ranLeft ranRight
  obtain ⟨runs, middle, left'⟩ := concludes_of_run ranLeft
  obtain ⟨runs', middle', right'⟩ := concludes_of_run ranRight
  have alike : left.Alike
      (fun other => left.session.failureOf? other = right.session.failureOf? other) right :=
    ⟨rows, delay, fun _ same => same, files⟩
  obtain ⟨same, later⟩ := left'.passes.result right'.passes alike
  have entries : ∀ entry ∈ runs, entry.1 ∈ sweep.space.variants := by
    intro entry member
    rw [← left'.variants]
    exact List.mem_map_of_mem member
  have asks {variant : Variant} (member : variant ∈ sweep.space.variants)
      (apart : sweep.query.render variant ≠ .ok sql) : sweep.Asks _ variant :=
    fun other render => failures variant member other render fun same => apart (same ▸ render)
  constructor
  · intro n variant here apart
    have member := List.mem_of_getElem? here
    rw [← left'.variants, List.getElem?_map] at here
    obtain ⟨entry, found, rfl⟩ := Option.map_eq_some_iff.mp here
    obtain ⟨bound, value⟩ := List.getElem?_eq_some_iff.mp found
    have bound' : n < runs'.length := same.length_eq ▸ bound
    have pair := same.get bound bound'
    simp only [List.get_eq_getElem, value] at pair
    have other := (Prod.ext pair.1 (pair.2 (asks member apart))).symm
    refine ⟨entry.2.outcome entry.1, rfl, ?_, ?_⟩
    · rw [left'.outcomes, List.getElem?_map, found]
      rfl
    · rw [right'.outcomes, List.getElem?_map, List.getElem?_eq_getElem bound', other]
      rfl
  · intro n group here apart
    rw [left'.summaries, right'.summaries]
    refine sweep.writeSummaries_outcomes _ _ summaryBase _ later.files here
      (sweep.accumulate_agreeOn ?_)
    refine ((List.forall₂_and_left _ _).mpr ⟨entries, same⟩).imp ?_
    rintro entry entry' ⟨member, name, run⟩
    exact ⟨name, fun grouped => run (asks member (apart entry.1 member grouped))⟩

/-- A connection that is lost in the first variant leaves the second one alone, which starts at
another reading of another clock.
-/
theorem Sweep.failures_isolated_second_variant
    : ∃ (config : Config) (sweep : Sweep) (left right : Bench SyntheticSession Files)
        (ours theirs : Report),
        Sweep.ofConfig Sql.statements? config = .ok sweep
        ∧ (sweep.run "detail" "summary" left).1 = .ok ours
        ∧ (sweep.run "detail" "summary" right).1 = .ok theirs
        ∧ ours.variants.map (·.status) = [.completed, .completed]
        ∧ theirs.variants.map (·.status) = [.failed, .completed]
        ∧ (∃ outcome, ours.variants[1]? = some outcome ∧ theirs.variants[1]? = some outcome)
        ∧ ∃ outcome, ours.summaries[1]? = some outcome ∧ theirs.summaries[1]? = some outcome := by
  let config : Config := {
    checkpoints := [2]
    query := "select * from t\x7bg\x7d"
    axes := [⟨"g", ["0", "1"]⟩]
    groupBy := ["g"]
    settings := {}
    summaryPath := "\x7bbase\x7d_\x7bg\x7d"
  }
  let session : SyntheticSession := { rows := 2, delay := .ofParts 1 0 }
  let failing : SyntheticSession := {
    session with
    clock := .ofParts 7 0
    failures := [⟨"t0", 1, .connectionLost "gone"⟩]
  }
  let left : Bench SyntheticSession Files := { session, files := {}, epoch := ⟨0, 0⟩ }
  let right : Bench SyntheticSession Files := { session := failing, files := {}, epoch := ⟨0, 0⟩ }
  let second : Variant := ⟨[("g", "1")]⟩
  let sql := "select * from t0"
  obtain ⟨sweep, accepted, ⟨ours, there, completed⟩, ⟨theirs, here, failed⟩, failures, place, own,
      grouped, apart⟩ :=
    Sweep.exists_of_config config
      (fun sweep =>
        (∃ ours ∈ (sweep.run "detail" "summary" left).1.toOption,
          ours.variants.map (·.status) = [.completed, .completed])
        ∧ (∃ theirs ∈ (sweep.run "detail" "summary" right).1.toOption,
            theirs.variants.map (·.status) = [.failed, .completed])
        ∧ (∀ variant ∈ sweep.space.variants, ∀ other ∈ (sweep.query.render variant).toOption,
            other ≠ sql → session.failureOf? other = failing.failureOf? other)
        ∧ sweep.space.variants[1]? = some second
        ∧ sweep.groupOf second = second
        ∧ (distinct (sweep.space.variants.map sweep.groupOf))[1]? = some second
        ∧ ∀ variant ∈ sweep.space.variants,
            sweep.groupOf variant = second → (sweep.query.render variant).toOption ≠ some sql)
      (by decide +kernel)
  have others : ∀ variant ∈ sweep.space.variants,
      sweep.groupOf variant = second → sweep.query.render variant ≠ .ok sql :=
    fun variant member same => mt toOption_eq_some.mpr (apart variant member same)
  obtain ⟨_, isolated⟩ := failures_isolated sweep "detail" "summary" left right sql rfl rfl
    (fun variant member text render =>
      failures variant member text (toOption_eq_some.mpr render))
    (.refl _)
  obtain ⟨variants, groups⟩ := isolated ours theirs _ _ (run_of_mem there) (run_of_mem here)
  obtain ⟨outcome, _, mine, yours⟩ :=
    variants 1 second place (others second (List.mem_of_getElem? place) own)
  obtain ⟨summary, _, mySummary, yourSummary⟩ := groups 1 second grouped others
  exact ⟨config, sweep, left, right, ours, theirs, accepted, toOption_eq_some.mp there,
    toOption_eq_some.mp here, completed, failed, ⟨outcome, mine, yours⟩,
    summary, mySummary, yourSummary⟩

end JoinLatency

import JoinLatency.Proofs.Sweep.Lasting
import JoinLatency.Proofs.Sweep.Recording
import Mathlib

/-! The summaries of a sweep partition its completed variants. Groups are found twice, when a
completed variant is recorded and when the summaries are written for all variants, and both times
a variant belongs to the group that it is projected to.
-/

namespace JoinLatency

-----------------------------------------------------------------------------------------
-- Distinct elements in the order of their first occurrence
-----------------------------------------------------------------------------------------

/-- The distinct elements of a list are its first occurrences, by induction along it. -/
theorem firstOccurrences_distinct {α : Type} [DecidableEq α] (all : List α)
    : FirstOccurrences all (distinct all) := by
  induction all with
  | nil => exact ⟨.nil, fun value => .rfl, .nil⟩
  | cons first rest ih =>
      have others (value : α)
          : value ∈ (distinct rest).filter (· != first) ↔ value ∈ rest ∧ value ≠ first := by
        simp [ih.mem_iff]
      refine ⟨?_, ?_, ?_⟩
      · refine List.nodup_cons.mpr ⟨fun again => ?_, ih.nodup.filter _⟩
        exact ((others first).mp again).2 rfl
      · intro value
        by_cases same : value = first
        · simp [distinct, same]
        · simp [distinct, ih.mem_iff, same]
      · refine .cons ?_ ((ih.order.filter _).imp_of_mem ?_)
        · intro value member
          have apart := ((others value).mp member).2
          simp [apart.symm]
        · intro left right leftMember rightMember before
          have leftApart := ((others left).mp leftMember).2
          have rightApart := ((others right).mp rightMember).2
          simpa [List.idxOf_cons, leftApart.symm, rightApart.symm] using before

/-- Keys are counted once over distinct groups that cover them. -/
theorem sum_count_of_cover {α : Type} [DecidableEq α] {groups keys : List α}
    (nodup : groups.Nodup) (cover : ∀ key ∈ keys, key ∈ groups)
    : (groups.map keys.count).sum = keys.length := by
  rw [← List.sum_toFinset _ nodup]
  have all : ∀ key ∈ (keys : Multiset α), key ∈ groups.toFinset := by simpa using cover
  simpa using Multiset.sum_count_eq_card all

-----------------------------------------------------------------------------------------
-- Groups of variants
-----------------------------------------------------------------------------------------

/-- Variants that have all names project alike if and only if they agree on them. -/
theorem Variant.project_eq_iff {left right : Variant} {names : List String}
    (hl : ∀ name ∈ names, ∃ value, left.get? name = some value)
    (hr : ∀ name ∈ names, ∃ value, right.get? name = some value)
    : left.project names = right.project names
      ↔ ∀ name ∈ names, left.get? name = right.get? name := by
  simp only [project, mk.injEq]
  induction names with
  | nil => simp
  | cons name rest ih =>
      rw [List.forall_mem_cons] at hl hr
      obtain ⟨value, here⟩ := hl.1
      obtain ⟨other, there⟩ := hr.1
      simp [here, there, ih hl.2 hr.2]

namespace Sweep

/-- Variants of an accepted sweep share a group if and only if they agree on its axes. -/
theorem Accepted.groupOf_eq_iff {sweep : Sweep} (h : sweep.Accepted) {left right : Variant}
    (hl : left ∈ sweep.space.variants) (hr : right ∈ sweep.space.variants)
    : sweep.groupOf left = sweep.groupOf right
      ↔ ∀ name ∈ sweep.config.groupBy, left.get? name = right.get? name := by
  have known {variant : Variant} (member : variant ∈ sweep.space.variants)
      (name : String) (used : name ∈ sweep.config.groupBy)
      : ∃ value, variant.get? name = some value := by
    obtain ⟨axis, there, rfl⟩ := h.groups name used
    exact ParamSpace.exists_get? member there
  exact Variant.project_eq_iff (known hl) (known hr)

-----------------------------------------------------------------------------------------
-- Completed variants
-----------------------------------------------------------------------------------------

/-- The outcomes of the completed variants of a group, in the order of the sweep. -/
def completedIn (sweep : Sweep) (report : Report) (group : Variant) : List VariantOutcome :=
  ((sweep.space.variants.zip report.variants).filter fun (variant, outcome) =>
      sweep.groupOf variant = group ∧ outcome.status = .completed).map (·.2)

/-- The summary of a group counts its completed variants, and its lines are those of a fresh
accumulator in which their averages were recorded.
-/
structure Tells (sweep : Sweep) (report : Report) (group : Variant) (outcome : SummaryOutcome)
    : Prop where
  label : outcome.group = group.label
  variants : outcome.variants = (sweep.completedIn report group).length
  lines
    : outcome.lines
      = (({} : Accumulator Variant).recordAll group
          ((sweep.completedIn report group).filterMap (·.averaged))).summary group
          sweep.timer.schedule sweep.config.missing

variable {sweep : Sweep} {report : Report} {group : Variant}
  {runs : List (Variant × VariantRun)}

theorem Reports.completedIn_eq (h : sweep.Reports runs report) (group : Variant)
    : sweep.completedIn report group
      = (runs.filter fun (variant, run) =>
            sweep.groupOf variant = group ∧ (run.outcome variant).status = .completed).map
          fun (variant, run) => run.outcome variant := by
  rw [Sweep.completedIn, ← h.variants, h.outcomes, List.zip_map', List.filter_map, List.map_map]
  rfl

theorem Reports.labels (h : sweep.Reports runs report)
    : report.variants.map (·.variant) = sweep.space.variants.map (·.label) := by
  rw [h.outcomes, ← h.variants, List.map_map, List.map_map]
  rfl

/-- The completed variants are those with an average. -/
theorem Reports.completed_iff (h : sweep.Reports runs report) {outcome : VariantOutcome}
    (member : outcome ∈ report.variants)
    : outcome.status = .completed ↔ outcome.averaged.isSome = true := by
  rw [h.outcomes] at member
  obtain ⟨⟨variant, run⟩, _, rfl⟩ := List.mem_map.mp member
  cases result : run.result <;> simp [VariantRun.outcome, result, Except.toOption]

/-- The averages of the completed runs of a group. -/
def averagesOf (sweep : Sweep) (runs : List (Variant × VariantRun)) (group : Variant)
    : List AveragedTrace :=
  runs.filterMap fun (variant, run) =>
    if sweep.groupOf variant = group then run.result.toOption else none

theorem Reports.averagesOf_eq (h : sweep.Reports runs report) (group : Variant)
    : (sweep.completedIn report group).filterMap (·.averaged)
      = sweep.averagesOf runs group := by
  rw [h.completedIn_eq, List.filterMap_map, List.filterMap_filter, Sweep.averagesOf]
  refine List.filterMap_congr fun entry _ => ?_
  obtain ⟨variant, run⟩ := entry
  by_cases member : sweep.groupOf variant = group
  · cases result : run.result <;>
      simp [member, VariantRun.outcome, result, Except.toOption]
  · simp [member]

/-- Every completed variant of a group has an average. -/
theorem Reports.length_averagesOf (h : sweep.Reports runs report) (group : Variant)
    : (sweep.averagesOf runs group).length = (sweep.completedIn report group).length := by
  rw [← h.averagesOf_eq, List.length_filterMap_eq_countP, List.countP_eq_length]
  intro outcome member
  obtain ⟨entry, kept, rfl⟩ := List.mem_map.mp member
  obtain ⟨there, mine⟩ := List.mem_filter.mp kept
  exact (h.completed_iff (List.of_mem_zip there).2).mp (of_decide_eq_true mine).2

/-- What is recorded for a group are the averages of its completed runs, by induction along the
runs.
-/
theorem accumulate_agreeOn_recordAll (sweep : Sweep) (runs : List (Variant × VariantRun))
    (group : Variant)
    : (sweep.accumulate runs).AgreeOn group
        (({} : Accumulator Variant).recordAll group (sweep.averagesOf runs group)) := by
  have go (left right : Accumulator Variant) (h : left.AgreeOn group right)
      : (runs.foldl sweep.recordRun left).AgreeOn group
          (right.recordAll group (sweep.averagesOf runs group)) := by
    induction runs generalizing left right with
    | nil => exact h
    | cons entry rest ih =>
        by_cases member : sweep.groupOf entry.1 = group
        · cases result : entry.2.result with
          | error error =>
              simpa [Sweep.averagesOf, recordRun, result, member, Except.toOption]
                using ih left right h
          | ok averaged =>
              simpa [Sweep.averagesOf, recordRun, result, member, Except.toOption]
                using ih _ _ (h.record group averaged)
        · simpa [Sweep.averagesOf, member]
            using ih _ right ((sweep.agreeOn_recordRun left member).symm.trans h)
  exact go {} {} (.refl {})

/-- Counted over distinct groups of all variants, every completed variant counts once. -/
theorem Reports.sum_completedIn (h : sweep.Reports runs report) {groups : List Variant}
    (firsts : FirstOccurrences (sweep.space.variants.map sweep.groupOf) groups)
    : (groups.map fun group => (sweep.completedIn report group).length).sum
      = report.completed := by
  let completed := runs.filter fun (variant, run) => (run.outcome variant).status = .completed
  let keys := completed.map fun (variant, _) => sweep.groupOf variant
  have counts (group : Variant) : (sweep.completedIn report group).length = keys.count group := by
    rw [h.completedIn_eq, List.length_map, ← List.countP_eq_length_filter, List.count,
      List.countP_map, List.countP_filter]
    exact List.countP_congr fun entry _ => by simp
  have total : keys.length = report.completed := by
    rw [Report.completed, h.outcomes, List.filter_map, List.length_map, List.length_map]
    rfl
  have cover : ∀ key ∈ keys, key ∈ groups := by
    intro key member
    obtain ⟨entry, kept, rfl⟩ := List.mem_map.mp member
    rw [firsts.mem_iff, ← h.variants, List.map_map]
    exact List.mem_map_of_mem (List.mem_filter.mp kept).1
  simp only [counts, sum_count_of_cover firsts.nodup cover, total]

-----------------------------------------------------------------------------------------
-- Whole sweeps
-----------------------------------------------------------------------------------------

theorem counts_of_tell {groups : List Variant} {outcomes : List SummaryOutcome}
    (tell : List.Forall₂ (sweep.Tells report) groups outcomes)
    : outcomes.map (·.variants)
      = groups.map fun group => (sweep.completedIn report group).length := by
  induction tell with
  | nil => rfl
  | cons told _ ih => rw [List.map_cons, List.map_cons, told.variants, ih]

variable {S C D W : Type} [RowSource C] [Session S C] [Sink W] [Storage D W]

/-- Each summary in a list tells what was recorded for its group, by induction along them. -/
theorem Reports.writeSummaries_tell (h : sweep.Reports runs report) (base : String)
    (bench : Bench S D) (groups : List Variant)
    : List.Forall₂ (sweep.Tells report) groups
        (sweep.writeSummaries (sweep.accumulate runs) base bench groups).1 := by
  induction groups generalizing bench with
  | nil => exact .nil
  | cons group rest ih =>
      obtain ⟨label, variants, lines⟩ :=
        sweep.writeSummary_tells (sweep.accumulate runs) base group bench
      have agree := sweep.accumulate_agreeOn_recordAll runs group
      have counted : (sweep.accumulate runs).contributors group
          = (sweep.completedIn report group).length := by
        rw [agree.contributors, Accumulator.contributors_recordAll, h.length_averagesOf]
        exact Nat.zero_add _
      have told : sweep.Tells report group
          (sweep.writeSummary (sweep.accumulate runs) base group bench).1 :=
        ⟨label, variants.trans counted, by rw [lines, agree.summary, h.averagesOf_eq]⟩
      exact .cons told (ih _)

end Sweep

/-- The summaries of a sweep partition its completed variants. There is one for each distinct
group, in the order in which the groups occur first, and variants share it if and only if they
agree on every axis of the grouping. It tells of the completed variants of its group and of no
others, so that every completed variant is counted once. Only the clock of a session that is not
steady ends a sweep before its report.
-/
theorem Sweep.summaries_partition_completed {S C D W : Type} [RowSource C] [Session S C]
    [Sink W] [Storage D W] {grammar : Grammar} {config : Config} {sweep : Sweep}
    (accepted : Sweep.ofConfig grammar config = .ok sweep) (detailBase summaryBase : String)
    (bench : Bench S D)
    : (∀ error, (sweep.run detailBase summaryBase bench).1 = .error error →
        error = .clockOverflow ∧ ¬ Session.Steady S)
      ∧ ∀ report last, sweep.run detailBase summaryBase bench = (.ok report, last) →
          report.variants.map (·.variant) = sweep.space.variants.map (·.label)
          ∧ (∀ outcome ∈ report.variants,
              outcome.status = .completed ↔ outcome.averaged.isSome = true)
          ∧ (∀ left ∈ sweep.space.variants, ∀ right ∈ sweep.space.variants,
              sweep.groupOf left = sweep.groupOf right
              ↔ ∀ name ∈ sweep.config.groupBy, left.get? name = right.get? name)
          ∧ (∃ groups,
              FirstOccurrences (sweep.space.variants.map sweep.groupOf) groups
              ∧ List.Forall₂ (sweep.Tells report) groups report.summaries)
          ∧ (report.summaries.map (·.variants)).sum = report.completed := by
  have promised := Sweep.accepted_of_config accepted
  refine ⟨fun error failed => promised.overflow_of_steady failed, fun report last ran => ?_⟩
  obtain ⟨runs, middle, concludes⟩ := concludes_of_run ran
  have reports := concludes.toReports
  have firsts := firstOccurrences_distinct (sweep.space.variants.map sweep.groupOf)
  have tell : List.Forall₂ (sweep.Tells report) _ report.summaries :=
    concludes.summaries ▸ reports.writeSummaries_tell summaryBase middle _
  refine ⟨reports.labels, fun outcome => reports.completed_iff, ?_, ⟨_, firsts, tell⟩, ?_⟩
  · exact fun left hl right hr => promised.groupOf_eq_iff hl hr
  · rw [Sweep.counts_of_tell tell, reports.sum_completedIn firsts]

/-- A variant that fails is missing from the summary of its group, which has another one. -/
theorem Sweep.summaries_partition_completed_one_failed
    : ∃ (config : Config) (sweep : Sweep) (bench last : Bench SyntheticSession Files)
        (report : Report),
        Sweep.ofConfig Sql.statements? config = .ok sweep
        ∧ sweep.run "detail" "summary" bench = (.ok report, last)
        ∧ report.variants.map (·.status) = [.completed, .failed, .completed, .completed]
        ∧ (report.summaries.map (·.variants)).sum = 3
        ∧ ∃ groups,
            List.Forall₂ (sweep.Tells report) groups report.summaries
            ∧ (groups.map fun group => (sweep.completedIn report group).length) = [1, 2] := by
  let config : Config := {
    checkpoints := [2]
    query := "select * from t{g}_{h}"
    axes := [⟨"g", ["0", "1"]⟩, ⟨"h", ["0", "1"]⟩]
    groupBy := ["g"]
    settings := {}
  }
  let session : SyntheticSession := {
    rows := 2
    delay := .ofParts 1 0
    failures := [⟨"t0_1", 1, .connectionLost "gone"⟩]
  }
  let bench : Bench SyntheticSession Files := { session, files := {}, epoch := ⟨0, 0⟩ }
  obtain ⟨sweep, accepted, report, there, statuses, completed, counts⟩ :=
    Sweep.exists_of_config config
      (fun sweep => ∃ report ∈ (sweep.run "detail" "summary" bench).1.toOption,
        report.variants.map (·.status) = [.completed, .failed, .completed, .completed]
        ∧ report.completed = 3
        ∧ report.summaries.map (·.variants) = [1, 2])
      (by decide +kernel)
  obtain ⟨_, tells⟩ := summaries_partition_completed accepted "detail" "summary" bench
  obtain ⟨_, _, _, ⟨groups, _, tell⟩, total⟩ := tells report _ (run_of_mem there)
  exact ⟨config, sweep, bench, _, report, accepted, run_of_mem there, statuses,
    total.trans completed, groups, tell, (counts_of_tell tell).symm.trans counts⟩

end JoinLatency

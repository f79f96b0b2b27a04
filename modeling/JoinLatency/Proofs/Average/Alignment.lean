import JoinLatency.Average.Runs
import JoinLatency.Proofs.Timer.Traces

/-! Averages of runs of one schedule. The samples of two runs agree position by position as long
as both have passed the checkpoints there, but a run may end at a position where another one goes
on. Whether the last averaged position lines up depends on where the shortest run ended.
-/

namespace JoinLatency

variable {R : Type}

/-- A trace that some run under a schedule has returned, on any source of rows and with any log. -/
inductive Trace.IsRunOf [Seconds R] (schedule : Schedule) : Trace R → Prop
  | intro {σ : Type} [RowSource σ] {timer : Timer R} {source : σ} {log : Log} {trace : Trace R}
    (same : timer.schedule = schedule) (returned : (timer.run source log).result = .ok trace)
    : Trace.IsRunOf schedule trace

/-- The counts and kinds of the samples of a trace. -/
def Trace.tags (trace : Trace R) : List (Nat × SampleKind) :=
  trace.samples.map fun sample => (sample.count, sample.kind)

/-- The number of rows of a run decides the counts and kinds of its samples. -/
theorem Trace.IsRunOf.tags [Seconds R] {schedule : Schedule} {trace : Trace R}
    (h : trace.IsRunOf schedule)
    : trace.tags = schedule.shape trace.fetched := by
  cases h with
  | @intro _ _ timer source _ _ same returned =>
      obtain ⟨readings, last, stop, _, rfl, _⟩ := Timer.run_ok returned
      rw [← same]
      exact timer.map_rowSamples (RowSource.now source) readings

/-- A run that is known to return some number of rows returns a trace of them. -/
theorem Trace.IsRunOf.of_fetched [Seconds R] {σ : Type} [RowSource σ] (timer : Timer R)
    (source : σ) (log : Log) {rows : Nat}
    (h : (timer.run source log).result.toOption.map (·.fetched) = some rows)
    : ∃ trace : Trace R, trace.IsRunOf timer.schedule ∧ trace.fetched = rows := by
  cases returned : (timer.run source log).result with
  | error fault => simp [returned, Except.toOption] at h
  | ok trace =>
      rw [returned] at h
      exact ⟨trace, .intro rfl returned, by simpa [Except.toOption] using h⟩

-----------------------------------------------------------------------------------------
-- Shapes side by side
-----------------------------------------------------------------------------------------

namespace Schedule

/-- The entries at passed checkpoints are the same for all longer runs. -/
theorem shape_getElem?_of_lt (schedule : Schedule) {fewer more j : Nat} (h : fewer ≤ more)
    (bound : j < (schedule.passed fewer).length)
    : (schedule.shape more)[j]? = (schedule.shape fewer)[j]? := by
  have ahead := schedule.passed_prefix_of_le h
  have within : j < (schedule.passed more).length := Nat.lt_of_lt_of_le bound ahead.length_le
  have same : (schedule.passed more)[j] = (schedule.passed fewer)[j] := (ahead.getElem bound).symm
  simp [shape, List.getElem?_append_left, bound, within, same]

theorem shape_getElem?_passed (schedule : Schedule) (rows : Nat)
    : (schedule.shape rows)[(schedule.passed rows).length]?
      = some (rows, schedule.kindAt rows) := by
  simp [shape]

theorem length_shape_mono (schedule : Schedule) {fewer more : Nat} (h : fewer ≤ more)
    : (schedule.shape fewer).length ≤ (schedule.shape more).length := by
  rw [length_shape, length_shape]
  exact Nat.succ_le_succ (schedule.passed_prefix_of_le h).length_le

/-- The checkpoints that a run has reached open the shape of every run that has reached them. -/
theorem reached_prefix_shape (schedule : Schedule) {rows other : Nat}
    (h : ∀ k ∈ schedule.checkpoints, k ≤ rows → k ≤ other)
    : (schedule.reached rows).map (·, SampleKind.checkpoint) <+: schedule.shape other := by
  have ahead : schedule.reached rows <+: schedule.reached other := by
    rcases Nat.le_total rows other with le | ge
    · exact schedule.reached_prefix_of_le le
    · have same : schedule.reached rows = schedule.reached other := by
        apply List.filter_congr
        intro k hk
        exact decide_eq_decide.mpr ⟨h k hk, fun less => Nat.le_trans less ge⟩
      exact same ▸ List.prefix_refl (schedule.reached rows)
  rw [schedule.shape_eq other]
  exact (ahead.map _).trans (List.prefix_append _ _)

theorem shape_of_mem {schedule : Schedule} {rows : Nat} (hk : rows ∈ schedule.checkpoints)
    : schedule.shape rows = (schedule.reached rows).map (·, .checkpoint) := by
  simp [schedule.shape_eq, hk]

/-- A checkpoint entry of a shape stands among the checkpoints that were reached. -/
theorem reached_of_shape {schedule : Schedule} {rows j k : Nat}
    (h : (schedule.shape rows)[j]? = some (k, .checkpoint))
    : ((schedule.reached rows).map (·, SampleKind.checkpoint))[j]? = some (k, .checkpoint) := by
  rw [schedule.shape_eq] at h
  by_cases bound : j < ((schedule.reached rows).map (·, SampleKind.checkpoint)).length
  · rwa [List.getElem?_append_left bound] at h
  · rw [List.getElem?_append_right (Nat.le_of_not_lt bound)] at h
    have last := List.mem_of_getElem? h
    by_cases hk : rows ∈ schedule.checkpoints <;> simp [hk] at last

/-- An overflow entry of a shape is its last one. -/
theorem eq_of_shape_overflow {schedule : Schedule} {rows j count : Nat}
    (h : (schedule.shape rows)[j]? = some (count, .overflow))
    : j = (schedule.passed rows).length := by
  have bound : j < (schedule.shape rows).length := (List.getElem?_eq_some_iff.mp h).1
  rw [length_shape] at bound
  apply Nat.le_antisymm (Nat.le_of_lt_succ bound)
  apply Nat.le_of_not_lt
  intro before
  rw [shape, List.getElem?_append_left (by simpa using before)] at h
  simp at h

end Schedule

-----------------------------------------------------------------------------------------
-- Averaged positions
-----------------------------------------------------------------------------------------

/-- An averaged point has the count and the kind of the first trace at its position. -/
theorem averagePoints_tag {first : List (Sample Float)} {others : List (List (Sample Float))}
    {j : Nat} {point : AveragedPoint} (h : (averagePoints first others)[j]? = some point)
    : (first.map fun sample => (sample.count, sample.kind))[j]?
      = some (point.count, point.kind) := by
  fun_induction averagePoints first others generalizing j with
  | case1 others => simp at h
  | case2 others tag rest used => simp at h
  | case3 others tag rest unused ih =>
      cases j with
      | zero =>
          obtain rfl := Option.some.inj h
          rfl
      | succ j => exact ih h

theorem length_averagePoints_le {first : List (Sample Float)}
    {others : List (List (Sample Float))} {samples : List (Sample Float)}
    (h : samples ∈ first :: others)
    : (averagePoints first others).length ≤ samples.length := by
  fun_induction averagePoints first others generalizing samples with
  | case1 others => exact Nat.zero_le _
  | case2 others tag rest used => exact Nat.zero_le _
  | case3 others tag rest unused ih =>
      rcases List.mem_cons.mp h with rfl | hm
      · exact Nat.succ_le_succ (ih (by simp))
      · have nonempty : samples ≠ [] := by
          rintro rfl
          exact unused (List.any_eq_true.mpr ⟨[], hm, rfl⟩)
        have tail := ih (List.mem_cons_of_mem _ (List.mem_map.mpr ⟨samples, hm, rfl⟩))
        have positive := List.length_pos_iff.mpr nonempty
        simp only [List.length_tail] at tail
        simp only [List.length_cons]
        omega

/-- The averaged positions reach as far as one of the traces. -/
theorem length_averagePoints_eq (first : List (Sample Float)) (others : List (List (Sample Float)))
    : ∃ samples ∈ first :: others, (averagePoints first others).length = samples.length := by
  fun_induction averagePoints first others with
  | case1 others => exact ⟨[], by simp, rfl⟩
  | case2 others tag rest used =>
      obtain ⟨samples, hm, empty⟩ := List.any_eq_true.mp used
      obtain rfl := List.isEmpty_iff.mp empty
      exact ⟨[], List.mem_cons_of_mem _ hm, rfl⟩
  | case3 others tag rest unused ih =>
      obtain ⟨samples, hm, same⟩ := ih
      rcases List.mem_cons.mp hm with rfl | hm
      · exact ⟨tag :: samples, by simp, by simp [same]⟩
      · obtain ⟨original, ho, rfl⟩ := List.mem_map.mp hm
        have nonempty : original ≠ [] := by
          rintro rfl
          exact unused (List.any_eq_true.mpr ⟨[], ho, rfl⟩)
        have positive := List.length_pos_iff.mpr nonempty
        refine ⟨original, List.mem_cons_of_mem _ ho, ?_⟩
        simp only [List.length_tail] at same
        simp only [List.length_cons]
        omega

-----------------------------------------------------------------------------------------
-- Averages of runs
-----------------------------------------------------------------------------------------

/-- Whether a trace holds a sample of a count and a kind at a position. -/
def Trace.HoldsAt (trace : Trace R) (position count : Nat) (kind : SampleKind) : Prop :=
  ∃ sample, trace.samples[position]? = some sample ∧ sample.count = count ∧ sample.kind = kind

theorem Trace.holdsAt_iff {trace : Trace R} {position count : Nat} {kind : SampleKind}
    : trace.HoldsAt position count kind ↔ trace.tags[position]? = some (count, kind) := by
  simp [Trace.HoldsAt, Trace.tags, List.getElem?_map]

/-- Whether the shortest of some runs ended on a checkpoint. -/
def ShortestOnCheckpoint (schedule : Schedule) (traces : List (Trace R)) : Prop :=
  ∃ low ∈ traces,
    low.fetched ∈ schedule.checkpoints ∧ ∀ trace ∈ traces, low.fetched ≤ trace.fetched

theorem exists_shortest (first : Trace R) (rest : List (Trace R))
    : ∃ low ∈ first :: rest, ∀ trace ∈ first :: rest, low.fetched ≤ trace.fetched := by
  induction rest generalizing first with
  | nil => exact ⟨first, by simp, by simp⟩
  | cons next rest ih =>
      obtain ⟨low, member, least⟩ := ih next
      rcases Nat.le_total low.fetched first.fetched with le | ge
      · exact ⟨low, List.mem_cons_of_mem _ member,
          fun trace ht => (List.mem_cons.mp ht).elim (fun same => same ▸ le) (least trace)⟩
      · refine ⟨first, by simp, fun trace ht => ?_⟩
        rcases List.mem_cons.mp ht with rfl | ht
        · exact Nat.le_refl _
        · exact Nat.le_trans ge (least trace ht)

/-- The averages of some runs reach as far as the shape of the shortest one, and carry the counts
and kinds of the first one.
-/
structure AveragedRuns (schedule : Schedule) (first low : Trace Float)
    (traces : List (Trace Float)) (points : List AveragedPoint) : Prop where
  member : low ∈ traces
  least : ∀ trace ∈ traces, low.fetched ≤ trace.fetched
  shapes : ∀ trace ∈ traces, trace.tags = schedule.shape trace.fetched
  firstMember : first ∈ traces
  tag
    : ∀ (j : Nat) (point : AveragedPoint),
        points[j]? = some point → first.tags[j]? = some (point.count, point.kind)
  length : points.length = (schedule.passed low.fetched).length + 1

namespace AveragedRuns

variable {schedule : Schedule} {first low : Trace Float} {traces : List (Trace Float)}
  {points : List AveragedPoint}

/-- Runs of one schedule average so, since more rows never shorten a shape. -/
theorem of_runs {rest : List (Trace Float)}
    (runs : ∀ trace ∈ first :: rest, trace.IsRunOf schedule)
    : ∃ low,
        AveragedRuns schedule first low (first :: rest) (averageRuns (first :: rest)).points := by
  obtain ⟨low, member, least⟩ := exists_shortest first rest
  have shapes (trace : Trace Float) (ht : trace ∈ first :: rest) := (runs trace ht).tags
  have lengths (trace : Trace Float) (ht : trace ∈ first :: rest)
      : trace.samples.length = (schedule.shape trace.fetched).length := by
    rw [← shapes trace ht, Trace.tags, List.length_map]
  have listed (trace : Trace Float) (ht : trace ∈ first :: rest)
      : trace.samples ∈ first.samples :: rest.map (·.samples) := by
    simpa using List.mem_map_of_mem (f := Trace.samples) ht
  refine ⟨low, member, least, shapes, by simp, fun j point h => averagePoints_tag h, ?_⟩
  rw [← Schedule.length_shape]
  apply Nat.le_antisymm
  · rw [← lengths low member]
    exact length_averagePoints_le (listed low member)
  · obtain ⟨samples, hs, same⟩ :=
      length_averagePoints_eq first.samples (rest.map (·.samples))
    obtain ⟨trace, ht, rfl⟩ : ∃ trace ∈ first :: rest, trace.samples = samples := by
      simpa [eq_comm] using hs
    have longer := schedule.length_shape_mono (least trace ht)
    rw [← lengths trace ht, ← same] at longer
    exact longer

/-- Every averaged position but the last lines up: all runs have passed its checkpoint. -/
theorem holdsAt_of_lt (h : AveragedRuns schedule first low traces points) {j : Nat}
    {point : AveragedPoint} (here : points[j]? = some point)
    (bound : j < (schedule.passed low.fetched).length) {trace : Trace Float} (ht : trace ∈ traces)
    : trace.HoldsAt j point.count point.kind := by
  have tag := h.tag j point here
  rw [h.shapes first h.firstMember,
    schedule.shape_getElem?_of_lt (h.least first h.firstMember) bound] at tag
  rw [Trace.holdsAt_iff, h.shapes trace ht, schedule.shape_getElem?_of_lt (h.least trace ht) bound]
  exact tag

/-- All positions line up once the shape of the shortest run opens that of every run. -/
theorem holdsAt_of_prefix (h : AveragedRuns schedule first low traces points)
    (opens : ∀ trace ∈ traces, schedule.shape low.fetched <+: schedule.shape trace.fetched)
    {j : Nat} {point : AveragedPoint} (here : points[j]? = some point) {trace : Trace Float}
    (ht : trace ∈ traces)
    : trace.HoldsAt j point.count point.kind := by
  have bound : j < (schedule.shape low.fetched).length := by
    rw [Schedule.length_shape, ← h.length]
    exact (List.getElem?_eq_some_iff.mp here).1
  have same (other : Trace Float) (ho : other ∈ traces)
      : (schedule.shape other.fetched)[j]? = (schedule.shape low.fetched)[j]? := by
    rw [List.getElem?_eq_getElem bound]
    exact List.prefix_iff_getElem?.mp (opens other ho) j bound
  have tag := h.tag j point here
  rw [h.shapes first h.firstMember, same first h.firstMember] at tag
  rw [Trace.holdsAt_iff, h.shapes trace ht, same trace ht]
  exact tag

theorem exists_last (h : AveragedRuns schedule first low traces points)
    : ∃ point, points[(schedule.passed low.fetched).length]? = some point := by
  have bound : (schedule.passed low.fetched).length < points.length := by
    rw [h.length]
    exact Nat.lt_succ_self _
  exact ⟨_, List.getElem?_eq_getElem bound⟩

/-- At the last averaged position the shortest run holds its last row, and a run that holds the
same count there has as many rows or has the checkpoint on which the shortest one ended.
-/
theorem mem_or_eq_of_holdsAt (h : AveragedRuns schedule first low traces points)
    {trace : Trace Float} (ht : trace ∈ traces) {kind : SampleKind}
    (holds : trace.HoldsAt (schedule.passed low.fetched).length low.fetched kind)
    : low.fetched ∈ schedule.checkpoints ∨ trace.fetched = low.fetched := by
  rw [Trace.holdsAt_iff, h.shapes trace ht] at holds
  have ahead := (schedule.passed_prefix_of_le (h.least trace ht)).length_le
  rcases Nat.lt_or_eq_of_le ahead with more | same
  · have entry : (low.fetched, kind) ∈ schedule.shape trace.fetched := List.mem_of_getElem? holds
    have checkpoint : kind = .checkpoint := by
      simp only [Schedule.shape, List.getElem?_append_left
        (show _ < ((schedule.passed trace.fetched).map (·, SampleKind.checkpoint)).length by
          simpa using more), List.getElem?_map, Option.map_eq_some_iff, Prod.mk.injEq] at holds
      obtain ⟨_, _, _, same⟩ := holds
      exact same.symm
    exact .inl ((Schedule.mem_shape entry).mp checkpoint)
  · rw [same, schedule.shape_getElem?_passed] at holds
    exact .inr (Prod.mk.inj (Option.some.inj holds)).1

theorem opens_of_mem (h : AveragedRuns schedule first low traces points)
    (hk : low.fetched ∈ schedule.checkpoints) (trace : Trace Float) (ht : trace ∈ traces)
    : schedule.shape low.fetched <+: schedule.shape trace.fetched := by
  rw [Schedule.shape_of_mem hk]
  exact schedule.reached_prefix_shape fun k _ bound => Nat.le_trans bound (h.least trace ht)

/-- The shortest runs all have the same number of rows. -/
theorem shortestOnCheckpoint_iff (h : AveragedRuns schedule first low traces points)
    : ShortestOnCheckpoint schedule traces ↔ low.fetched ∈ schedule.checkpoints := by
  constructor
  · rintro ⟨other, member, hk, least⟩
    have same : low.fetched = other.fetched :=
      Nat.le_antisymm (h.least other member) (least low h.member)
    exact same ▸ hk
  · intro hk
    exact ⟨low, h.member, hk, h.least⟩

/-- All positions line up exactly if the shortest run ended on a checkpoint or all runs have the
same number of rows. Otherwise the last row of the shortest run meets later rows of the others.
-/
theorem holdsAt_iff (h : AveragedRuns schedule first low traces points)
    : (∀ (j : Nat) (point : AveragedPoint),
        points[j]? = some point → ∀ trace ∈ traces, trace.HoldsAt j point.count point.kind)
      ↔ low.fetched ∈ schedule.checkpoints
        ∨ ∀ left ∈ traces, ∀ right ∈ traces, left.fetched = right.fetched := by
  constructor
  · intro lined
    obtain ⟨point, last⟩ := h.exists_last
    have holds (trace : Trace Float) (ht : trace ∈ traces)
        : trace.HoldsAt (schedule.passed low.fetched).length low.fetched
            (schedule.kindAt low.fetched) := by
      have own := lined _ point last low h.member
      rw [Trace.holdsAt_iff, h.shapes low h.member, schedule.shape_getElem?_passed] at own
      obtain ⟨count, kind⟩ := Prod.mk.inj (Option.some.inj own)
      have there := lined _ point last trace ht
      rwa [← count, ← kind] at there
    by_cases hk : low.fetched ∈ schedule.checkpoints
    · exact .inl hk
    · have same (trace : Trace Float) (ht : trace ∈ traces) : trace.fetched = low.fetched :=
        (h.mem_or_eq_of_holdsAt ht (holds trace ht)).resolve_left hk
      exact .inr fun left hl right hr => (same left hl).trans (same right hr).symm
  · rintro (hk | same) j point here trace ht
    · exact h.holdsAt_of_prefix (h.opens_of_mem hk) here ht
    · refine h.holdsAt_of_prefix (fun other ho => ?_) here ht
      have rows := same low h.member other ho
      exact rows ▸ List.prefix_refl (schedule.shape low.fetched)

/-- Every mean of a checkpoint is taken at its row count exactly if the shortest run ended on a
checkpoint or all runs reached the checkpoints that the first one reached.
-/
theorem count_iff (h : AveragedRuns schedule first low traces points)
    : (∀ (j : Nat) (point : AveragedPoint) (k : Nat),
        points[j]? = some point
        → point.bucket = .checkpoint k
        → ∀ trace ∈ traces, ∃ sample, trace.samples[j]? = some sample ∧ sample.count = k)
      ↔ low.fetched ∈ schedule.checkpoints
        ∨ ∀ trace ∈ traces, ∀ k ∈ schedule.checkpoints, k ≤ first.fetched → k ≤ trace.fetched := by
  constructor
  · intro exact_
    by_cases hk : low.fetched ∈ schedule.checkpoints
    · exact .inl hk
    refine .inr fun trace ht k member bound => Nat.le_trans ?_ (h.least trace ht)
    obtain ⟨point, last⟩ := h.exists_last
    have tag := h.tag _ point last
    rw [h.shapes first h.firstMember] at tag
    cases kind : point.kind with
    | checkpoint =>
        -- The shortest run would hold its own last row under that checkpoint.
        obtain ⟨sample, here, count⟩ :=
          exact_ _ point point.count last (by simp [AveragedPoint.bucket, kind]) low h.member
        have own := congrArg (·[(schedule.passed low.fetched).length]?) (h.shapes low h.member)
        simp only [Trace.tags, List.getElem?_map, here, schedule.shape_getElem?_passed,
          Option.map_some, Option.some.injEq, Prod.mk.injEq] at own
        rw [kind, ← count, own.1] at tag
        exact absurd ((Schedule.mem_shape (List.mem_of_getElem? tag)).mp rfl) hk
    | overflow =>
        rw [kind] at tag
        have length := Schedule.eq_of_shape_overflow tag
        have same : schedule.passed low.fetched = schedule.passed first.fetched :=
          (schedule.passed_prefix_of_le (h.least first h.firstMember)).eq_of_length length
        have absent : first.fetched ∉ schedule.checkpoints := by
          rw [length, schedule.shape_getElem?_passed] at tag
          intro hf
          simp [Schedule.kindAt, hf] at tag
        have passed : k ∈ schedule.passed first.fetched :=
          Schedule.mem_passed.mpr
            ⟨member, Nat.lt_of_le_of_ne bound fun same => absent (same ▸ member)⟩
        rw [← same] at passed
        exact Nat.le_of_lt (Schedule.mem_passed.mp passed).2
  · rintro condition j point k here bucket trace ht
    obtain ⟨kind, rfl⟩ : point.kind = .checkpoint ∧ point.count = k := by
      unfold AveragedPoint.bucket at bucket
      split at bucket <;> simp_all
    rcases condition with hk | reached
    · obtain ⟨sample, held, count, _⟩ := h.holdsAt_of_prefix (h.opens_of_mem hk) here ht
      exact ⟨sample, held, count⟩
    · have tag := h.tag j point here
      rw [h.shapes first h.firstMember, kind] at tag
      have opening := schedule.reached_prefix_shape (reached trace ht)
      have entry := Schedule.reached_of_shape tag
      obtain ⟨within, value⟩ := List.getElem?_eq_some_iff.mp entry
      have there : trace.HoldsAt j point.count .checkpoint := by
        rw [Trace.holdsAt_iff, h.shapes trace ht, List.prefix_iff_getElem?.mp opening j within,
          value]
      obtain ⟨sample, held, count, _⟩ := there
      exact ⟨sample, held, count⟩

end AveragedRuns

/-- A script of some rows and then the end, on a clock that stands still. -/
def Script.ofRows (rows : Nat) : Script where
  reading := .zero
  events := List.replicate rows (.zero, .row)

/-- Averages of runs of one schedule line up at every position but the last one. They line up
there exactly if the shortest run ended on a checkpoint or all runs have the same number of rows,
and the means filed under checkpoints are taken at their row counts exactly if the shortest run
ended on a checkpoint or all runs reached the checkpoints that the first one reached.
-/
theorem averageRuns_lines_up_iff (schedule : Schedule) (traces : List (Trace Float))
    (runs : ∀ trace ∈ traces, trace.IsRunOf schedule)
    : let points := (averageRuns traces).points
      (∀ (j : Nat) (point : AveragedPoint),
        points[j]? = some point
        → j + 1 < points.length
        → ∀ trace ∈ traces, trace.HoldsAt j point.count point.kind)
      ∧ ((∀ (j : Nat) (point : AveragedPoint),
            points[j]? = some point → ∀ trace ∈ traces, trace.HoldsAt j point.count point.kind)
          ↔ ShortestOnCheckpoint schedule traces
            ∨ ∀ left ∈ traces, ∀ right ∈ traces, left.fetched = right.fetched)
      ∧ ((∀ (j : Nat) (point : AveragedPoint) (k : Nat),
            points[j]? = some point
            → point.bucket = .checkpoint k
            → ∀ trace ∈ traces, ∃ sample, trace.samples[j]? = some sample ∧ sample.count = k)
          ↔ ShortestOnCheckpoint schedule traces
            ∨ ∀ first ∈ traces.head?,
                ∀ trace ∈ traces,
                ∀ k ∈ schedule.checkpoints, k ≤ first.fetched → k ≤ trace.fetched) := by
  cases traces with
  | nil => simp [averageRuns]
  | cons first rest =>
      obtain ⟨low, averaged⟩ := AveragedRuns.of_runs runs
      refine ⟨fun j point here bound trace ht => ?_, ?_, ?_⟩
      · have length := averaged.length
        exact averaged.holdsAt_of_lt here (by omega) ht
      · rw [averaged.shortestOnCheckpoint_iff]
        exact averaged.holdsAt_iff
      · rw [averaged.shortestOnCheckpoint_iff]
        simpa using averaged.count_iff

/-- Three rows line up with two that end on a checkpoint. -/
theorem averageRuns_lines_up_iff_second_row
    : ∃ (schedule : Schedule) (short long : Trace Float),
        short.IsRunOf schedule
        ∧ long.IsRunOf schedule
        ∧ short.fetched = 2
        ∧ long.fetched = 3
        ∧ ∀ (j : Nat) (point : AveragedPoint),
            (averageRuns [long, short]).points[j]? = some point
            → ∀ trace ∈ [long, short], trace.HoldsAt j point.count point.kind := by
  let timer : Timer Float := {
    schedule := ⟨[2, 5], by simp, by simp, by simp [Increasing]⟩
    sigma := 0.5
  }
  obtain ⟨short, shortRun, shortRows⟩ :=
    Trace.IsRunOf.of_fetched timer (Script.ofRows 2) {} (show _ = some 2 by decide +kernel)
  obtain ⟨long, longRun, longRows⟩ :=
    Trace.IsRunOf.of_fetched timer (Script.ofRows 3) {} (show _ = some 3 by decide +kernel)
  have aligned := (averageRuns_lines_up_iff timer.schedule [long, short]
    (by simp [shortRun, longRun])).2.1
  refine ⟨timer.schedule, short, long, shortRun, longRun, shortRows, longRows, ?_⟩
  apply aligned.mpr
  left
  exact ⟨short, by simp, by simp [shortRows, timer], by simp [shortRows, longRows]⟩

/-- Five rows and three rows do not line up: the mean filed under the fifth row is taken over the
last row of the shorter run too.
-/
theorem averageRuns_files_last_row_under_checkpoint
    : ∃ (schedule : Schedule) (long short : Trace Float),
        long.IsRunOf schedule
        ∧ short.IsRunOf schedule
        ∧ ∃ point sample,
            (averageRuns [long, short]).points[1]? = some point
            ∧ point.bucket = .checkpoint 5
            ∧ short.samples[1]? = some sample
            ∧ sample.count = 3
            ∧ sample.kind = .overflow := by
  let timer : Timer Float := {
    schedule := ⟨[2, 5], by simp, by simp, by simp [Increasing]⟩
    sigma := 0.5
  }
  obtain ⟨short, shortRun, shortRows⟩ :=
    Trace.IsRunOf.of_fetched timer (Script.ofRows 3) {} (show _ = some 3 by decide +kernel)
  obtain ⟨long, longRun, longRows⟩ :=
    Trace.IsRunOf.of_fetched timer (Script.ofRows 5) {} (show _ = some 5 by decide +kernel)
  have kinds : timer.schedule.shape 3 = [(2, .checkpoint), (3, .overflow)] := by decide
  have longKinds : timer.schedule.shape 5 = [(2, .checkpoint), (5, .checkpoint)] := by decide
  have shortTags := shortRun.tags
  have longTags := longRun.tags
  rw [shortRows, kinds] at shortTags
  rw [longRows, longKinds] at longTags
  obtain ⟨_, _, shortSamples, _, rest⟩ := List.map_eq_cons_iff.mp shortTags
  obtain ⟨last, _, shortRest, lastTag, none⟩ := List.map_eq_cons_iff.mp rest
  obtain ⟨_, _, longSamples, _, rest⟩ := List.map_eq_cons_iff.mp longTags
  obtain ⟨checkpoint, _, longRest, checkpointTag, none⟩ := List.map_eq_cons_iff.mp rest
  obtain ⟨count, kind⟩ := Prod.mk.inj lastTag
  obtain ⟨filed, filedKind⟩ := Prod.mk.inj checkpointTag
  refine ⟨timer.schedule, long, short, longRun, shortRun,
    averagePoint checkpoint [checkpoint, last], last, ?_, ?_, ?_, count, kind⟩
  · simp [averageRuns, averagePoints, shortSamples, shortRest, longSamples, longRest]
  · simp [AveragedPoint.bucket, averagePoint, filed, filedKind]
  · simp [shortSamples, shortRest]

end JoinLatency

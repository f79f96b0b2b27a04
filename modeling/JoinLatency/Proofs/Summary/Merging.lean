import JoinLatency.Proofs.Average.Recording
import JoinLatency.Proofs.Decimal.Doubles
import JoinLatency.Proofs.Files.Paths
import JoinLatency.Proofs.Summary.Averaging
import JoinLatency.Proofs.Summary.Reading
import JoinLatency.Proofs.Timer.Schedule

/-! Averages over tables of single traces. A table keeps exactly the times of its trace, and
merging the tables gives what a group of all the traces gives.
-/

namespace JoinLatency

theorem toString_injective : Function.Injective (toString : Nat → String) := by
  intro a b same
  rw [Nat.toString_eq_ofList_toDigits, Nat.toString_eq_ofList_toDigits, String.ofList_inj] at same
  rw [← Nat.ofDigitChars_ten_toDigits (n := a), same, Nat.ofDigitChars_ten_toDigits]

/-- A double is the mean of itself alone. -/
theorem mean_singleton (x : Float) : sum [x] / divisor 1 = x := by
  have unit : divisor 1 = Float.ofBits 0x3ff0000000000000 := by decide +kernel
  have single : sum [x] = x := Decimal.negativeZero_add x
  rw [unit, single, Decimal.div_one]

-----------------------------------------------------------------------------------------
-- Checkpoints of a trace
-----------------------------------------------------------------------------------------

namespace AveragedTrace

/-- The row counts of the checkpoints among the points of a trace. -/
def reached (averaged : AveragedTrace) : List Nat :=
  averaged.points.filterMap fun point =>
    match point.bucket with
    | .checkpoint k => some k
    | .others => none

theorem length_pointsAt (averaged : AveragedTrace) (k : Nat)
    : (averaged.pointsAt k).length = averaged.reached.count k := by
  rw [pointsAt, reached, ← List.countP_eq_length_filter, List.count_filterMap]
  refine List.countP_congr fun point member => ?_
  cases point.bucket <;> simp

theorem pointsAt_ne_nil_iff (averaged : AveragedTrace) (k : Nat)
    : averaged.pointsAt k ≠ [] ↔ k ∈ averaged.reached := by
  rw [← List.length_pos_iff, length_pointsAt, List.count_pos_iff]

theorem flatMap_pointsAt_ne_nil_iff (traces : List AveragedTrace) (k : Nat)
    : traces.flatMap (·.pointsAt k) ≠ [] ↔ ∃ averaged ∈ traces, k ∈ averaged.reached := by
  rw [Ne, List.flatMap_eq_nil_iff]
  push Not
  simp only [pointsAt_ne_nil_iff]

/-- The decayed time of a trace at a checkpoint that it reached. -/
def timeAt (averaged : AveragedTrace) (k : Nat) : Float :=
  ((averaged.pointsAt k).map (·.meanDecayed)).headD 0

/-- A trace that reaches its checkpoints once has one time at each. -/
theorem times_of_mem {averaged : AveragedTrace} {k : Nat} (once : averaged.reached.Nodup)
    (member : k ∈ averaged.reached)
    : (averaged.pointsAt k).map (·.meanDecayed) = [averaged.timeAt k] := by
  have one : (averaged.pointsAt k).length = 1 := by
    rw [length_pointsAt, List.count_eq_one_of_mem once member]
  obtain ⟨point, only⟩ := List.length_eq_one_iff.mp one
  rw [timeAt, only]
  rfl

/-- The table of the weighted times of a trace alone. -/
def table {γ : Type} [DecidableEq γ] (own : γ) (schedule : Schedule) (averaged : AveragedTrace)
    : String :=
  SummaryFormat.weighted.text
    ((({} : Accumulator γ).record own averaged).summary own schedule .skip)

/-- The entries of the table of a trace. -/
def entries (averaged : AveragedTrace) : List SummaryEntry :=
  averaged.reached.map fun k => ⟨toString k, averaged.timeAt k⟩

end AveragedTrace

/-- The weighted time over one trace is the time of the trace. -/
theorem SummaryLine.entry_mean_singleton {averaged : AveragedTrace} {k : Nat}
    (once : averaged.reached.Nodup) (member : k ∈ averaged.reached)
    : (SummaryLine.mean .skip [averaged] k).entry = ⟨toString k, averaged.timeAt k⟩ := by
  have times := AveragedTrace.times_of_mem once member
  have one : (averaged.pointsAt k).length = 1 := by
    rw [← List.length_map (·.meanDecayed), times, List.length_singleton]
  simp only [mean, entry, List.flatMap_singleton, times, one, MissingPolicy.terms, mean_singleton]

namespace Accumulator

variable {γ : Type} [DecidableEq γ] {schedule : Schedule} {traces : List AveragedTrace}

/-- The lines of a group whose checkpoints some trace has reached. These checkpoints are the first
ones of the schedule.
-/
theorem summary_of_prefix (group : γ) (policy : MissingPolicy) {counts : List Nat}
    (first : counts <+: schedule.checkpoints)
    (reached : ∀ k, k ∈ counts ↔ ∃ averaged ∈ traces, k ∈ averaged.reached)
    : ((({} : Accumulator γ).recordAll group traces).summary group schedule policy).filter
        (fun line => traces.any fun averaged => line.k ∈ averaged.reached)
      = counts.map (SummaryLine.mean policy traces) := by
  have test (k : Nat)
      : (traces.any fun averaged => decide (k ∈ averaged.reached)) = decide (k ∈ counts) := by
    simp only [reached, List.any_eq, decide_eq_true_eq]
  have line (k : Nat) (member : k ∈ counts)
      : (({} : Accumulator γ).recordAll group traces).line? group policy k
        = some (SummaryLine.mean policy traces k) :=
    line?_recordAll group policy
      ((AveragedTrace.flatMap_pointsAt_ne_nil_iff traces k).mpr ((reached k).mp member))
  -- the rest of the schedule has lines under some policies, but no trace has reached it
  obtain ⟨rest, split⟩ := first
  have distinct : (counts ++ rest).Nodup := by
    rw [split]
    exact schedule.nodup
  have missing : (rest.filterMap
        ((({} : Accumulator γ).recordAll group traces).line? group policy)).filter
      (fun line => decide (line.k ∈ counts)) = [] := by
    rw [List.filter_eq_nil_iff]
    intro line made
    obtain ⟨k, member, found⟩ := List.mem_filterMap.mp made
    rw [line?_k found, decide_eq_true_eq]
    exact fun earlier => List.disjoint_of_nodup_append distinct earlier member
  have kept : (counts.map (SummaryLine.mean policy traces)).filter
      (fun line => decide (line.k ∈ counts)) = counts.map (SummaryLine.mean policy traces) := by
    rw [List.filter_eq_self]
    intro line made
    obtain ⟨k, member, rfl⟩ := List.mem_map.mp made
    exact decide_eq_true member
  simp only [test]
  rw [summary, ← split, List.filterMap_append, List.filter_append, missing, List.append_nil,
    List.filterMap_congr line, List.filterMap_eq_map', kept]

/-- The table of a trace alone holds the times of the trace. -/
theorem entries_of_trace (own : γ) {averaged : AveragedTrace}
    (first : averaged.reached <+: schedule.checkpoints)
    : ((({} : Accumulator γ).record own averaged).summary own schedule .skip).map
        SummaryLine.entry
      = averaged.entries := by
  have once : averaged.reached.Nodup := first.sublist.nodup schedule.nodup
  have lines := summary_of_prefix own .skip first
    (by simp : ∀ k, k ∈ averaged.reached ↔ ∃ other ∈ [averaged], k ∈ other.reached)
  rw [List.filter_eq_self.mpr] at lines
  · rw [← recordAll_singleton, lines, List.map_map]
    exact List.map_congr_left fun k member => SummaryLine.entry_mean_singleton once member
  · intro line made
    obtain ⟨k, member, found⟩ := List.mem_filterMap.mp made
    have points := pointsAt_ne_nil_of_skip found
    rw [AveragedTrace.flatMap_pointsAt_ne_nil_iff, ← line?_k found] at points
    simpa using points

end Accumulator

-----------------------------------------------------------------------------------------
-- Tables of several traces
-----------------------------------------------------------------------------------------

namespace AveragedTrace

theorem keys_entries (averaged : AveragedTrace)
    : averaged.entries.map (·.key) = averaged.reached.map toString := by
  rw [entries, List.map_map]
  rfl

/-- The entries of a trace with a row count as their key hold its times there. -/
theorem values_entries {averaged : AveragedTrace} (once : averaged.reached.Nodup) (k : Nat)
    : (averaged.entries.filter (·.key = toString k)).map (·.value)
      = (averaged.pointsAt k).map (·.meanDecayed) := by
  have own : averaged.entries.filter (·.key = toString k)
      = (averaged.reached.filter (· == k)).map fun k => ⟨toString k, averaged.timeAt k⟩ := by
    rw [entries, List.filter_map]
    congr 1
    refine List.filter_congr fun other member => ?_
    rw [Function.comp_apply, decide_eq_decide.mpr toString_injective.eq_iff, beq_eq_decide]
  rw [own, List.filter_beq]
  by_cases member : k ∈ averaged.reached
  · rw [List.count_eq_one_of_mem once member, times_of_mem once member]
    rfl
  · have none : averaged.pointsAt k = [] :=
      not_not.mp (mt (averaged.pointsAt_ne_nil_iff k).mp member)
    rw [List.count_eq_zero_of_not_mem member, none]
    rfl

end AveragedTrace

namespace Summary

variable {schedule : Schedule} {traces : List AveragedTrace}

/-- The values after the entries of some traces. -/
def addTraces (values : Values) (traces : List AveragedTrace) : Values :=
  values.updateAll SummaryEntry.key [] (fun entry present => present ++ [entry.value])
    (traces.flatMap (·.entries))

/-- The keys after the entries of some traces begin the schedule, by induction along the traces.
-/
theorem keys_addTraces {values : Values}
    (begun : values.keys <+: schedule.checkpoints.map toString)
    (first : ∀ averaged ∈ traces, averaged.reached <+: schedule.checkpoints)
    : (addTraces values traces).keys <+: schedule.checkpoints.map toString
      ∧ ∀ key,
          key ∈ (addTraces values traces).keys
          ↔ key ∈ values.keys ∨ ∃ averaged ∈ traces, key ∈ averaged.reached.map toString := by
  induction traces generalizing values with
  | nil => exact ⟨begun, fun key => by simp [addTraces, Table.updateAll]⟩
  | cons averaged rest ih =>
      obtain ⟨own, others⟩ := List.forall_mem_cons.mp first
      have listed : averaged.entries.map (·.key) <+: schedule.checkpoints.map toString := by
        rw [AveragedTrace.keys_entries]
        exact own.map toString
      have distinct := schedule.nodup.map toString_injective
      obtain ⟨next, mem⟩ := Table.keys_updateAll_of_prefix SummaryEntry.key []
        (fun entry present => present ++ [entry.value]) distinct begun listed
      obtain ⟨last, later⟩ := ih next others
      rw [addTraces, List.flatMap_cons, Table.updateAll_append]
      refine ⟨last, fun key => (later key).trans ?_⟩
      rw [mem, AveragedTrace.keys_entries, or_assoc, List.exists_mem_cons_iff]

theorem keys_merged (first : ∀ averaged ∈ traces, averaged.reached <+: schedule.checkpoints)
    : ∃ counts, counts <+: schedule.checkpoints
        ∧ (∀ k, k ∈ counts ↔ ∃ averaged ∈ traces, k ∈ averaged.reached)
        ∧ (addTraces {} traces).keys = counts.map toString := by
  have none : ({} : Values).keys <+: schedule.checkpoints.map toString := List.nil_prefix
  obtain ⟨begun, mem⟩ := keys_addTraces none first
  obtain ⟨counts, begin', keys⟩ := List.prefix_map_iff.mp begun
  refine ⟨counts, begin', fun k => ?_, keys⟩
  have known := mem (toString k)
  rw [keys, List.mem_map_of_injective toString_injective] at known
  rw [known]
  simp only [List.mem_map_of_injective toString_injective]
  exact or_iff_right List.not_mem_nil

theorem valuesAt_merged (first : ∀ averaged ∈ traces, averaged.reached <+: schedule.checkpoints)
    (k : Nat)
    : valuesAt (toString k) (traces.flatMap (·.entries))
      = (traces.flatMap (·.pointsAt k)).map (·.meanDecayed) := by
  rw [valuesAt, List.filter_flatMap, List.map_flatMap, List.map_flatMap]
  refine List.flatMap_congr fun averaged member => ?_
  exact AveragedTrace.values_entries ((first averaged member).sublist.nodup schedule.nodup) k

/-- The means of the tables of some traces are the lines of a group of the traces. -/
theorem means_merged {γ : Type} [DecidableEq γ] (group : γ) (policy : MissingPolicy)
    (first : ∀ averaged ∈ traces, averaged.reached <+: schedule.checkpoints)
    : (addTraces {} traces).entries.map
        (fun (key, present) => meanEntry policy traces.length key present)
      = (((({} : Accumulator γ).recordAll group traces).summary group schedule policy).filter
          (fun line => traces.any fun averaged => line.k ∈ averaged.reached)).map
          SummaryLine.entry := by
  obtain ⟨counts, begin', reached, keys⟩ := keys_merged first
  have values : (addTraces {} traces).entries
      = (addTraces {} traces).keys.map fun key => (key, valuesAt key (traces.flatMap (·.entries))) :=
    entries_valuesOf (traces.flatMap AveragedTrace.entries)
  rw [Accumulator.summary_of_prefix group policy begin' reached, values, keys, List.map_map,
    List.map_map, List.map_map]
  refine List.map_congr_left fun k member => ?_
  simp only [Function.comp_apply, meanEntry, SummaryLine.entry, SummaryLine.mean,
    valuesAt_merged first, List.length_map]

-----------------------------------------------------------------------------------------
-- Tables in files
-----------------------------------------------------------------------------------------

/-- Averaging the tables of some traces, each written to a file of its own, gives the lines of one
group of all the traces, as far as some trace has reached their checkpoints.
-/
theorem average_of_tables {γ δ : Type} [DecidableEq γ] [DecidableEq δ] (group : γ) (own : δ)
    (schedule : Schedule) (policy : MissingPolicy) {tables : List (String × AveragedTrace)}
    (nonempty : tables ≠ [])
    (first : ∀ table ∈ tables, table.2.reached <+: schedule.checkpoints)
    {files written : Files}
    (apart : tables.Pairwise fun earlier later => ¬ files.SameFile earlier.1 later.1)
    (saved : files.saveAll (tables.map fun (path, averaged) => (path, averaged.table own schedule))
      = .ok written)
    : average written (tables.map (·.1)) policy
      = .ok ((((({} : Accumulator γ).recordAll group (tables.map (·.2))).summary group schedule
          policy).filter
            (fun line => tables.any fun table => line.k ∈ table.2.reached)).map
          SummaryLine.entry) := by
  have read (table : String × AveragedTrace) (member : table ∈ tables)
      : (SummaryEntry.ofFile written table.1).toOption = some table.2.entries := by
    have text := Files.readText_saveAll saved (List.pairwise_map.mpr apart) _
      (List.mem_map_of_mem member)
    rw [SummaryEntry.ofFile, text]
    dsimp only
    rw [AveragedTrace.table, SummaryFormat.ofText_weighted,
      Accumulator.entries_of_trace own (first table member)]
    rfl
  have readable : readable written (tables.map (·.1)) = tables.map (·.2.entries) := by
    rw [Summary.readable, List.filterMap_map, Function.comp_def, List.filterMap_congr read,
      List.filterMap_eq_map']
  have values : (tables.map (·.2.entries)).flatten.foldl addEntry {}
      = addTraces {} (tables.map (·.2)) := by
    rw [addTraces, List.flatMap_map, List.flatMap_def]
    rfl
  have means := means_merged group policy (List.forall_mem_map.mpr first)
  rw [← values, List.length_map] at means
  simp only [List.any_map, Function.comp_def] at means
  obtain ⟨table, rest, rfl⟩ := List.exists_cons_of_ne_nil nonempty
  rw [average, if_neg (by simp), readable, List.length_map, ← means]
  rfl

/-- Of three traces one reached nothing and left an empty table, which still counts as a file. -/
theorem average_of_tables_three_traces
    : ∃ (schedule : Schedule) (tables : List (String × AveragedTrace)) (files written : Files),
        tables ≠ []
        ∧ (∀ table ∈ tables, table.2.reached <+: schedule.checkpoints)
        ∧ (tables.Pairwise fun earlier later => ¬ files.SameFile earlier.1 later.1)
        ∧ files.saveAll (tables.map fun (path, averaged) => (path, averaged.table () schedule))
          = .ok written
        ∧ (average written (tables.map (·.1)) .zero).toOption.map
            (fun entries => entries.map fun entry => (entry.key, entry.value))
          = some [("2", Json.doubleOfNat 2), ("5", Json.doubleOfNat 1)] := by
  let schedule : Schedule := {
    checkpoints := [2, 5]
    nonempty := by decide
    positive := by decide
    increasing := ⟨by decide, trivial⟩
  }
  let point (kind : SampleKind) (count time : Nat) : AveragedPoint :=
    { count, kind, meanElapsed := Json.doubleOfNat time, meanDecayed := Json.doubleOfNat time }
  let tables : List (String × AveragedTrace) := [
    ("none", { points := [point .overflow 1 9] }),
    ("first", { points := [point .checkpoint 2 4, point .overflow 3 9] }),
    ("both", { points := [point .checkpoint 2 2, point .checkpoint 5 3] })
  ]
  let files : Files := {}
  have first : ∀ table ∈ tables, table.2.reached <+: schedule.checkpoints := by decide +kernel
  have apart : tables.Pairwise fun earlier later => ¬ files.SameFile earlier.1 later.1 := by
    decide +kernel
  have fits : (files.saveAll (tables.map fun (path, averaged) =>
      (path, averaged.table () schedule))).toOption.isSome = true := by
    decide +kernel
  obtain ⟨written, found⟩ := Option.isSome_iff_exists.mp fits
  have saved := toOption_eq_some.mp found
  refine ⟨schedule, tables, files, written, by decide, first, apart, saved, ?_⟩
  rw [average_of_tables () () schedule .zero (by decide) first apart saved]
  decide +kernel

end Summary

end JoinLatency

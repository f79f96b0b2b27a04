import JoinLatency.Proofs.Outcome
import JoinLatency.Proofs.Table
import JoinLatency.Summary.Merge

/-! Averages key by key. Every key of the readable inputs has one mean, over the values that were
read for it, and the means come in the order in which their keys appeared first. An input that
cannot be read tells in the number of terms alone, and there under one policy only.
-/

namespace JoinLatency.Summary

-----------------------------------------------------------------------------------------
-- Values of keys
-----------------------------------------------------------------------------------------

/-- The values of every key, once some entries are added. -/
def valuesOf (entries : List SummaryEntry) : Values :=
  ({} : Values).updateAll SummaryEntry.key [] (fun entry present => present ++ [entry.value])
    entries

/-- The values that some entries have for a key, in their order. -/
def valuesAt (key : String) (entries : List SummaryEntry) : List Float :=
  (entries.filter (·.key = key)).map (·.value)

theorem firstOccurrences_valuesOf (entries : List SummaryEntry)
    : FirstOccurrences (entries.map (·.key)) (valuesOf entries).keys := by
  have none : FirstOccurrences [] ({} : Values).keys := ⟨.nil, fun _ => .rfl, .nil⟩
  exact Table.firstOccurrences_updateAll SummaryEntry.key [] _ none entries

/-- The values of a key are collected in the order of its entries. -/
theorem get?_valuesOf {entries : List SummaryEntry} {key : String}
    (present : valuesAt key entries ≠ [])
    : (valuesOf entries).get? key = some (valuesAt key entries) := by
  have own : (entries.filter (·.key = key)).isEmpty = false := by
    rw [← List.isEmpty_map, List.isEmpty_eq_false_iff]
    exact present
  rw [valuesOf, Table.get?_updateAll, own, if_neg (by decide), List.foldl_append_eq_append,
    ← List.flatMap_def, ← List.map_eq_flatMap]
  rfl

theorem valuesAt_ne_nil_of_mem {entries : List SummaryEntry} {key : String}
    (h : key ∈ entries.map (·.key))
    : valuesAt key entries ≠ [] := by
  obtain ⟨entry, member, same⟩ := List.mem_map.mp h
  rw [valuesAt, Ne, List.map_eq_nil_iff]
  exact List.ne_nil_of_mem (List.mem_filter.mpr ⟨member, decide_eq_true same⟩)

/-- The collected values are those of each key, in the order of the first occurrences. -/
theorem entries_valuesOf (entries : List SummaryEntry)
    : (valuesOf entries).entries
      = (valuesOf entries).keys.map fun key => (key, valuesAt key entries) := by
  have firsts := firstOccurrences_valuesOf entries
  have value (key : String) (member : key ∈ (valuesOf entries).keys)
      : ((valuesOf entries).get? key).map (key, ·) = some (key, valuesAt key entries) := by
    have there := (firsts.mem_iff key).mp member
    rw [get?_valuesOf (valuesAt_ne_nil_of_mem there), Option.map_some]
  rw [Table.entries_eq firsts.nodup, List.filterMap_congr value, List.filterMap_eq_map']

-----------------------------------------------------------------------------------------
-- Inputs that cannot be read
-----------------------------------------------------------------------------------------

variable {files : Files} {inputs fewer : List String} {policy : MissingPolicy}

/-- Whether a file cannot be read as a table, because it is no text or a line of it is no entry. -/
def Unreadable (files : Files) (path : String) : Prop :=
  ∃ fault, SummaryEntry.ofFile files path = .error fault

/-- Some inputs without a number of those that cannot be read. -/
inductive Thinned (files : Files) : List String → List String → Prop
  | nil : Thinned files [] []
  | keep (path : String) {fewer inputs : List String} (rest : Thinned files fewer inputs)
    : Thinned files (path :: fewer) (path :: inputs)
  | drop {path : String} {fewer inputs : List String} (lost : Unreadable files path)
    (rest : Thinned files fewer inputs)
    : Thinned files fewer (path :: inputs)

theorem unreadable_iff {path : String}
    : Unreadable files path ↔ (SummaryEntry.ofFile files path).toOption = none := by
  rw [Unreadable]
  cases SummaryEntry.ofFile files path <;> simp [Except.toOption]

theorem readable_eq_nil_iff
    : readable files inputs = [] ↔ ∀ path ∈ inputs, Unreadable files path := by
  simp only [readable, List.filterMap_eq_nil_iff, unreadable_iff]

/-- Inputs that cannot be read contribute nothing, by induction along those left out. -/
theorem Thinned.readable_eq (h : Thinned files fewer inputs)
    : readable files fewer = readable files inputs := by
  induction h with
  | nil => rfl
  | @keep path fewer inputs _ ih =>
      change (path :: fewer).filterMap _ = (path :: inputs).filterMap _
      rw [List.filterMap_cons, List.filterMap_cons, ← readable, ← readable, ih]
  | @drop path fewer inputs lost _ ih =>
      change _ = (path :: inputs).filterMap _
      rw [List.filterMap_cons, unreadable_iff.mp lost, ih, readable]

-----------------------------------------------------------------------------------------
-- Means
-----------------------------------------------------------------------------------------

/-- Without a readable input there is nothing to average. -/
theorem average_of_unreadable (none : readable files inputs = [])
    : ∃ fault, average files inputs policy = .error fault := by
  rw [average, none]
  split <;> exact ⟨_, rfl⟩

/-- One readable input is enough for an average, which has a mean for every key. -/
theorem average_of_readable (some : readable files inputs ≠ [])
    : average files inputs policy
      = .ok ((valuesOf (readable files inputs).flatten).keys.map fun key =>
          meanEntry policy inputs.length key (valuesAt key (readable files inputs).flatten)) := by
  have given : inputs.isEmpty = false := by
    rw [List.isEmpty_eq_false_iff]
    rintro rfl
    exact some rfl
  have means := congrArg
    (List.map fun entry => meanEntry policy inputs.length entry.1 entry.2)
    (entries_valuesOf (readable files inputs).flatten)
  rw [List.map_map] at means
  rw [average, given, if_neg (by decide)]
  split
  next none => exact absurd none some
  next => exact congrArg Except.ok means

theorem average_eq_error_iff
    : (∃ fault, average files inputs policy = .error fault) ↔ readable files inputs = [] := by
  refine ⟨fun ⟨fault, failed⟩ => ?_, average_of_unreadable⟩
  by_contra some
  rw [average_of_readable some] at failed
  cases failed

/-- An average fails if and only if no input can be read. Otherwise it has one mean for every key
of the inputs, in the order in which the keys appeared first: the sum of the values that were read
for it, divided by their number, or under one policy by the number of all inputs if that is larger.
Only there do inputs tell that cannot be read.
-/
theorem average_by_key (files : Files) (inputs : List String) (policy : MissingPolicy)
    : let entries := (readable files inputs).flatten
      let terms (present : Nat) : Nat :=
        if policy = .zero then max inputs.length present else present
      let mean (key : String) : SummaryEntry :=
        ⟨key, sum (valuesAt key entries) / divisor (terms (valuesAt key entries).length)⟩
      ((∃ fault, average files inputs policy = .error fault)
        ↔ inputs = [] ∨ ∀ path ∈ inputs, Unreadable files path)
      ∧ ((∃ path ∈ inputs, ¬ Unreadable files path) →
          ∃ keys,
            FirstOccurrences (entries.map (·.key)) keys
            ∧ average files inputs policy = .ok (keys.map mean))
      ∧ average files inputs .skip = average files inputs .fillZero
      ∧ ∀ fewer, Thinned files fewer inputs →
          (∃ path ∈ fewer, ¬ Unreadable files path) →
          policy ≠ .zero →
          average files fewer policy = average files inputs policy := by
  intro entries terms mean
  have mean_eq (key : String)
      : meanEntry policy inputs.length key (valuesAt key entries) = mean key := by
    cases policy <;> rfl
  refine ⟨?_, ?_, ?_, ?_⟩
  · rw [average_eq_error_iff, readable_eq_nil_iff]
    refine ⟨.inr, Or.rec ?_ id⟩
    rintro rfl path member
    cases member
  · rintro ⟨path, member, read⟩
    have some : readable files inputs ≠ [] := fun none =>
      read (readable_eq_nil_iff.mp none path member)
    refine ⟨_, firstOccurrences_valuesOf entries, ?_⟩
    rw [average_of_readable some]
    exact congrArg Except.ok (List.map_congr_left fun key _ => mean_eq key)
  · rfl
  · intro fewer thinned ⟨path, member, read⟩ counted
    have some : readable files fewer ≠ [] := fun none =>
      read (readable_eq_nil_iff.mp none path member)
    have same := thinned.readable_eq
    rw [average_of_readable some, average_of_readable (same ▸ some), same]
    refine congrArg Except.ok (List.map_congr_left fun key _ => ?_)
    cases policy with
    | zero => exact absurd rfl counted
    | skip | fillZero => rfl

/-- A key that is repeated within one input and again in the next one, and an input that is no
text.
-/
theorem average_by_key_repeated
    : ∃ (files : Files) (keys : List String) (means : List SummaryEntry),
        Unreadable files "third"
        ∧ FirstOccurrences ["b", "a", "b", "c", "a"] keys
        ∧ average files ["third", "first", "second"] .zero = .ok means
        ∧ means.map (fun mean => (mean.key, mean.value))
          = (keys.map fun key =>
              (key, if key = "c" then Json.doubleOfNat 1 else Json.doubleOfNat 2))
        ∧ average files ["first", "second"] .skip
          = average files ["third", "first", "second"] .skip := by
  let files : Files := {
    nodes := [
      (["first"], .file "b\t2\na\t1\nb\t4\n".toUTF8),
      (["second"], .file "c\t3\r\n\na\t5".toUTF8),
      (["third"], .file ⟨#[255, 9, 49]⟩)
    ]
  }
  have lost : Unreadable files "third" := by
    rw [unreadable_iff, ← Option.isNone_iff_eq_none]
    decide +kernel
  have read : ¬ Unreadable files "first" := by
    rw [unreadable_iff, ← Option.isNone_iff_eq_none]
    decide +kernel
  have thinned : Thinned files ["first", "second"] ["third", "first", "second"] :=
    .drop lost (.keep "first" (.keep "second" .nil))
  obtain ⟨_, means, _, _⟩ := average_by_key files ["third", "first", "second"] .zero
  obtain ⟨_, _, _, fewer⟩ := average_by_key files ["third", "first", "second"] .skip
  obtain ⟨keys, firsts, averaged⟩ := means ⟨"first", by simp, read⟩
  have listed : (readable files ["third", "first", "second"]).flatten.map (·.key)
      = ["b", "a", "b", "c", "a"] := by
    decide +kernel
  rw [listed] at firsts
  refine ⟨files, keys, _, lost, firsts, averaged, ?_, ?_⟩
  · rw [List.map_map]
    refine List.map_congr_left fun key member => ?_
    have known := (firsts.mem_iff key).mp member
    simp only [List.mem_cons, List.not_mem_nil, or_false] at known
    rcases known with rfl | rfl | rfl | rfl | rfl <;> decide +kernel
  · exact fewer ["first", "second"] thinned ⟨"first", by simp, read⟩ (by decide)

end JoinLatency.Summary

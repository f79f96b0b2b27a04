import JoinLatency.Timer.Schedule

/-! The order of a schedule. Its check compares neighbours only, yet every checkpoint is positive
and smaller than all later ones, so halving the range finds every checkpoint and nothing else.
-/

namespace JoinLatency

/-- Where neighbours increase, every element is smaller than all later ones, by transitivity. -/
theorem Increasing.pairwise {ks : List Nat} (h : Increasing ks) : ks.Pairwise (· < ·) := by
  induction ks with
  | nil => exact .nil
  | cons a rest ih =>
      cases rest with
      | nil => exact List.pairwise_singleton _ _
      | cons b rest =>
          obtain ⟨less, later⟩ := h
          have tail := ih later
          refine List.pairwise_cons.mpr ⟨?_, tail⟩
          intro k hk
          rcases List.mem_cons.mp hk with rfl | hk
          · exact less
          · exact Nat.lt_trans less ((List.pairwise_cons.mp tail).1 k hk)

namespace Schedule

theorem pairwise (schedule : Schedule) : schedule.checkpoints.Pairwise (· < ·) :=
  schedule.increasing.pairwise

theorem nodup (schedule : Schedule) : schedule.checkpoints.Nodup :=
  schedule.pairwise.imp Nat.ne_of_lt

/-- No checkpoint is zero, since the first one is not and the others are larger. -/
theorem pos_of_mem (schedule : Schedule) {k : Nat} (hk : k ∈ schedule.checkpoints) : 0 < k := by
  obtain ⟨first, rest, hs⟩ := List.exists_cons_of_ne_nil schedule.nonempty
  have positive : 0 < first := schedule.positive first (by simp [hs])
  have ordered := schedule.pairwise
  rw [hs] at hk ordered
  rcases List.mem_cons.mp hk with rfl | hk
  · exact positive
  · exact Nat.lt_trans positive ((List.pairwise_cons.mp ordered).1 k hk)

/-- A list increases if the count at any position is smaller than the one at any later position. -/
theorem pairwise_iff_positions {ks : List Nat}
    : ks.Pairwise (· < ·)
      ↔ ∀ i j a b : Nat, i < j → ks[i]? = some a → ks[j]? = some b → a < b := by
  constructor
  · intro ordered i j a b less here there
    obtain ⟨hi, rfl⟩ := List.getElem?_eq_some_iff.mp here
    obtain ⟨hj, rfl⟩ := List.getElem?_eq_some_iff.mp there
    exact List.pairwise_iff_getElem.mp ordered i j hi hj less
  · intro ordered
    apply List.pairwise_iff_getElem.mpr
    intro i j hi hj less
    exact ordered i j _ _ less (List.getElem?_eq_getElem hi) (List.getElem?_eq_getElem hj)

/-- In an increasing array a smaller value stands at a smaller position. -/
theorem position_lt_of_lt {ks : List Nat} (ordered : ks.Pairwise (· < ·)) {i j a b : Nat}
    (hi : ks[i]? = some a) (hj : ks[j]? = some b) (less : a < b)
    : i < j := by
  apply Nat.lt_of_not_le
  intro hji
  rcases Nat.lt_or_eq_of_le hji with hji | rfl
  · have greater := pairwise_iff_positions.mp ordered j i b a hji hj hi
    omega
  · have same := Option.some.inj (hi.symm.trans hj)
    omega

/-- Halving finds a value between two positions exactly when it stands at one of them, by
induction on the range. The middle decides which half can still hold the value.
-/
theorem searchBetween_iff {ks : List Nat} (ordered : ks.Pairwise (· < ·)) (value low high : Nat)
    (bound : high ≤ ks.length)
    : searchBetween ks.toArray value low high = true
      ↔ ∃ i, low ≤ i ∧ i < high ∧ ks[i]? = some value := by
  fun_induction searchBetween ks.toArray value low high with
  | case1 low high hlt middle missing =>
      have past : ks.length ≤ middle := by simpa using missing
      omega
  | case2 low high hlt middle found =>
      have here : ks[middle]? = some value := by simpa using found
      simp only [true_iff]
      exact ⟨middle, by omega, by omega, here⟩
  | case3 low high hlt middle found present different less ih =>
      have here : ks[middle]? = some found := by simpa using present
      rw [ih bound]
      constructor
      · rintro ⟨i, hl, hh, hi⟩
        exact ⟨i, by omega, hh, hi⟩
      · rintro ⟨i, hl, hh, hi⟩
        have later := position_lt_of_lt ordered here hi less
        exact ⟨i, by omega, hh, hi⟩
  | case4 low high hlt middle found present different notLess ih =>
      have here : ks[middle]? = some found := by simpa using present
      rw [ih (by omega)]
      constructor
      · rintro ⟨i, hl, hh, hi⟩
        exact ⟨i, hl, by omega, hi⟩
      · rintro ⟨i, hl, hh, hi⟩
        have earlier := position_lt_of_lt ordered hi here (by omega)
        exact ⟨i, hl, earlier, hi⟩
  | case5 low high empty =>
      simp only [Bool.false_eq_true, false_iff]
      rintro ⟨i, hl, hh, _⟩
      omega

/-- The search for a row count answers whether it is a checkpoint. -/
theorem contains_iff (schedule : Schedule) (count : Nat)
    : schedule.contains count = true ↔ count ∈ schedule.checkpoints := by
  simp only [contains, List.size_toArray]
  rw [searchBetween_iff schedule.pairwise count 0 _ (Nat.le_refl _), List.mem_iff_getElem?]
  constructor
  · rintro ⟨i, _, _, hi⟩
    exact ⟨i, hi⟩
  · rintro ⟨i, hi⟩
    exact ⟨i, Nat.zero_le i, (List.getElem?_eq_some_iff.mp hi).1, hi⟩

-----------------------------------------------------------------------------------------
-- Checkpoints up to a row and beyond it
-----------------------------------------------------------------------------------------

/-- The checkpoints before a row. -/
def passed (schedule : Schedule) (rows : Nat) : List Nat :=
  schedule.checkpoints.filter (· < rows)

/-- The checkpoints up to a row, the row included. -/
def reached (schedule : Schedule) (rows : Nat) : List Nat :=
  schedule.checkpoints.filter (· ≤ rows)

/-- The checkpoints beyond a row. -/
def beyond (schedule : Schedule) (rows : Nat) : List Nat :=
  schedule.checkpoints.filter (rows < ·)

theorem mem_passed {schedule : Schedule} {rows k : Nat}
    : k ∈ schedule.passed rows ↔ k ∈ schedule.checkpoints ∧ k < rows := by
  simp [passed]

theorem mem_reached {schedule : Schedule} {rows k : Nat}
    : k ∈ schedule.reached rows ↔ k ∈ schedule.checkpoints ∧ k ≤ rows := by
  simp [reached]

theorem passed_succ (schedule : Schedule) (rows : Nat)
    : schedule.passed (rows + 1) = schedule.reached rows := by
  simp only [passed, reached, Nat.lt_succ_iff]

@[simp]
theorem reached_zero (schedule : Schedule) : schedule.reached 0 = [] := by
  apply List.filter_eq_nil_iff.mpr
  intro k hk
  have positive := schedule.pos_of_mem hk
  simp only [decide_eq_true_eq]
  omega

@[simp]
theorem beyond_zero (schedule : Schedule) : schedule.beyond 0 = schedule.checkpoints := by
  apply List.filter_eq_self.mpr
  intro k hk
  simpa using schedule.pos_of_mem hk

/-- In an ordered list, what is up to a row is what is before it and the row itself, if it is in
the list, by induction on the list.
-/
theorem filter_le_eq {ks : List Nat} (ordered : ks.Pairwise (· < ·)) (rows : Nat)
    : ks.filter (· ≤ rows) = ks.filter (· < rows) ++ (if rows ∈ ks then [rows] else []) := by
  induction ks with
  | nil => rfl
  | cons k rest ih =>
      obtain ⟨first, later⟩ := List.pairwise_cons.mp ordered
      have tail := ih later
      rcases Nat.lt_or_ge k rows with less | more
      · have other : rows ≠ k := by omega
        simp [less, show k ≤ rows by omega, tail, other]
      · -- Nothing in the rest is up to the row, since all of it is larger than its head.
        have none : rest.filter (· ≤ rows) = [] := by
          apply List.filter_eq_nil_iff.mpr
          intro next hn
          have greater := first next hn
          simp only [decide_eq_true_eq]
          omega
        have tailNone := List.append_eq_nil_iff.mp (tail.symm.trans none)
        have absent : rows ∉ rest := fun hm => by simp [hm] at tailNone
        by_cases same : rows = k
        · subst same
          simp [none, tailNone.1]
        · simp [show ¬ k ≤ rows by omega, show ¬ k < rows by omega, same, none, tailNone.1, absent]

/-- In an ordered list, what is beyond a row is the next row, if it is in the list, and what is
beyond that, by induction on the list.
-/
theorem filter_lt_eq {ks : List Nat} (ordered : ks.Pairwise (· < ·)) (rows : Nat)
    : ks.filter (rows < ·)
      = (if rows + 1 ∈ ks then [rows + 1] else []) ++ ks.filter (rows + 1 < ·) := by
  induction ks with
  | nil => rfl
  | cons k rest ih =>
      obtain ⟨first, later⟩ := List.pairwise_cons.mp ordered
      have tail := ih later
      have absent (large : rows < k) : rows + 1 ∉ rest := fun hm => by
        have greater := first _ hm
        omega
      rcases Nat.lt_trichotomy k (rows + 1) with less | rfl | more
      · have other : rows + 1 ≠ k := by omega
        simp [show ¬ rows < k by omega, show ¬ rows + 1 < k by omega, tail, other]
      · rw [if_neg (absent (by omega))] at tail
        simp [tail]
      · have other : rows + 1 ≠ k := by omega
        rw [if_neg (absent (by omega))] at tail
        simp [absent (by omega), show rows < k by omega, more, tail, other]

/-- What is reached at a row is what was passed, and the row itself if it is a checkpoint. -/
theorem reached_eq (schedule : Schedule) (rows : Nat)
    : schedule.reached rows
      = schedule.passed rows ++ (if rows ∈ schedule.checkpoints then [rows] else []) :=
  filter_le_eq schedule.pairwise rows

theorem reached_succ (schedule : Schedule) (rows : Nat)
    : schedule.reached (rows + 1)
      = schedule.reached rows ++ (if rows + 1 ∈ schedule.checkpoints then [rows + 1] else []) := by
  rw [schedule.reached_eq, schedule.passed_succ]

/-- What lies ahead is the next row, if it is a checkpoint, and what lies beyond that. -/
theorem beyond_eq (schedule : Schedule) (rows : Nat)
    : schedule.beyond rows
      = (if rows + 1 ∈ schedule.checkpoints then [rows + 1] else [])
        ++ schedule.beyond (rows + 1) :=
  filter_lt_eq schedule.pairwise rows

/-- The next row is due exactly when it is a checkpoint. -/
theorem head?_beyond (schedule : Schedule) (rows : Nat)
    : ((schedule.beyond rows).head? == some (rows + 1))
      = decide (rows + 1 ∈ schedule.checkpoints) := by
  by_cases due : rows + 1 ∈ schedule.checkpoints
  · simp [schedule.beyond_eq rows, due]
  · have larger : some (rows + 1) ≠ (schedule.beyond (rows + 1)).head? := by
      intro first
      have member := List.mem_of_mem_head? first.symm
      simp [beyond] at member
    simp [schedule.beyond_eq rows, due, Ne.symm larger]

/-- More rows reach the same checkpoints first, and then perhaps others. -/
theorem reached_prefix_of_le (schedule : Schedule) {fewer more : Nat} (h : fewer ≤ more)
    : schedule.reached fewer <+: schedule.reached more := by
  induction more with
  | zero =>
      obtain rfl : fewer = 0 := by omega
      exact List.prefix_refl _
  | succ more ih =>
      rcases Nat.lt_or_eq_of_le h with less | rfl
      · rw [schedule.reached_succ]
        exact (ih (by omega)).trans (List.prefix_append _ _)
      · exact List.prefix_refl _

/-- What was passed stays in front, and more rows reach it too. -/
theorem passed_prefix_of_le (schedule : Schedule) {fewer more : Nat} (h : fewer ≤ more)
    : schedule.passed fewer <+: schedule.passed more := by
  cases fewer with
  | zero =>
      have none : schedule.passed 0 = [] := by simp [passed]
      simp [none]
  | succ fewer =>
      cases more with
      | zero => omega
      | succ more =>
          simp only [passed_succ]
          exact schedule.reached_prefix_of_le (by omega)

end Schedule

end JoinLatency

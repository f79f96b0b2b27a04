import JoinLatency.Proofs.Timer.Schedule

/-! Which lists of row counts are schedules. The check sees the first count and pairs of neighbours,
yet it admits exactly the lists that are positive and increase from any position to any later one.
A list that it refuses for its order is refused for the first two neighbours that do not increase.
-/

namespace JoinLatency

namespace Schedule

variable {ks : List Nat} {position earlier later : Nat}

-----------------------------------------------------------------------------------------
-- Neighbours that do not increase
-----------------------------------------------------------------------------------------

/-- Two neighbours at a position of a list and behind it, of which the later one is not larger. -/
structure DropsAt (ks : List Nat) (position earlier later : Nat) : Prop where
  here : ks[position]? = some earlier
  next : ks[position + 1]? = some later
  notLess : later ≤ earlier

/-- The first two neighbours of which the later one is not larger. -/
def DropsFirst (ks : List Nat) (earlier later : Nat) : Prop :=
  ∃ position,
    DropsAt ks position earlier later
    ∧ ∀ before < position, ∀ first second, ¬ DropsAt ks before first second

theorem dropsAt_zero {a b : Nat} {rest : List Nat}
    : DropsAt (a :: b :: rest) 0 earlier later ↔ a = earlier ∧ b = later ∧ b ≤ a := by
  constructor
  · rintro ⟨here, next, notLess⟩
    obtain rfl := Option.some.inj here
    obtain rfl := Option.some.inj next
    exact ⟨rfl, rfl, notLess⟩
  · rintro ⟨rfl, rfl, notLess⟩
    exact ⟨rfl, rfl, notLess⟩

theorem dropsAt_succ {a : Nat} {rest : List Nat}
    : DropsAt (a :: rest) (position + 1) earlier later ↔ DropsAt rest position earlier later :=
  ⟨fun ⟨here, next, notLess⟩ => ⟨here, next, notLess⟩,
    fun ⟨here, next, notLess⟩ => ⟨here, next, notLess⟩⟩

/-- Behind two neighbours that increase the first pair is that of the rest. -/
theorem dropsFirst_cons {a b : Nat} {rest : List Nat} (less : a < b)
    : DropsFirst (a :: b :: rest) earlier later ↔ DropsFirst (b :: rest) earlier later := by
  constructor
  · rintro ⟨position, drops, before⟩
    cases position with
    | zero => exact absurd (dropsAt_zero.mp drops).2.2 (Nat.not_le.mpr less)
    | succ position =>
        refine ⟨position, dropsAt_succ.mp drops, fun i hi first second other => ?_⟩
        exact before (i + 1) (Nat.succ_lt_succ hi) first second (dropsAt_succ.mpr other)
  · rintro ⟨position, drops, before⟩
    refine ⟨position + 1, dropsAt_succ.mpr drops, fun i hi first second other => ?_⟩
    cases i with
    | zero => exact absurd (dropsAt_zero.mp other).2.2 (Nat.not_le.mpr less)
    | succ i => exact before i (Nat.lt_of_succ_lt_succ hi) first second (dropsAt_succ.mp other)

/-- The check finds the first two neighbours that do not increase, by induction along the list. -/
theorem firstDrop_eq_some_iff
    : firstDrop ks = some (earlier, later) ↔ DropsFirst ks earlier later := by
  fun_induction firstDrop ks with
  | case1 a b rest less ih => rw [ih, dropsFirst_cons less]
  | case2 a b rest notLess =>
      have drops : DropsAt (a :: b :: rest) 0 a b := ⟨rfl, rfl, Nat.not_lt.mp notLess⟩
      constructor
      · rintro ⟨⟩
        exact ⟨0, drops, fun i hi => absurd hi (Nat.not_lt_zero i)⟩
      · rintro ⟨position, own, before⟩
        cases position with
        | zero =>
            obtain ⟨rfl, rfl, _⟩ := dropsAt_zero.mp own
            rfl
        | succ position => exact absurd drops (before 0 (Nat.succ_pos position) a b)
  | case3 ks short =>
      -- A list of at most one count has no neighbours.
      constructor
      · intro found
        cases found
      · rintro ⟨position, ⟨_, next, _⟩, _⟩
        cases ks with
        | nil => cases next
        | cons a rest =>
            cases rest with
            | nil => cases next
            | cons b rest => exact absurd rfl (short a b rest)

/-- No such neighbours are found exactly where all counts increase, not only neighbours. -/
theorem firstDrop_eq_none_iff : firstDrop ks = none ↔ ks.Pairwise (· < ·) := by
  constructor
  · intro none
    exact (increasing_of_firstDrop none).pairwise
  · intro ordered
    rw [Option.eq_none_iff_forall_ne_some]
    rintro ⟨earlier, later⟩ found
    obtain ⟨position, ⟨here, next, notLess⟩, _⟩ := firstDrop_eq_some_iff.mp found
    have less := pairwise_iff_positions.mp ordered _ _ _ _ (Nat.lt_succ_self position) here next
    exact absurd notLess (Nat.not_le.mpr less)

-----------------------------------------------------------------------------------------
-- Admitted and refused lists
-----------------------------------------------------------------------------------------

/-- The schedule of a list is the one that has its counts, and every schedule is that of its own. -/
theorem ofList_eq_ok_iff {schedule : Schedule}
    : ofList ks = .ok schedule ↔ schedule.checkpoints = ks := by
  constructor
  · intro admitted
    unfold ofList at admitted
    split at admitted
    · cases admitted
    · cases admitted
    · split at admitted
      · cases admitted
      · obtain rfl := Except.ok.inj admitted
        rfl
  · rintro rfl
    have none := firstDrop_eq_none_iff.mpr schedule.pairwise
    obtain ⟨ks, nonempty, positive, increasing⟩ := schedule
    match ks with
    | [] => exact absurd rfl nonempty
    | 0 :: rest => exact absurd (positive 0 rfl) (Nat.lt_irrefl 0)
    | (n + 1) :: rest =>
        unfold ofList
        dsimp only
        split
        next drop => cases none.symm.trans drop
        next => rfl

/-- A list has a schedule if it holds counts that are positive and all increase. -/
theorem exists_schedule_iff
    : (∃ schedule : Schedule, schedule.checkpoints = ks)
      ↔ ks ≠ [] ∧ (∀ k ∈ ks, 0 < k) ∧ ks.Pairwise (· < ·) := by
  constructor
  · rintro ⟨schedule, rfl⟩
    exact ⟨schedule.nonempty, fun _ => schedule.pos_of_mem, schedule.pairwise⟩
  · rintro ⟨nonempty, positive, ordered⟩
    let schedule : Schedule := {
      checkpoints := ks
      nonempty := nonempty
      positive := fun first member => positive first (List.mem_of_mem_head? member)
      increasing := increasing_of_firstDrop (firstDrop_eq_none_iff.mpr ordered)
    }
    exact ⟨schedule, rfl⟩

/-- Why a list of row counts is refused. That it is empty counts before that it starts at zero, and
both count before its order.
-/
inductive Refused : List Nat → ScheduleFault → Prop
  | empty : Refused [] .empty
  | notPositive (rest : List Nat) : Refused (0 :: rest) .notPositive
  | notIncreasing {first earlier later : Nat} {rest : List Nat} (positive : 0 < first)
    (drops : DropsFirst (first :: rest) earlier later)
    : Refused (first :: rest) (.notIncreasing earlier later)

/-- A fault of a list refuses it. -/
theorem Refused.ofList_eq {fault : ScheduleFault} (refused : Refused ks fault)
    : ofList ks = .error (.invalidSchedule fault) := by
  cases refused with
  | empty => rfl
  | notPositive rest => rfl
  | @notIncreasing first earlier later rest positive drops =>
      obtain ⟨n, rfl⟩ := Nat.exists_eq_add_one.mpr positive
      have found := firstDrop_eq_some_iff.mpr drops
      unfold ofList
      dsimp only
      split
      next drop =>
        cases found.symm.trans drop
        rfl
      next drop => cases found.symm.trans drop

/-- A list is refused for a fault that it has, and for no other. -/
theorem ofList_eq_error_iff {error : Error}
    : ofList ks = .error error ↔ ∃ fault, Refused ks fault ∧ error = .invalidSchedule fault := by
  constructor
  · intro failed
    unfold ofList at failed
    split at failed
    · exact ⟨_, .empty, (Except.error.inj failed).symm⟩
    · exact ⟨_, .notPositive _, (Except.error.inj failed).symm⟩
    next n rest =>
      split at failed
      next earlier later drop =>
        have drops := firstDrop_eq_some_iff.mp drop
        exact ⟨_, .notIncreasing (Nat.succ_pos n) drops, (Except.error.inj failed).symm⟩
      next => cases failed
  · rintro ⟨fault, refused, rfl⟩
    exact refused.ofList_eq

/-- A list of row counts is a schedule if and only if it is not empty, all its counts are positive
and the count at any position is smaller than the one at any later position. Any other list is
refused, and one that starts above zero is refused with a message that names its first two
neighbours that do not increase. A schedule has the counts of its list, and the search for a count
finds these alone.
-/
theorem ofList_admits_ordered (ks : List Nat)
    : ((∃ schedule, ofList ks = .ok schedule)
        ↔ ks ≠ []
          ∧ (∀ k ∈ ks, 0 < k)
          ∧ ∀ i j a b : Nat, i < j → ks[i]? = some a → ks[j]? = some b → a < b)
      ∧ (∀ error,
          ofList ks = .error error
          ↔ ∃ fault, Refused ks fault ∧ error = .invalidSchedule fault)
      ∧ (∀ error first, ofList ks = .error error → ks.head? = some first → 0 < first →
          ∃ earlier later,
            DropsFirst ks earlier later
            ∧ error.message
              = "Invalid checkpoint schedule: checkpoints must be strictly increasing ("
                ++ toString earlier ++ " is followed by " ++ toString later ++ ")")
      ∧ ∀ schedule, ofList ks = .ok schedule →
          schedule.checkpoints = ks
          ∧ ∀ count, schedule.contains count = true ↔ count ∈ ks := by
  refine ⟨?_, fun error => ofList_eq_error_iff, ?_, ?_⟩
  · rw [← pairwise_iff_positions, ← exists_schedule_iff]
    exact exists_congr fun _ => ofList_eq_ok_iff
  · intro error first failed starts positive
    obtain ⟨fault, refused, rfl⟩ := ofList_eq_error_iff.mp failed
    cases refused with
    | empty => cases starts
    | notPositive rest =>
        obtain rfl := Option.some.inj starts
        exact absurd positive (Nat.lt_irrefl 0)
    | @notIncreasing _ earlier later _ _ drops => exact ⟨earlier, later, drops, rfl⟩
  · intro schedule admitted
    obtain rfl := ofList_eq_ok_iff.mp admitted
    exact ⟨rfl, fun count => schedule.contains_iff count⟩

/-- A schedule that is searched at both ends and between, and a list in which two pairs of
neighbours do not increase.
-/
theorem ofList_admits_ordered_two_drops
    : ∃ schedule error,
        ofList [2, 5, 10] = .ok schedule
        ∧ schedule.contains 2 = true
        ∧ schedule.contains 10 = true
        ∧ schedule.contains 7 = false
        ∧ ofList [1, 5, 9, 4, 6, 2] = .error error
        ∧ [1, 5, 9, 4, 6, 2].head? = some 1
        ∧ 0 < 1
        ∧ DropsFirst [1, 5, 9, 4, 6, 2] 9 4
        ∧ error.message
          = "Invalid checkpoint schedule: checkpoints must be strictly increasing "
            ++ "(9 is followed by 4)" := by
  obtain ⟨⟨_, accepts⟩, _, _, search⟩ := ofList_admits_ordered [2, 5, 10]
  obtain ⟨_, _, name, _⟩ := ofList_admits_ordered [1, 5, 9, 4, 6, 2]
  have ordered : [2, 5, 10].Pairwise (· < ·) := by decide
  obtain ⟨schedule, admitted⟩ := accepts ⟨by decide, by decide, pairwise_iff_positions.mp ordered⟩
  obtain ⟨_, counts⟩ := search schedule admitted
  have failed : ofList [1, 5, 9, 4, 6, 2] = .error (.invalidSchedule (.notIncreasing 9 4)) := rfl
  obtain ⟨earlier, later, drops, message⟩ := name _ 1 failed rfl (by decide)
  obtain ⟨rfl, rfl⟩ : 9 = earlier ∧ 4 = later := by
    have found : some (9, 4) = some (earlier, later) := firstDrop_eq_some_iff.mpr drops
    simpa using found
  refine ⟨schedule, _, admitted, (counts 2).mpr (by decide), (counts 10).mpr (by decide), ?_,
    failed, rfl, by decide, drops, message.trans (by decide +kernel)⟩
  exact Bool.eq_false_iff.mpr (mt (counts 7).mp (by decide))

end Schedule

end JoinLatency

import JoinLatency.Error
import JoinLatency.Json.Record

/-! Checkpoint schedules: non-empty, strictly increasing lists of positive row counts. The check
looks at the first element and at neighbours only, and membership is a binary search.
-/

namespace JoinLatency

/-- Whether every element is smaller than the next one. -/
def Increasing : List Nat → Prop
  | a :: b :: rest => a < b ∧ Increasing (b :: rest)
  | _ => True

/-- The row counts at which a run is sampled. -/
structure Schedule where
  checkpoints : List Nat
  nonempty : checkpoints ≠ []
  positive : ∀ first ∈ checkpoints.head?, 0 < first
  increasing : Increasing checkpoints

namespace Schedule

/-- The first pair of neighbours that does not increase. -/
def firstDrop : List Nat → Option (Nat × Nat)
  | a :: b :: rest => if a < b then firstDrop (b :: rest) else some (a, b)
  | _ => none

/-- A list without such a pair increases. -/
theorem increasing_of_firstDrop {ks : List Nat} (h : firstDrop ks = none) : Increasing ks := by
  fun_induction firstDrop ks with
  | case1 a b rest hlt ih => exact ⟨hlt, ih h⟩
  | case2 a b rest hge => cases h
  | case3 ks hne =>
      match ks, hne with
      | [], _ => trivial
      | [_], _ => trivial
      | a :: b :: rest, hne => exact absurd rfl (hne a b rest)

/-- The schedule of a list of row counts, if it is one. -/
def ofList (ks : List Nat) : Except Error Schedule :=
  match ks with
  | [] => .error (.invalidSchedule .empty)
  | 0 :: _ => .error (.invalidSchedule .notPositive)
  | (n + 1) :: rest =>
      match drop : firstDrop ((n + 1) :: rest) with
      | some (earlier, later) => .error (.invalidSchedule (.notIncreasing earlier later))
      | none =>
          .ok {
            checkpoints := (n + 1) :: rest
            nonempty := by simp
            positive := by simp
            increasing := increasing_of_firstDrop drop
          }

/-- The number of checkpoints. -/
def size (schedule : Schedule) : Nat :=
  schedule.checkpoints.length

/-- Whether a sorted array holds a value between two positions, by halving the range. -/
def searchBetween (values : Array Nat) (value low high : Nat) : Bool :=
  if low < high then
    let middle := low + (high - low) / 2
    match values[middle]? with
    | none => false
    | some found =>
        if found = value then true
        else if found < value then searchBetween values value (middle + 1) high
        else searchBetween values value low middle
  else false
termination_by high - low

/-- Whether a row count is a checkpoint. -/
def contains (schedule : Schedule) (count : Nat) : Bool :=
  let values := schedule.checkpoints.toArray
  searchBetween values count 0 values.size

/-- A schedule is a list of row counts. -/
def toJson (schedule : Schedule) : Json :=
  .ofList .ofNat schedule.checkpoints

/-- The schedule of a list of row counts; one that is not accepted is not read. -/
def ofJson? (value : Json) : Option Schedule := do
  let ks ← Json.list? Json.natural? value
  (ofList ks).toOption

end Schedule

end JoinLatency

import JoinLatency.Error
import JoinLatency.Time.Duration

/-! Sources of rows: each fetch answers with a row, the end or a failure, and moves a clock, unless
the clock cannot be moved that far. A source yields finitely many rows, counted down by a measure.
-/

namespace JoinLatency

/-- The answer to one fetch. -/
inductive Fetch
  | row
  | finished
  | failed (error : FetchError)
  deriving DecidableEq, Repr

/-- A source of rows with a clock. -/
class RowSource (σ : Type) where
  /-- The reading of the clock. -/
  now : σ → Duration
  /-- The answer to the next fetch, and the source after it. There is none if the clock would be
  moved past its last reading.
  -/
  fetch : σ → Option (Fetch × σ)
  /-- A bound on the rows to come. -/
  remaining : σ → Nat
  /-- Every row lowers the bound. -/
  remaining_lt {source rest : σ}
    : fetch source = some (.row, rest) → remaining rest < remaining source

/-! ## Scripts -/

/-- A scripted source: the reading of its clock, and for each fetch to come the reading after
it and the answer. A script that is used up answers with the end.
-/
structure Script where
  reading : Duration
  events : List (Duration × Fetch)
  deriving DecidableEq, Repr

/-- One fetch from a script. -/
def Script.fetch (script : Script) : Fetch × Script :=
  match script.events with
  | [] => (.finished, script)
  | (reading, answer) :: rest => (answer, { reading, events := rest })

instance : RowSource Script where
  now := Script.reading
  fetch script := some script.fetch
  remaining script := script.events.length
  remaining_lt {script rest} h := by
    obtain ⟨reading, events⟩ := script
    cases events with
    | nil => simp [Script.fetch] at h
    | cons event later =>
        obtain ⟨_, rfl⟩ := Prod.mk.inj (Option.some.inj h)
        exact Nat.lt_succ_self _

/-! ## Synthetic cursors -/

/-- A source of a fixed number of rows at a fixed delay, on a simulated clock. An optional
failure strikes once a number of rows has been fetched, and then again at every fetch.
-/
structure SyntheticCursor where
  clock : Duration
  rows : Nat
  delay : Duration
  failure : Option (Nat × FetchError) := none
  fetched : Nat := 0
  deriving DecidableEq, Repr

/-- One fetch from a synthetic cursor. A failure that is due comes before the end of the rows, and
neither of them moves the clock.
-/
def SyntheticCursor.fetch (cursor : SyntheticCursor) : Option (Fetch × SyntheticCursor) :=
  let due := cursor.failure.filter fun failure => failure.1 ≤ cursor.fetched
  match due with
  | some (_, error) => some (.failed error, cursor)
  | none =>
      if cursor.rows ≤ cursor.fetched then some (.finished, cursor)
      else
        (cursor.clock.plus? cursor.delay).map fun clock =>
          (.row, { cursor with clock, fetched := cursor.fetched + 1 })

instance : RowSource SyntheticCursor where
  now := SyntheticCursor.clock
  fetch := SyntheticCursor.fetch
  remaining cursor := cursor.rows - cursor.fetched
  remaining_lt {cursor rest} h := by
    simp only [SyntheticCursor.fetch] at h
    split at h
    · simp at h
    · split at h
      · simp at h
      next more =>
        obtain ⟨clock, _, next⟩ := Option.map_eq_some_iff.mp h
        obtain ⟨_, rfl⟩ := Prod.mk.inj next
        dsimp only
        omega

end JoinLatency

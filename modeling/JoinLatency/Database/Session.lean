import JoinLatency.Database.Store
import JoinLatency.Session.Basic

/-! Sessions on a database. A cursor runs its statement at the first fetch, and the session takes
the effect over when the cursor comes back. The clock moves by the same time with every fetch, as
far as it goes.
-/

namespace JoinLatency.Database

/-- A session on a store, with its clock and the time that a fetch takes. -/
structure DatabaseSession where
  store : Store
  clock : Duration := .zero
  tick : Duration := .zero
  deriving Repr

/-- A cursor over the outcome of a statement. It is active between its first row and its end, and
only then an interrupt reaches it.
-/
structure DatabaseCursor where
  store : Store
  outcome : Outcome
  clock : Duration
  tick : Duration
  active : Bool := false
  deriving Repr

namespace DatabaseCursor

/-- One fetch. The first one has the effect of the statement, and a fault strikes once. -/
def fetch (cursor : DatabaseCursor) : Fetch × DatabaseCursor :=
  let moved : DatabaseCursor :=
    {
      cursor with
      store := cursor.outcome.after
      clock := (cursor.clock.plus? cursor.tick).getD .longest
    }
  match cursor.outcome.rows, cursor.outcome.fault with
  | rows + 1, _ => (.row, { moved with outcome := { cursor.outcome with rows }, active := true })
  | 0, some fault =>
      (.failed fault.fetchError,
        { moved with outcome := { cursor.outcome with fault := none }, active := false })
  | 0, none => (.finished, { moved with active := false })

/-- An interrupt ends an active cursor with the next fetch. -/
def interrupt (cursor : DatabaseCursor) : DatabaseCursor :=
  if cursor.active then
    { cursor with
      outcome := { cursor.outcome with rows := 0, fault := some .interrupted } }
  else cursor

end DatabaseCursor

instance : RowSource DatabaseCursor where
  now := DatabaseCursor.clock
  fetch cursor := some cursor.fetch
  remaining cursor := cursor.outcome.rows
  remaining_lt {cursor rest} h := by
    simp only [Option.some.injEq, DatabaseCursor.fetch] at h
    cases rows : cursor.outcome.rows with
    | succ left =>
        rw [rows] at h
        obtain ⟨_, rfl⟩ := Prod.mk.inj h
        exact Nat.lt_succ_self left
    | zero => cases fault : cursor.outcome.fault <;> simp [rows, fault] at h

namespace DatabaseSession

/-- The keyword of the statements that apply settings. -/
def keyword : String := "PRAGMA"

/-- The session after its store changed. -/
def withStore (session : DatabaseSession) (result : Except Fault Unit × Store)
    : Except Error Unit × DatabaseSession :=
  (result.1.mapError Fault.error, { session with store := result.2 })

/-- A batch of statements. -/
def execute (session : DatabaseSession) (sql : String) : Except Error Unit × DatabaseSession :=
  session.withStore (session.store.execute sql)

/-- Batches up to the first that fails. -/
def executeAll (session : DatabaseSession) : List String → Except Error Unit × DatabaseSession
  | [] => (.ok (), session)
  | sql :: rest =>
      match session.execute sql with
      | (.error error, session) => (.error error, session)
      | (.ok (), session) => session.executeAll rest

/-- The cursor of a query. -/
def submit (session : DatabaseSession) (sql : String)
    : Except Error DatabaseCursor × DatabaseSession :=
  let cursor := (session.store.submit sql).map fun outcome =>
    ({ session with outcome } : DatabaseCursor)
  (cursor.mapError Fault.error, session)

end DatabaseSession

instance : Session DatabaseSession DatabaseCursor where
  now := DatabaseSession.clock
  configure session settings := session.executeAll (settings.statements DatabaseSession.keyword)
  execute := DatabaseSession.execute
  submit := DatabaseSession.submit
  release session cursor := { session with store := cursor.store, clock := cursor.clock }

end JoinLatency.Database

import JoinLatency.Session.Synthetic

/-! Rehearsals are synthetic sessions that can also refuse statements, answer some queries with
row counts of their own, and take time before a cursor is lent out.
-/

namespace JoinLatency

/-- The operations that a rehearsal can refuse. -/
inductive Refusable
  | query
  | batch
  | settings
  deriving DecidableEq, Repr

/-- A refusal of the statements of one operation that contain a pattern. -/
structure Refusal where
  operation : Refusable
  pattern : String
  error : Error
  deriving Repr

/-- A synthetic session with refusals, row counts by query, and a latency. -/
structure Rehearsal where
  session : SyntheticSession
  refusals : List Refusal := []
  rowCounts : List (String × Nat) := []
  latency : Duration := .zero
  deriving Repr

namespace Rehearsal

/-- The error of the first refusal that applies to a statement of an operation. -/
def refusal? (rehearsal : Rehearsal) (operation : Refusable) (statement : String)
    : Option Error :=
  (rehearsal.refusals.find? fun refusal =>
    refusal.operation == operation && containsText statement refusal.pattern).map (·.error)

/-- The outcome of an operation that may have been refused. -/
def outcome : Option Error → Except Error Unit
  | none => .ok ()
  | some error => .error error

/-- The rehearsal after some statements were recorded. -/
def record (rehearsal : Rehearsal) (statements : List String) : Rehearsal :=
  { rehearsal with session := rehearsal.session.record statements }

/-- Settings are recorded as a whole before the first refusal among them counts. -/
def configure (rehearsal : Rehearsal) (settings : Settings) : Except Error Unit × Rehearsal :=
  let statements := settings.statements SyntheticSession.keyword
  (outcome (statements.findSome? (rehearsal.refusal? .settings)), rehearsal.record statements)

/-- A batch is recorded before it is refused. -/
def execute (rehearsal : Rehearsal) (sql : String) : Except Error Unit × Rehearsal :=
  (outcome (rehearsal.refusal? .batch sql), rehearsal.record [sql])

/-- A cursor with a row count of its own never fails. -/
def cursor (rehearsal : Rehearsal) (sql : String) : SyntheticCursor :=
  let cursor := rehearsal.session.cursor sql
  match rehearsal.rowCounts.find? fun entry => containsText sql entry.1 with
  | some (_, rows) => { cursor with rows, failure := none }
  | none => cursor

/-- A query is refused before it is recorded; otherwise its cursor comes after the latency, if the
clock can be moved on by it.
-/
def submit (rehearsal : Rehearsal) (sql : String) : Except Error SyntheticCursor × Rehearsal :=
  match rehearsal.refusal? .query sql with
  | some error => (.error error, rehearsal)
  | none =>
      let cursor := rehearsal.cursor sql
      match cursor.clock.plus? rehearsal.latency with
      | none => (.error .clockOverflow, rehearsal.record [sql])
      | some clock => (.ok { cursor with clock }, rehearsal.record [sql])

end Rehearsal

instance : Session Rehearsal SyntheticCursor where
  now rehearsal := rehearsal.session.clock
  configure := Rehearsal.configure
  execute := Rehearsal.execute
  submit := Rehearsal.submit
  release rehearsal cursor :=
    { rehearsal with session := { rehearsal.session with clock := cursor.clock } }

end JoinLatency

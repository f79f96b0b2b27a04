import JoinLatency.Settings
import JoinLatency.Timer.RowSource

/-! Sessions on a database: they apply settings, execute statements, and lend out a cursor for
one query at a time. Session and cursor share a clock.
-/

namespace JoinLatency

/-- A session `S` with cursors `C`. Every operation returns the session after it, also when it
fails. One that would move the clock past its last reading fails with the error that ends the
program.
-/
class Session (S : Type) (C : outParam Type) [RowSource C] where
  /-- The reading of the clock. -/
  now : S → Duration
  /-- Applies settings. -/
  configure : S → Settings → Except Error Unit × S
  /-- Executes a batch of statements. -/
  execute : S → String → Except Error Unit × S
  /-- Submits a query and lends out its cursor. -/
  submit : S → String → Except Error C × S
  /-- Takes back a cursor. -/
  release : S → C → S

end JoinLatency

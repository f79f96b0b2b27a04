import JoinLatency.Error
import JoinLatency.Time.Seconds

/-! Run logs are texts that grow at their end. Any operation of a log may fail, and then nothing
more is written to it. A log of limited capacity keeps the bytes that fit, and every write past them
fails.
-/

namespace JoinLatency

/-- A log that texts are written to. Its status is the outcome of the last operation. -/
class Sink (W : Type) where
  /-- The log after a text was written to it, which it may hold back. -/
  write : W → String → W
  /-- The log after it handed on what it held back. -/
  flush : W → W
  /-- The fault of the last operation, if it failed. -/
  status : W → Except IoFault Unit

namespace Sink

variable {W : Type} [Sink W]

/-- A log with a text at its end, unless an operation has failed before. -/
def record (log : W) (text : String) : W :=
  match status log with
  | .ok () => write log text
  | .error _ => log

/-- A log without anything held back, unless an operation has failed before. -/
def settle (log : W) : W :=
  match status log with
  | .ok () => flush log
  | .error _ => log

end Sink

/-! ## Texts -/

/-- Everything written to a log, and the number of bytes that it can hold. -/
structure Log where
  text : String := ""
  capacity : Option Nat := none
  deriving DecidableEq, Repr, Inhabited

namespace Log

/-- Whether more has been written than the log can hold. -/
def overfull (log : Log) : Bool :=
  match log.capacity with
  | none => false
  | some capacity => capacity < log.text.utf8ByteSize

/-- The bytes that the log holds: the first ones written. -/
def held (log : Log) : ByteArray :=
  match log.capacity with
  | none => log.text.toUTF8
  | some capacity => log.text.toUTF8.extract 0 capacity

/-- The log after a text was written to it. -/
def write (log : Log) (text : String) : Log :=
  { log with text := log.text ++ text }

/-- The outcome of the last write. -/
def status (log : Log) : Except IoFault Unit :=
  if log.overfull then .error .logFull else .ok ()

/-- A log without a capacity is never overfull. -/
theorem overfull_of_unlimited {log : Log} (h : log.capacity = none) : log.overfull = false := by
  simp [overfull, h]

end Log

/-- A text holds nothing back. -/
instance : Sink Log where
  write := Log.write
  flush log := log
  status := Log.status

/-! ## Lines -/

namespace LogLine

variable {R : Type} [Seconds R]

/-- Six decimal places for every time but the total. -/
def places : Nat := 6

/-- A message on a line of its own. -/
def note (message : String) : String :=
  message ++ "\n"

/-- The lines that open a run: a rule, the wall time, and the numbered query. -/
def header (time label query : String) (iteration : Nat) : String :=
  "========================================================\n"
    ++ s!"Time of the test run: {time}\n{label}: {query} #{iteration}\n"

/-- The time that passed before the first fetch. -/
def timeBeforeFetch (seconds : R) : String :=
  s!"  time before fetch: {Seconds.fixed places seconds} sec\n"

/-- The state of a run after a number of rows. -/
def progress (fetched : Nat) (elapsed weighted : R) : String :=
  s!"{fetched}, {Seconds.fixed places elapsed}, {Seconds.fixed places weighted}\n"

/-- The state of a run that stopped between two checkpoints. -/
def finalFetch (fetched : Nat) (elapsed weighted : R) : String :=
  "Final fetch count before exit: " ++ progress fetched elapsed weighted

/-- The lines that close a run. -/
def totals (fetched : Nat) (elapsed : R) : String :=
  s!"Total joined tuples fetched: {fetched}, {Seconds.fixed places elapsed}\n"
    ++ s!"Time of current query run: {Seconds.fixed 2 elapsed} sec\n\n"

/-- The note of a failed fetch. -/
def failure : FetchError → String
  | .canceled message => note ("Query was canceled: " ++ message)
  | .connectionLost message => note ("Database connection issue: " ++ message)
  | .other message => note ("An unexpected error occurred: " ++ message)

end LogLine

end JoinLatency

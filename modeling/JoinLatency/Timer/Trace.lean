import JoinLatency.Error
import JoinLatency.Json.Record
import JoinLatency.Time.Seconds

/-! What a run leaves: its samples, the number of rows and why it stopped. A trace of a run or of
a list of samples is never empty; a floor sample stands in for missing ones.
-/

namespace JoinLatency

/-- Whether a sample was due at its row count or closes a run between two checkpoints. -/
inductive SampleKind
  | checkpoint
  | overflow
  deriving DecidableEq, Repr

/-- The time it took to fetch a number of rows, plain and decayed. -/
structure Sample (R : Type) where
  count : Nat
  elapsed : R
  decayed : R
  kind : SampleKind
  deriving DecidableEq, Repr

/-- The sample of a run without rows. -/
def Sample.floor {R : Type} [Seconds R] : Sample R where
  count := 0
  elapsed := Seconds.zero
  decayed := Seconds.zero
  kind := .overflow

/-- Whether a sample was taken at a checkpoint. -/
def Sample.isCheckpoint {R : Type} (sample : Sample R) : Bool :=
  sample.kind == .checkpoint

/-- Why a run stopped. -/
inductive StopReason
  | exhausted
  | budgetExceeded
  | canceled (message : String)
  | failed (message : String)
  deriving DecidableEq, Repr

/-- The result of a run. -/
structure Trace (R : Type) where
  samples : List (Sample R)
  fetched : Nat
  stop : StopReason
  deriving DecidableEq, Repr

namespace Trace

variable {R : Type}

/-- A trace with at least the floor sample. -/
def withFloor [Seconds R] (samples : List (Sample R)) (fetched : Nat) (stop : StopReason)
    : Trace R where
  samples := if samples.isEmpty then [Sample.floor] else samples
  fetched := fetched
  stop := stop

/-- The trace of given samples; the last one tells the number of rows. -/
def ofSamples [Seconds R] (samples : List (Sample R)) (stop : StopReason) : Trace R :=
  withFloor samples ((samples.getLast?.map (·.count)).getD 0) stop

/-- The last sample. -/
def terminal? (trace : Trace R) : Option (Sample R) :=
  trace.samples.getLast?

/-- Whether a trace has no samples. -/
def isEmpty (trace : Trace R) : Bool :=
  trace.samples.isEmpty

end Trace

/-! ## Data values -/

/-- The names of the sample kinds. -/
def SampleKind.names : List (String × SampleKind) :=
  [("checkpoint", .checkpoint), ("overflow", .overflow)]

/-- The name of a sample kind. -/
def SampleKind.name : SampleKind → String
  | .checkpoint => "checkpoint"
  | .overflow => "overflow"

/-- A sample is a record of its count, its two times and its kind. -/
def Sample.toJson (sample : Sample Float) : Json :=
  .record [
    ("count", .ofNat sample.count),
    ("elapsed_seconds", .ofFloat sample.elapsed),
    ("decayed_seconds", .ofFloat sample.decayed),
    ("kind", .ofString sample.kind.name)
  ]

/-- The sample of a record. -/
def Sample.ofJson? (value : Json) : Option (Sample Float) := do
  let shape : Json.Shape := {
    names := ["count", "elapsed_seconds", "decayed_seconds", "kind"]
  }
  match ← shape.fields? value with
  | [count, elapsed, decayed, kind] =>
      return {
        count := ← Json.required? Json.natural? count
        elapsed := ← Json.required? Json.float? elapsed
        decayed := ← Json.required? Json.float? decayed
        kind := ← Json.required? (Json.choice? SampleKind.names) kind
      }
  | _ => none

/-- A stop reason is a record of its name, with the message of a cancel or a failure. -/
def StopReason.toJson : StopReason → Json
  | .exhausted => .record [("reason", .ofString "exhausted")]
  | .budgetExceeded => .record [("reason", .ofString "budget_exceeded")]
  | .canceled message =>
      .record [("reason", .ofString "canceled"), ("message", .ofString message)]
  | .failed message => .record [("reason", .ofString "failed"), ("message", .ofString message)]

/-- Stop reasons by name, each with its message: a plain reason has none or null. -/
def StopReason.ofMessage? : String → Option Json → Option StopReason
  | "exhausted", none | "exhausted", some .null => some .exhausted
  | "budget_exceeded", none | "budget_exceeded", some .null => some .budgetExceeded
  | "canceled", some message => (Json.text? message).map .canceled
  | "failed", some message => (Json.text? message).map .failed
  | _, _ => none

/-- The name of a stop reason, as a choice. -/
def StopReason.names : List (String × String) :=
  ["exhausted", "budget_exceeded", "canceled", "failed"].map fun name => (name, name)

/-- The stop reason of a record. -/
def StopReason.ofJson? (value : Json) : Option StopReason := do
  let shape : Json.Shape := { names := ["reason", "message"] }
  match ← shape.fields? value with
  | [reason, message] =>
      StopReason.ofMessage? (← Json.required? (Json.choice? StopReason.names) reason) message
  | _ => none

/-- A trace is a record of its samples, its number of rows and its stop reason. -/
def Trace.toJson (trace : Trace Float) : Json :=
  .record [
    ("samples", .ofList Sample.toJson trace.samples),
    ("fetched", .ofNat trace.fetched),
    ("stop", trace.stop.toJson)
  ]

/-- The trace of a record. -/
def Trace.ofJson? (value : Json) : Option (Trace Float) := do
  let shape : Json.Shape := { names := ["samples", "fetched", "stop"] }
  match ← shape.fields? value with
  | [samples, fetched, stop] =>
      return {
        samples := ← Json.required? (Json.list? Sample.ofJson?) samples
        fetched := ← Json.required? Json.natural? fetched
        stop := ← Json.required? StopReason.ofJson? stop
      }
  | _ => none

end JoinLatency

import JoinLatency.Average.Groups
import JoinLatency.Json.Record
import JoinLatency.Time.Moment

/-! Reports of sweeps: what became of every variant and of every group.
-/

namespace JoinLatency

/-- Whether all repetitions of a variant and its log were finished. -/
inductive VariantStatus
  | completed
  | failed
  deriving DecidableEq, Repr

/-- What became of a variant: its label, its query if it has one, the traces of the repetitions
that were finished, and their average or the message of the failure.
-/
structure VariantOutcome where
  variant : String
  query : Option String
  status : VariantStatus
  error : Option String
  runs : List (Trace Float)
  averaged : Option AveragedTrace
  deriving Repr

/-- What became of a group: its label, the path of its summary, the number of its completed
variants, its lines, and the message of a failure to write them.
-/
structure SummaryOutcome where
  group : String
  path : String
  variants : Nat
  lines : List SummaryLine
  error : Option String
  deriving Repr

/-- What became of a sweep. -/
structure Report where
  startedAt : Moment
  finishedAt : Moment
  variants : List VariantOutcome
  summaries : List SummaryOutcome
  deriving Repr

/-- The number of variants that were completed. -/
def Report.completed (report : Report) : Nat :=
  (report.variants.filter (·.status == .completed)).length

/-- The number of variants that failed. -/
def Report.failed (report : Report) : Nat :=
  report.variants.length - report.completed

/-! ## Data values -/

/-- The names of the statuses. -/
def VariantStatus.names : List (String × VariantStatus) :=
  [("completed", .completed), ("failed", .failed)]

/-- The name of a status. -/
def VariantStatus.name : VariantStatus → String
  | .completed => "completed"
  | .failed => "failed"

/-- A summary line is a record. -/
def SummaryLine.toJson (line : SummaryLine) : Json :=
  .record [
    ("k", .ofNat line.k),
    ("unweighted", .ofFloat line.unweighted),
    ("weighted", .ofFloat line.weighted)
  ]

/-- The summary line of a record. -/
def SummaryLine.ofJson? (value : Json) : Option SummaryLine := do
  let shape : Json.Shape := { names := ["k", "unweighted", "weighted"] }
  match ← shape.fields? value with
  | [k, unweighted, weighted] =>
      return {
        k := ← Json.required? Json.natural? k
        unweighted := ← Json.required? Json.float? unweighted
        weighted := ← Json.required? Json.float? weighted
      }
  | _ => none

/-- A variant outcome is a record. -/
def VariantOutcome.toJson (outcome : VariantOutcome) : Json :=
  .record [
    ("variant", .ofString outcome.variant),
    ("query", .ofOption .ofString outcome.query),
    ("status", .ofString outcome.status.name),
    ("error", .ofOption .ofString outcome.error),
    ("runs", .ofList Trace.toJson outcome.runs),
    ("averaged", .ofOption AveragedTrace.toJson outcome.averaged)
  ]

/-- The variant outcome of a record. -/
def VariantOutcome.ofJson? (value : Json) : Option VariantOutcome := do
  let shape : Json.Shape := {
    names := ["variant", "query", "status", "error", "runs", "averaged"]
  }
  match ← shape.fields? value with
  | [variant, query, status, error, runs, averaged] =>
      return {
        variant := ← Json.required? Json.text? variant
        query := ← Json.nullable? Json.text? query
        status := ← Json.required? (Json.choice? VariantStatus.names) status
        error := ← Json.nullable? Json.text? error
        runs := ← Json.required? (Json.list? Trace.ofJson?) runs
        averaged := ← Json.nullable? AveragedTrace.ofJson? averaged
      }
  | _ => none

/-- A summary outcome is a record. -/
def SummaryOutcome.toJson (outcome : SummaryOutcome) : Json :=
  .record [
    ("group", .ofString outcome.group),
    ("path", .ofString outcome.path),
    ("variants", .ofNat outcome.variants),
    ("lines", .ofList SummaryLine.toJson outcome.lines),
    ("error", .ofOption .ofString outcome.error)
  ]

/-- The summary outcome of a record. -/
def SummaryOutcome.ofJson? (value : Json) : Option SummaryOutcome := do
  let shape : Json.Shape := { names := ["group", "path", "variants", "lines", "error"] }
  match ← shape.fields? value with
  | [group, path, variants, lines, error] =>
      return {
        group := ← Json.required? Json.text? group
        path := ← Json.required? Json.text? path
        variants := ← Json.required? Json.natural? variants
        lines := ← Json.required? (Json.list? SummaryLine.ofJson?) lines
        error := ← Json.nullable? Json.text? error
      }
  | _ => none

/-- The moment of a string. -/
def Moment.ofJson? (value : Json) : Option Moment :=
  (Json.text? value).bind Moment.ofText?

/-- A report is a record. -/
def Report.toJson (report : Report) : Json :=
  .record [
    ("started_at", .ofString report.startedAt.toText),
    ("finished_at", .ofString report.finishedAt.toText),
    ("variants", .ofList VariantOutcome.toJson report.variants),
    ("summaries", .ofList SummaryOutcome.toJson report.summaries)
  ]

/-- The report of a record. -/
def Report.ofJson? (value : Json) : Option Report := do
  let shape : Json.Shape := { names := ["started_at", "finished_at", "variants", "summaries"] }
  match ← shape.fields? value with
  | [startedAt, finishedAt, variants, summaries] =>
      return {
        startedAt := ← Json.required? Moment.ofJson? startedAt
        finishedAt := ← Json.required? Moment.ofJson? finishedAt
        variants := ← Json.required? (Json.list? VariantOutcome.ofJson?) variants
        summaries := ← Json.required? (Json.list? SummaryOutcome.ofJson?) summaries
      }
  | _ => none

end JoinLatency

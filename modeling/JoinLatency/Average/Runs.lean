import JoinLatency.Timer.Trace

/-! Averages over the repetitions of one variant. Samples are averaged position by position, as
far as the shortest trace reaches, under the counts and kinds of the first trace.
-/

namespace JoinLatency

/-- Where an average is filed: at a checkpoint, or with the samples taken elsewhere. -/
inductive Bucket
  | checkpoint (count : Nat)
  | others
  deriving DecidableEq, Repr

/-- The mean times at one position of a list of traces. -/
structure AveragedPoint where
  count : Nat
  kind : SampleKind
  meanElapsed : Float
  meanDecayed : Float
  deriving Repr

/-- The bucket of an averaged point. -/
def AveragedPoint.bucket (point : AveragedPoint) : Bucket :=
  match point.kind with
  | .checkpoint => .checkpoint point.count
  | .overflow => .others

/-- The averages of a list of traces and their number. -/
structure AveragedTrace where
  points : List AveragedPoint := []
  runs : Nat := 0
  deriving Repr, Inhabited

/-- The double of a number of terms. -/
def divisor (n : Nat) : Float :=
  Json.doubleOfNat n

/-- The point at one position: the sums of the times, from the left, divided by their number. -/
def averagePoint (tag : Sample Float) (samples : List (Sample Float)) : AveragedPoint where
  count := tag.count
  kind := tag.kind
  meanElapsed := samples.foldl (fun sum sample => sum + sample.elapsed) 0 / divisor samples.length
  meanDecayed := samples.foldl (fun sum sample => sum + sample.decayed) 0 / divisor samples.length

/-- The points of a list of sample lists, as long as none of them is used up. -/
def averagePoints (first : List (Sample Float)) (others : List (List (Sample Float)))
    : List AveragedPoint :=
  match first with
  | [] => []
  | tag :: rest =>
      if others.any List.isEmpty then []
      else
        averagePoint tag (tag :: others.filterMap List.head?)
          :: averagePoints rest (others.map List.tail)

/-- The average of a list of traces; no traces have no points. -/
def averageRuns (traces : List (Trace Float)) : AveragedTrace :=
  match traces with
  | [] => {}
  | first :: rest =>
      { points := averagePoints first.samples (rest.map (·.samples)), runs := traces.length }

/-! ## Texts -/

/-- The log lines of the averages of a query. -/
def AveragedTrace.logText (averaged : AveragedTrace) (query : String) : String :=
  let line (point : AveragedPoint) : String :=
    s!"K val:{point.count}\tAverage time (unweighted): {Decimal.fixed 6 point.meanElapsed}"
      ++ s!"\t Average time (weighted): {Decimal.fixed 6 point.meanDecayed}\n"
  s!"\tQuery: {query}\n" ++ String.join (averaged.points.map line)

/-- An averaged point is a record. -/
def AveragedPoint.toJson (point : AveragedPoint) : Json :=
  .record [
    ("count", .ofNat point.count),
    ("kind", .ofString point.kind.name),
    ("mean_elapsed", .ofFloat point.meanElapsed),
    ("mean_decayed", .ofFloat point.meanDecayed)
  ]

/-- The averaged point of a record. -/
def AveragedPoint.ofJson? (value : Json) : Option AveragedPoint := do
  let shape : Json.Shape := { names := ["count", "kind", "mean_elapsed", "mean_decayed"] }
  match ← shape.fields? value with
  | [count, kind, elapsed, decayed] =>
      return {
        count := ← Json.required? Json.natural? count
        kind := ← Json.required? (Json.choice? SampleKind.names) kind
        meanElapsed := ← Json.required? Json.float? elapsed
        meanDecayed := ← Json.required? Json.float? decayed
      }
  | _ => none

/-- An averaged trace is a record of its points and its number of runs. -/
def AveragedTrace.toJson (averaged : AveragedTrace) : Json :=
  .record [
    ("points", .ofList AveragedPoint.toJson averaged.points),
    ("runs", .ofNat averaged.runs)
  ]

/-- The averaged trace of a record. -/
def AveragedTrace.ofJson? (value : Json) : Option AveragedTrace := do
  let shape : Json.Shape := { names := ["points", "runs"] }
  match ← shape.fields? value with
  | [points, runs] =>
      return {
        points := ← Json.required? (Json.list? AveragedPoint.ofJson?) points
        runs := ← Json.required? Json.natural? runs
      }
  | _ => none

end JoinLatency

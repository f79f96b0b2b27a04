import JoinLatency.Query
import JoinLatency.Settings
import JoinLatency.Summary.Format
import JoinLatency.Timer.Run
import JoinLatency.Variant.Space

/-! Configurations of sweeps: what is run on which database, over which axes, how it is timed and
where its logs and summaries go. Every part has a default.
-/

namespace JoinLatency

/-- The configuration of a sweep. -/
structure Config where
  database : String := "postgres://localhost:5432/postgres"
  label : String := "BNL"
  checkpoints : List Nat := [
    10, 20, 30, 40, 50, 60, 70, 80, 90, 100, 150, 200, 250, 300, 350, 400, 450, 500, 550, 600,
    650, 700, 750, 800, 850, 900, 950, 1000, 1050, 1100, 1150, 1200, 2000, 3000, 4000, 5000,
    10000, 20000, 30000, 40000, 50000, 60000, 70000, 80000, 90000, 100000
  ]
  sigma : Float := 0.99
  budgetSeconds : Float := 900
  repetitions : Nat := 1
  progressInterval : Nat := 50
  settings : Settings := .nestedLoopOnly
  query : String :=
    "select * from part\x7bshuffle\x7d\x7bskew\x7d, supplier\x7bshuffle\x7d\x7bskew\x7d, "
      ++ "partsupp\x7bshuffle\x7d\x7bskew\x7d "
      ++ "where p_partkey = ps_partkey and s_suppkey = ps_suppkey;"
  axes : List Axis := [⟨"shuffle", ["1", "3", "4"]⟩, ⟨"skew", ["1_5"]⟩]
  groupBy : List String := []
  detailPath : String := "\x7bbase\x7d"
  summaryPath : String := "\x7bbase\x7d"
  summaryFormat : SummaryFormat := .pair
  missing : MissingPolicy := .skip
  reportPath : Option String := none
  deriving Repr

namespace Config

/-- The name that stands for the base of a path, besides the axes. -/
def baseName : String := "base"

/-- The timer of a configuration. The budget is checked before the schedule and the decay. -/
def timer (config : Config) : Except Error (Timer Float) := do
  if !(config.budgetSeconds.isFinite && 0 < config.budgetSeconds) then
    throw (.invalidConfig (.budgetNotPositive config.budgetSeconds))
  let schedule ← Schedule.ofList config.checkpoints
  let timer ← Timer.ofSigma schedule config.sigma
  return {
    timer with
    budget := Duration.ofDouble config.budgetSeconds
    progressInterval := config.progressInterval
  }

/-- The parameter space of a configuration. -/
def space (config : Config) : Except Error ParamSpace :=
  ParamSpace.ofAxes config.axes

/-- The query template of a configuration, under a grammar. -/
def queryTemplate (config : Config) (grammar : Grammar) : Except Error QueryTemplate :=
  QueryTemplate.ofSource grammar config.query

/-- The template of the paths of detail logs. -/
def detailTemplate (config : Config) : Except Error Template :=
  Template.ofSource config.detailPath

/-- The template of the paths of summaries. -/
def summaryTemplate (config : Config) : Except Error Template :=
  Template.ofSource config.summaryPath

end Config

end JoinLatency

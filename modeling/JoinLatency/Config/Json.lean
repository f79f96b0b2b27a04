import JoinLatency.Config.Validation
import JoinLatency.Files
import JoinLatency.Variant.Json

/-! Configurations as data values. A record of some of the fields lies over the default: what it
does not hold keeps its default, in whatever order the fields stand.
-/

namespace JoinLatency.Config

/-- The fields of a configuration. -/
inductive Field
  | database
  | label
  | checkpoints
  | sigma
  | budgetSeconds
  | repetitions
  | progressInterval
  | settings
  | query
  | axes
  | groupBy
  | detailPath
  | summaryPath
  | summaryFormat
  | missing
  | reportPath
  deriving DecidableEq, Repr

namespace Field

/-- All fields in the order in which they are written. -/
def all : List Field := [
    .database, .label, .checkpoints, .sigma, .budgetSeconds, .repetitions, .progressInterval,
    .settings, .query, .axes, .groupBy, .detailPath, .summaryPath, .summaryFormat, .missing,
    .reportPath
  ]

/-- The name of a field in a record. -/
def name : Field → String
  | .database => "database"
  | .label => "label"
  | .checkpoints => "checkpoints"
  | .sigma => "sigma"
  | .budgetSeconds => "time_budget_secs"
  | .repetitions => "repetitions"
  | .progressInterval => "progress_interval"
  | .settings => "settings"
  | .query => "query"
  | .axes => "axes"
  | .groupBy => "group_by"
  | .detailPath => "detail_path"
  | .summaryPath => "summary_path"
  | .summaryFormat => "summary_format"
  | .missing => "missing_values"
  | .reportPath => "report_path"

/-- The field with a name. -/
def ofName? (name : String) : Option Field :=
  all.find? fun field => field.name == name

/-- The value of a field in a configuration. -/
def encode (config : Config) : Field → Json
  | .database => .ofString config.database
  | .label => .ofString config.label
  | .checkpoints => .ofList .ofNat config.checkpoints
  | .sigma => .ofFloat config.sigma
  | .budgetSeconds => .ofFloat config.budgetSeconds
  | .repetitions => .ofNat config.repetitions
  | .progressInterval => .ofNat config.progressInterval
  | .settings => config.settings.toJson
  | .query => .ofString config.query
  | .axes => .ofList Axis.toJson config.axes
  | .groupBy => .ofList .ofString config.groupBy
  | .detailPath => .ofString config.detailPath
  | .summaryPath => .ofString config.summaryPath
  | .summaryFormat => .ofString config.summaryFormat.name
  | .missing => .ofString config.missing.name
  | .reportPath => .ofOption .ofString config.reportPath

/-- The configuration with a field set to a value, if it is one for that field. -/
def set? (config : Config) (value : Json) : Field → Option Config
  | .database => do return { config with database := ← Json.text? value }
  | .label => do return { config with label := ← Json.text? value }
  | .checkpoints => do return { config with checkpoints := ← Json.list? Json.natural? value }
  | .sigma => do return { config with sigma := ← Json.float? value }
  | .budgetSeconds => do return { config with budgetSeconds := ← Json.float? value }
  | .repetitions => do return { config with repetitions := ← Json.natural? value }
  | .progressInterval => do return { config with progressInterval := ← Json.natural? value }
  | .settings => do return { config with settings := ← Settings.ofJson? value }
  | .query => do return { config with query := ← Json.text? value }
  | .axes => do return { config with axes := ← Json.list? Axis.ofJson? value }
  | .groupBy => do return { config with groupBy := ← Json.list? Json.text? value }
  | .detailPath => do return { config with detailPath := ← Json.text? value }
  | .summaryPath => do return { config with summaryPath := ← Json.text? value }
  | .summaryFormat => do
      return { config with summaryFormat := ← Json.choice? SummaryFormat.names value }
  | .missing => do return { config with missing := ← Json.choice? MissingPolicy.names value }
  | .reportPath => do return { config with reportPath := ← Json.optional? Json.text? value }

end Field

/-- A configuration as a record of all its fields. -/
def toJson (config : Config) : Json :=
  .record (Field.all.map fun field => (field.name, field.encode config))

/-- The configuration that lays some field values over another one. -/
def overlay (config : Config) (values : List (Field × Json)) : Option Config :=
  values.foldlM (fun config (field, value) => field.set? config value) config

/-- A member of a record as a field with its value. -/
def member? (member : Option String × Json) : Option (Field × Json) := do
  return (← Field.ofName? (← member.1), member.2)

/-- The configuration of a record of known fields, each at most once, or of a list that holds the
first fields in order.
-/
def ofJson? : Json → Option Config
  | .object members => do
      let values ← members.mapM member?
      if (values.map (·.1)).Nodup then overlay {} values else none
  | .array items =>
      if items.length ≤ Field.all.length then overlay {} (Field.all.zip items) else none
  | _ => none

/-- The configuration of a data text, which is not validated. -/
def ofText (text : String) : Except Error Config :=
  match (Json.read? text).bind ofJson? with
  | some config => .ok config
  | none => .error .json

/-- The configuration in a file, if it is valid under a grammar. -/
def load (grammar : Grammar) (files : Files) (path : String) : Except Error Config :=
  match files.readText path with
  | .error fault => .error (.io fault)
  | .ok text => do
      let config ← ofText text
      config.validate grammar
      return config

end JoinLatency.Config

import JoinLatency.Decimal.Layout
import JoinLatency.Decimal.Literal
import JoinLatency.Text.Quoted

/-! Everything that can go wrong, as causes. A cause belongs to one category, the category fixes
the heading of its message, and one function writes the wording of each cause.
-/

namespace JoinLatency

open JoinLatency.Decimal

/-- Why a fetch yields no row. A canceled query ran into a limit of its server, a lost
connection ends the session, and any other failure ends the query alone.
-/
inductive FetchError
  | canceled (message : String)
  | connectionLost (message : String)
  | other (message : String)
  deriving DecidableEq, Repr

/-- The wording of a fetch failure. -/
def FetchError.message : FetchError → String
  | .canceled text => "query canceled: " ++ text
  | .connectionLost text => "connection lost: " ++ text
  | .other text => "fetch failed: " ++ text

/-- Why a list of row counts is no checkpoint schedule. -/
inductive ScheduleFault
  | empty
  | notPositive
  | notIncreasing (earlier later : Nat)
  deriving DecidableEq, Repr

/-- The wording of a schedule fault. -/
def ScheduleFault.message : ScheduleFault → String
  | .empty => "no checkpoints given"
  | .notPositive => "checkpoints must be positive row counts"
  | .notIncreasing earlier later =>
      s!"checkpoints must be strictly increasing ({earlier} is followed by {later})"

/-- Why a text is no template, or a template has no text. Each fault keeps the template. -/
inductive TemplateFault
  | unterminated (name source : String)
  | badName (name source : String)
  | unmatchedBrace (source : String)
  | unknownPlaceholder (name source : String)
  deriving DecidableEq, Repr

/-- The wording of a template fault. -/
def TemplateFault.message : TemplateFault → String
  | .unterminated name source => s!"unterminated placeholder `\x7b{name}` in `{source}`"
  | .badName name source => s!"bad placeholder name `{name}` in `{source}`"
  | .unmatchedBrace source =>
      s!"unmatched `\x7d` in `{source}` (use `\x7d\x7d` for a literal brace)"
  | .unknownPlaceholder name source => s!"unknown placeholder `\x7b{name}\x7d` in `{source}`"

/-- Why a text is not exactly one query. -/
inductive QueryFault
  | ungrammatical (sql : String)
  | notQuery (sql : String)
  | statementCount (count : Nat) (sql : String)
  deriving DecidableEq, Repr

/-- The wording of a query fault. -/
def QueryFault.message : QueryFault → String
  | .ungrammatical sql => s!"sql parser error: unexpected text in `{sql}`"
  | .notQuery sql => s!"only queries can be benchmarked: `{sql}`"
  | .statementCount count sql => s!"expected exactly one statement, found {count}: `{sql}`"

/-- Why a configuration cannot be run. -/
inductive ConfigFault
  | axisRepeated (name : String)
  | axisEmpty (name : String)
  | sigmaOutside (sigma : Float)
  | budgetNotPositive (seconds : Float)
  | noRepetitions
  | groupAxisUnknown (name : String)
  | detailPlaceholder (name : String)
  | summaryPlaceholder (name : String)
  | settingsPlaceholder (name : String)
  | unsupportedUrl (url : String)
  deriving Repr

/-- The wording of a configuration fault. -/
def ConfigFault.message : ConfigFault → String
  | .axisRepeated name => s!"axis `{name}` appears twice"
  | .axisEmpty name => s!"axis `{name}` has no values"
  | .sigmaOutside sigma =>
      "decay factor sigma must lie in (0, 1), got " ++ Layout.plain.text sigma
  | .budgetNotPositive seconds =>
      "time_budget_secs must be positive, got " ++ Layout.plain.text seconds
  | .noRepetitions => "repetitions must be at least 1"
  | .groupAxisUnknown name => s!"group_by names unknown axis `{name}`"
  | .detailPlaceholder name => s!"detail_path uses unknown placeholder `{name}`"
  | .summaryPlaceholder name =>
      s!"summary_path may only use `base` and group_by axes, found `{name}`"
  | .settingsPlaceholder name => s!"settings use unknown placeholder `{name}`"
  | .unsupportedUrl url => s!"unsupported database URL `{url}` (expected sqlite: or postgres://)"

/-- Why a line of a summary file is no entry. -/
inductive EntryFault
  | noTab
  | badValue (fault : LiteralFault)
  deriving DecidableEq, Repr

/-- The wording of an entry fault. -/
def EntryFault.message : EntryFault → String
  | .noTab => "expected `<k>\\t<value>`"
  | .badValue fault => "bad value: " ++ fault.message

/-- Why a file or a writer refuses an operation. -/
inductive IoFault
  | notFound
  | notDirectory
  | isDirectory
  | nameTooLong
  | nulInPath
  | notText
  | logFull
  deriving DecidableEq, Repr

/-- The wording of an input or output fault. -/
def IoFault.message : IoFault → String
  | .notFound => "No such file or directory (os error 2)"
  | .notDirectory => "Not a directory (os error 20)"
  | .isDirectory => "Is a directory (os error 21)"
  | .nameTooLong => "File name too long (os error 36)"
  | .nulInPath => "file name contained an unexpected NUL byte"
  | .notText => "stream did not contain valid UTF-8"
  | .logFull => "log full"

/-- Why no average of summary files exists. -/
inductive AverageFault
  | noInputs
  | noneReadable (inputs : Nat)
  deriving DecidableEq, Repr

/-- The wording of an averaging fault. -/
def AverageFault.message : AverageFault → String
  | .noInputs => "no summary files to average"
  | .noneReadable inputs => s!"none of the {inputs} summary files could be read"

/-- A failure with its cause. -/
inductive Error
  | invalidSchedule (fault : ScheduleFault)
  | invalidConfig (fault : ConfigFault)
  | template (fault : TemplateFault)
  | invalidParameter (name value : String)
  | query (fault : QueryFault)
  | connectionLost (message : String)
  | database (message : String)
  | malformedSummary (path : String) (line : Nat) (fault : EntryFault)
  | io (fault : IoFault)
  | json
  | average (fault : AverageFault)
  | clockOverflow
  deriving Repr

namespace Error

/-- The categories of failures that carry one text. -/
inductive Category
  | invalidSchedule
  | invalidConfig
  | template
  | query
  | connectionLost
  | database
  | io
  | json
  | other
  deriving DecidableEq, Repr

/-- A text under the heading of its category. -/
def Category.describe (text : String) : Category → String
  | .invalidSchedule => "Invalid checkpoint schedule: " ++ text
  | .invalidConfig => "Invalid configuration: " ++ text
  | .template => "Template error: " ++ text
  | .query => "SQL parse error: " ++ text
  | .connectionLost =>
      s!"Database connection lost: {text}\n"
        ++ "The current variant is aborted; remaining variants will still be attempted."
  | .database => "Database error: " ++ text
  | .io => "IO error: " ++ text
  | .json => "JSON error: " ++ text
  | .other => text

/-- A refused parameter is named and its value quoted. -/
def describeParameter (name value : String) : String :=
  s!"Invalid parameter `{name}`: {Text.quoted value} (allowed: letters, digits, `_` and `.`)"

/-- A malformed summary line is named by its file and number. -/
def describeLine (path : String) (line : Nat) (reason : String) : String :=
  s!"Malformed summary line {line} in {path}: {reason}"

/-- What is wrong with a data text. -/
def jsonFault : String := "unexpected text"

/-- The full message of a failure. -/
def message : Error → String
  | .invalidSchedule fault => Category.invalidSchedule.describe fault.message
  | .invalidConfig fault => Category.invalidConfig.describe fault.message
  | .template fault => Category.template.describe fault.message
  | .invalidParameter name value => describeParameter name value
  | .query fault => Category.query.describe fault.message
  | .connectionLost text => Category.connectionLost.describe text
  | .database text => Category.database.describe text
  | .malformedSummary path line fault => describeLine path line fault.message
  | .io fault => Category.io.describe fault.message
  | .json => Category.json.describe jsonFault
  | .average fault => Category.other.describe fault.message
  | .clockOverflow => "overflow when adding durations"

/-- Whether an error ends the program. A clock that would be moved past its last reading does, and
every other error ends no more than the work on which it arises.
-/
def endsProgram : Error → Bool
  | .clockOverflow => true
  | _ => false

end Error

end JoinLatency

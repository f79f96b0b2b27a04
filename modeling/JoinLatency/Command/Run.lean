import JoinLatency.Command.Basic
import JoinLatency.Command.Failure
import JoinLatency.Config.Json
import JoinLatency.Database.Connection
import JoinLatency.Session.Synthetic
import JoinLatency.Shuffle
import JoinLatency.Sql.Statement
import JoinLatency.Summary.Merge
import JoinLatency.Sweep.Run

/-! Running commands on a tree of files. A command that fails leaves the files as far as it got.
-/

namespace JoinLatency.Command

/-- What a command leaves: what it shows, or why it failed, the files, and whether the program ended
before the command was done.
-/
structure Finished where
  result : Except Failure String
  files : Files
  aborted : Bool := false

/-- What an error is the cause of. -/
def blame {α : Type} (context : String) (result : Except Error α) : Except Failure α :=
  result.mapError fun error => (Failure.ofError error).within context

/-- An error that is a failure of its own. -/
def fail {α : Type} (result : Except Error α) : Except Failure α :=
  result.mapError Failure.ofError

/-- A session on the database of an address text. A fetch takes a microsecond. -/
def connect (files : Files) (url : String) : Except Failure (Database.DatabaseSession × Files) :=
  blame s!"connecting to {url}" (Database.connect files url (Duration.ofParts 0 1000))

/-! ## Sweeps -/

/-- A report shows success if some variant was completed, should there be any, and if all summaries
were written.
-/
def checkReport (report : Report) : Except Failure String :=
  if !report.variants.isEmpty && report.completed == 0 then
    .error ⟨[s!"all {report.variants.length} variants failed"]⟩
  else
    let unwritten := report.summaries.findSome? fun summary =>
      summary.error.map fun error => (summary.group, error)
    match unwritten with
    | some (group, error) =>
        .error ⟨[s!"summary for {group} could not be written: {error}"]⟩
    | none => .ok ""

/-- The configuration of a sweep: that of a file or the default, with a database of its own. -/
def loadConfig (files : Files) (path database : Option String) : Except Failure Config := do
  let config ←
    match path with
    | some path => blame s!"loading config {path}" (Config.load Sql.statements? files path)
    | none => pure {}
  return { config with database := database.getD config.database }

/-- What a sweep leaves as a command. -/
def reported (ended : Except Error Report) (files : Files) : Finished :=
  match ended with
  | .error error => { result := .error (Failure.ofError error), files, aborted := true }
  | .ok report => { result := checkReport report, files }

/-- A sweep of synthetic rows. -/
def rehearse (config : Config) (rows rowDelay : Nat) (detail summary : String) (files : Files)
    (epoch : Moment) : Finished :=
  match fail (Sweep.ofConfig Sql.statements? config) with
  | .error failure => { result := .error failure, files }
  | .ok sweep =>
      let session : SyntheticSession := { rows, delay := .ofMilliseconds rowDelay }
      let (ended, bench) := sweep.run detail summary ({ session, files, epoch } : Bench _ _)
      reported ended bench.files

/-- A sweep on the database of its configuration. -/
def measure (config : Config) (detail summary : String) (files : Files) (epoch : Moment)
    : Finished :=
  match connect files config.database with
  | .error failure => { result := .error failure, files }
  | .ok (session, files) =>
      match fail (Sweep.ofConfig Sql.statements? config) with
      | .error failure => { result := .error failure, files := session.store.close files }
      | .ok sweep =>
          let (ended, bench) := sweep.run detail summary ({ session, files, epoch } : Bench _ _)
          reported ended (bench.session.store.close bench.files)

/-! ## Averages and shuffles -/

/-- The average of some summary files, written to one file once all of them are read. -/
def average (output : String) (inputs : List String) (policy : MissingPolicy) (files : Files)
    : Finished :=
  match fail (Summary.average files inputs policy) with
  | .error failure => { result := .error failure, files }
  | .ok entries =>
      match files.save output (SummaryEntry.text entries).toUTF8 with
      | .error fault => { result := .error ⟨[s!"creating {output}", fault.message]⟩, files }
      | .ok files => { result := .ok "", files }

/-- The shuffled copies of some tables. -/
def shuffle (database : String) (tables : List String) (copies : Nat) (files : Files)
    : Finished :=
  match connect files database with
  | .error failure => { result := .error failure, files }
  | .ok (session, files) =>
      match fail (Shuffler.numbered tables copies) with
      | .error failure => { result := .error failure, files := session.store.close files }
      | .ok shuffler =>
          let (result, session) := shuffler.run session
          { result := (fail result).map fun _ => "", files := session.store.close files }

/-! ## Commands -/

/-- A command run on a tree of files, starting at a moment. -/
def run (command : Command) (files : Files) (epoch : Moment) : Finished :=
  match command with
  | .runSweep detail summary path database rehearsed rowDelay =>
      match loadConfig files path database with
      | .error failure => { result := .error failure, files }
      | .ok config =>
          match rehearsed with
          | some rows => rehearse config rows rowDelay detail summary files epoch
          | none => measure config detail summary files epoch
  | .averageFiles output inputs policy => average output inputs policy files
  | .shuffleTables database tables copies => shuffle database tables copies files
  | .showConfig => { result := .ok (({} : Config).toJson.indented ++ "\n"), files }

/-! ## Command lines -/

/-- What a command line leaves: its exit code, what it shows and complains about, and the files. -/
structure Ended where
  exit : Nat
  output : String := ""
  complaint : String := ""
  files : Files

/-- The version of the program. -/
def version : String := "joinprobe 0.1.0\n"

/-- How the program is used. -/
def usage : String :=
  "Checkpoint-timed join benchmarks\n\nUsage: joinprobe <COMMAND>\n\nCommands:\n"
    ++ "  sweep    Run every variant of a sweep\n"
    ++ "  average  Average summary files key by key\n"
    ++ "  shuffle  Recreate shuffled copies of base tables\n"
    ++ "  config   Print the default configuration as JSON\n"
    ++ "  help     Print this message\n"

/-- A command line run on a tree of files, starting at a moment. -/
def runLine (arguments : List String) (files : Files) (epoch : Moment) : Ended :=
  match ofArguments arguments with
  | .error .version => { exit := 0, output := version, files }
  | .error .help => { exit := 0, output := usage, files }
  | .error .invalid => { exit := 2, complaint := "error: invalid arguments\n\n" ++ usage, files }
  | .ok command =>
      let finished := command.run files epoch
      match finished.result with
      | .ok output => { exit := 0, output, files := finished.files }
      | .error failure =>
          if finished.aborted then
            { exit := 101, complaint := failure.abortText, files := finished.files }
          else { exit := 1, complaint := failure.text, files := finished.files }

/-! ## The files of a command -/

/-- The path of the database file that an address text names. -/
def databasePath (url : String) : List String :=
  match Database.Address.ofText url with
  | .ok (.file path) => [path]
  | _ => []

/-- The paths that a sweep with some bases writes to. -/
def sweepPaths (sweep : Sweep) (detail summary : String) : List String :=
  let variants := sweep.space.variants
  let details := variants.filterMap fun variant =>
    (sweep.detail.renderWith (pathValue detail variant)).toOption
  let summaries := variants.filterMap fun variant =>
    (sweep.summary.renderWith (pathValue summary (sweep.groupOf variant))).toOption
  details ++ summaries ++ sweep.config.reportPath.toList

/-- The paths that a command reads or writes, as far as they are known from some of the files. -/
def paths (command : Command) (files : Files) : List String :=
  match command with
  | .runSweep detail summary path database _ _ =>
      path.toList ++
        match loadConfig files path database with
        | .error _ => []
        | .ok config =>
            databasePath config.database ++
              match Sweep.ofConfig Sql.statements? config with
              | .error _ => []
              | .ok sweep => sweepPaths sweep detail summary
  | .averageFiles output inputs _ => output :: inputs
  | .shuffleTables database _ _ => databasePath database
  | .showConfig => []

end JoinLatency.Command

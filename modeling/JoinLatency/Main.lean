import JoinLatency.Command.Run
import Std.Time.DateTime.Timestamp

/-! The program: it loads the files that a command may touch, runs the command on them, and writes
back the files that changed.
-/

namespace JoinLatency.Program

/-- The names of a path text without empty ones. -/
def namesOf (path : String) : Location :=
  (path.splitOn "/").filter (· != "")

/-- The tree with what stands at a location. -/
def loadNode (files : Files) (location : Location) : IO Files := do
  let path := (← IO.currentDir) / ("/" ++ "/".intercalate location)
  if ← path.isDir then return files.putDirectory location
  else if ← path.pathExists then return files.put location (← IO.FS.readBinFile path)
  else return files

/-- The tree with what stands at a path and above it. -/
def loadPath (files : Files) (path : String) : IO Files := do
  let location := files.locationOf path
  let mut files := files
  for length in List.range (location.length + 1) do
    files ← loadNode files (location.take length)
  return files

/-- The tree of the files that a command may touch. -/
def loadFiles (command : Command) (files : Files) : IO Files := do
  let known ← (command.paths files).foldlM loadPath files
  (command.paths known).foldlM loadPath known

/-- Writes the files that are new or differ. -/
def storeFiles (before after : Files) : IO Unit := do
  for (location, node) in after.nodes do
    match node with
    | .directory => pure ()
    | .file content =>
        if (before.content? location).map (·.data) != some content.data then
          IO.FS.writeBinFile ((← IO.currentDir) / ("/" ++ "/".intercalate location)) content

/-- The present moment. -/
def now : IO Moment := do
  let passed := (← Std.Time.Timestamp.now).toDurationSinceUnixEpoch
  return { seconds := passed.second.val, nanoseconds := passed.nano.val.toNat }

/-- Runs a command line. -/
def run (arguments : List String) : IO UInt32 := do
  let here := namesOf (← IO.currentDir).toString
  let start := Files.startingAt here
  let files ←
    match Command.ofArguments arguments with
    | .ok command => loadFiles command start
    | .error _ => pure start
  let ended := Command.runLine arguments files (← now)
  storeFiles files ended.files
  IO.print ended.output
  IO.eprint ended.complaint
  return UInt32.ofNat ended.exit

end JoinLatency.Program

/-- The entry of the program. -/
def main (arguments : List String) : IO UInt32 :=
  JoinLatency.Program.run arguments

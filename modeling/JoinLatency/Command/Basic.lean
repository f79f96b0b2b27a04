import JoinLatency.Average.Groups
import JoinLatency.Command.Line

/-! The commands: running a sweep, averaging summary files, shuffling tables, and showing the
default configuration.
-/

namespace JoinLatency

/-- A command with its arguments. A sweep without a database is rehearsed on a number of rows for
each query, one every so many milliseconds.
-/
inductive Command
  | runSweep (detail summary : String) (config database : Option String) (rehearsed : Option Nat)
      (rowDelay : Nat)
  | averageFiles (output : String) (inputs : List String) (policy : MissingPolicy)
  | shuffleTables (database : String) (tables : List String) (copies : Nat)
  | showConfig
  deriving Repr

namespace Command

/-! ## Values -/

/-- Whether a list of characters is a number, and which one. -/
def digits? (text : List Char) : Option Nat :=
  if text.isEmpty || !text.all Char.isDigit then none else some (Nat.ofDigitChars 10 text 0)

/-- A count below a limit, with an optional plus sign. -/
def count (limit : Nat) (text : String) : Except Notice Nat :=
  let digits :=
    match text.toList with
    | '+' :: rest => rest
    | digits => digits
  match digits? digits with
  | some n => if n < limit then .ok n else .error .invalid
  | none => .error .invalid

/-- A count below a limit that may also be written as minus zero. -/
def countOrMinusZero (limit : Nat) (text : String) : Except Notice Nat :=
  match text.toList with
  | '-' :: rest => if digits? rest == some 0 then .ok 0 else .error .invalid
  | _ => count limit text

/-- A path is not empty. -/
def path (text : String) : Except Notice String :=
  if text.isEmpty then .error .invalid else .ok text

/-- Row counts and delays have 64 bits. -/
def rowLimit : Nat := 18446744073709551616

/-- Copies have 32 bits. -/
def copyLimit : Nat := 4294967296

/-! ## Commands -/

/-- A sweep: the bases of its detail and summary paths. -/
def readSweep (arguments : List String) : Except Notice Command := do
  let line ← Line.read
    [("config", .one), ("database", .one), ("dry-run", .one), ("row-delay-ms", .one)] {} arguments
  let config ← (← line.value? "config").mapM path
  let database ← line.value? "database"
  let rehearsed ← (← line.value? "dry-run").mapM (count rowLimit)
  let rowDelay ← (← line.value? "row-delay-ms").mapM (count rowLimit)
  match line.positional with
  | [detail, summary] =>
      return .runSweep detail summary config database rehearsed (rowDelay.getD 1)
  | _ => throw .invalid

/-- An average: a file to write and at least one to read. The two policies exclude each other. -/
def readAverage (arguments : List String) : Except Notice Command := do
  let line ← Line.read [("zero-missing", .none), ("fill-zero", .none)] {} arguments
  let policy : MissingPolicy ←
    match ← line.flag "zero-missing", ← line.flag "fill-zero" with
    | true, true => throw .invalid
    | true, false => pure .zero
    | false, true => pure .fillZero
    | false, false => pure .skip
  match ← line.positional.mapM path with
  | output :: input :: more => return .averageFiles output (input :: more) policy
  | _ => throw .invalid

/-- A shuffle: a database and at least one table. -/
def readShuffle (arguments : List String) : Except Notice Command := do
  let line ← Line.read [("database", .one), ("tables", .several), ("copies", .one)] {} arguments
  let copies ← (← line.value? "copies").mapM (countOrMinusZero copyLimit)
  match ← line.value? "database", line.values "tables", line.positional with
  | some database, table :: more, [] => return .shuffleTables database (table :: more) (copies.getD 3)
  | _, _, _ => throw .invalid

/-- The default configuration, which takes no arguments. -/
def readConfig (arguments : List String) : Except Notice Command := do
  match (← Line.read [] {} arguments).positional with
  | [] => return .showConfig
  | _ => throw .invalid

/-- The commands by name, with what reads the arguments after it. -/
def readers : List (String × (List String → Except Notice Command)) :=
  [("sweep", readSweep), ("average", readAverage), ("shuffle", readShuffle), ("config", readConfig)]

/-- Whether help is asked for a command that exists, or for all of them. -/
def readHelp : List String → Notice
  | [] => .help
  | [name] => if name == "help" || (readers.lookup name).isSome then .help else .invalid
  | _ => .invalid

/-- The command of some arguments. -/
def ofArguments : List String → Except Notice Command
  | [] => .error .invalid
  | "--version" :: _ => .error .version
  | "--help" :: _ => .error .help
  | "help" :: rest => .error (readHelp rest)
  | first :: rest =>
      match first.toList, readers.lookup first with
      | '-' :: 'V' :: _, _ => .error .version
      | '-' :: 'h' :: _, _ => .error .help
      | _, some reader => reader rest
      | _, none => .error .invalid

end Command

end JoinLatency

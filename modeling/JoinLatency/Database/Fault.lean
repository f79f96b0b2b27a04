import JoinLatency.Error

/-! What can go wrong in a database. A fault that is found before a statement runs is an error of
the session, one that strikes while it runs is a failed fetch.
-/

namespace JoinLatency.Database

/-- Why a database refuses a statement or ends it. -/
inductive Fault
  | malformed
  | noTable (name : String)
  | tableExists (name : String)
  | reservedTable (name : String)
  | noColumn (name : String)
  | ambiguousColumn (name : String)
  | repeatedColumn (name : String)
  | noSources
  | unevenRows
  | valueCount (table : String) (columns values : Nat)
  | transactionOpen
  | noTransaction
  | integerOverflow
  | interrupted
  | cannotOpen (path : String)
  | notDatabase
  deriving DecidableEq, Repr

namespace Fault

/-- The wording of a fault. -/
def message : Fault → String
  | .malformed => "syntax error"
  | .noTable name => s!"no such table: {name}"
  | .tableExists name => s!"table {name} already exists"
  | .reservedTable name => s!"object name reserved for internal use: {name}"
  | .noColumn name => s!"no such column: {name}"
  | .ambiguousColumn name => s!"ambiguous column name: {name}"
  | .repeatedColumn name => s!"duplicate column name: {name}"
  | .noSources => "no tables specified"
  | .unevenRows => "all VALUES must have the same number of terms"
  | .valueCount table columns values =>
      s!"table {table} has {columns} columns but {values} values were supplied"
  | .transactionOpen => "cannot start a transaction within a transaction"
  | .noTransaction => "no transaction is active"
  | .integerOverflow => "integer overflow"
  | .interrupted => "interrupted"
  | .cannotOpen path => s!"unable to open database: {path}"
  | .notDatabase => "file is not a database"

/-- The error of a session for a fault. -/
def error (fault : Fault) : Error :=
  .database fault.message

/-- The failed fetch for a fault: an interrupt cancels, a file that cannot be used is a lost
connection, and everything else ends the query alone.
-/
def fetchError : Fault → FetchError
  | .interrupted => .canceled (message .interrupted)
  | .cannotOpen path => .connectionLost (message (.cannotOpen path))
  | .notDatabase => .connectionLost (message .notDatabase)
  | fault => .other fault.message

end Fault

end JoinLatency.Database

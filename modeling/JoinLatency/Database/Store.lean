import JoinLatency.Database.Statement
import JoinLatency.Database.Transaction
import JoinLatency.Files

/-! Stores run statements on a database. A statement is prepared first, which leaves the store as
it is; then it runs, yields rows, may fail after some of them, and has its effect as a whole.
-/

namespace JoinLatency.Database

/-- A database under transactions. A store can also be on a file that is no database: whatever
needs tables fails there.
-/
structure Store where
  address : Option Location := none
  readable : Bool := true
  transaction : Transaction Database := { committed := {} }
  deriving Repr

/-- What a prepared statement does once it runs: the number of its rows, the fault after them, and
the store it leaves.
-/
structure Outcome where
  rows : Nat := 0
  fault : Option Fault := none
  after : Store
  deriving Repr

/-- The outcome of a statement that has to be started before it can fail. -/
def Outcome.ofExcept (store : Store) : Except Fault Store → Outcome
  | .ok after => { after }
  | .error fault => { fault := some fault, after := store }

namespace Store

/-- The tables that statements see. -/
def tables (store : Store) : Except Fault Database :=
  if store.readable then .ok store.transaction.current else .error .notDatabase

/-- The store after its tables were changed. -/
def change (store : Store) (database : Database) : Store :=
  { store with transaction := store.transaction.change database }

/-- The store after a step of its transaction. -/
def step (store : Store) (result : Except Fault (Transaction Database)) : Except Fault Store :=
  result.map fun transaction => { store with transaction }

/-- The start of the names that are kept for the database itself. -/
def reservedStart : String := "sqlite_"

/-- Whether a table can be created: it has to be new, unless an old one is good enough. -/
def missing (database : Database) (table : String) (ifMissing : Bool) : Except Fault Bool :=
  if (table.map Char.toLower).startsWith reservedStart then .error (.reservedTable table)
  else if (database.get? table).isNone then .ok true
  else if ifMissing then .ok false
  else .error (.tableExists table)

/-- The positions of the columns that an insertion fills. -/
def insertedColumns (relation : Relation) : Option (List String) → Except Fault (List Nat)
  | none => .ok (List.range relation.columns.length)
  | some columns =>
      columns.mapM fun column =>
        match relation.columns.findIdx? (sameName column) with
        | some position => .ok position
        | none => .error (.noColumn column)

/-- A row with values at some positions and null at the others. -/
def filled (width : Nat) (positions : List Nat) (values : List Value) : List Value :=
  (List.range width).map fun position =>
    ((positions.zip values).find? fun entry => entry.1 == position).map (·.2) |>.getD .null

/-- The effect of an insertion. No column is in scope of its values. -/
def insert (store : Store) (table : String) (columns : Option (List String))
    (rows : List (List NamedExpression)) : Except Fault Outcome := do
  let database ← store.tables
  let relation ← database.find table
  let positions ← insertedColumns relation columns
  rows.forM fun row =>
    if row.length == positions.length then .ok ()
    else if rows.all fun other => other.length == row.length then
      .error (.valueCount table positions.length row.length)
    else .error .unevenRows
  let resolved ← rows.mapM fun row => row.mapM (Expression.resolve (Scope.find []))
  let values := resolved.mapM fun row => row.mapM (Expression.evaluate [])
  return .ofExcept store (values.map fun rows =>
    store.change (database.insert table (rows.map (filled relation.columns.length positions))))

/-- The outcome of a selection. -/
def select (store : Store) (select : Select) : Except Fault Outcome := do
  let database ← if select.stored.isEmpty then .ok {} else store.tables
  let selection ← select.run database
  return { rows := selection.rows.length, fault := selection.fault, after := store }

/-- The pragmas that read the head of the file, one value each. -/
def headPragmas : List String :=
  ["user_version", "schema_version", "application_id", "freelist_count", "data_version"]

/-- The outcome of a pragma. One that is not known does nothing. -/
def pragma (store : Store) (name : String) (assigned : Bool) : Outcome :=
  if headPragmas.contains (name.map Char.toLower) then
    if store.readable then { rows := if assigned then 0 else 1, after := store }
    else { fault := some .notDatabase, after := store }
  else { after := store }

/-- The outcome of a statement, if it can be prepared. There is one database to a session, so no
other one can be attached.
-/
def prepare (store : Store) : Statement → Except Fault Outcome
  | .create table ifMissing columns => do
      let database ← store.tables
      if ← missing database table ifMissing then
        match repeated? columns with
        | some column => throw (.repeatedColumn column)
        | none => return { after := store.change (database.add table { columns }) }
      else return { after := store }
  | .createFrom table ifMissing select => do
      let database ← store.tables
      if ← missing database table ifMissing then
        let selection ← select.run database
        match selection.fault with
        | some fault => return { fault := some fault, after := store }
        | none =>
            let relation : Relation := { columns := selection.columns, rows := selection.rows }
            return { after := store.change (database.add table relation) }
      else return { after := store }
  | .insert table columns rows => store.insert table columns rows
  | .drop table ifPresent => do
      let database ← store.tables
      if (database.get? table).isSome then
        return { after := store.change (database.remove table) }
      else if ifPresent then return { after := store }
      else throw (.noTable table)
  | .select select => store.select select
  | .start => return .ofExcept store (store.step store.transaction.start)
  | .commit => return .ofExcept store (store.step store.transaction.commit)
  | .rollback => return .ofExcept store (store.step store.transaction.rollback)
  | .attach path => return { fault := some (.cannotOpen path), after := store }
  | .pragma name assigned => return store.pragma name assigned

/-- A statement of a batch runs up to its first row. -/
def runOne (store : Store) (tokens : Option (List Token)) : Except Fault Store := do
  let outcome ← store.prepare (← Statement.ofTokens tokens)
  match outcome.rows, outcome.fault with
  | 0, some fault => throw fault
  | _, _ => return outcome.after

/-- The statements of a batch up to the first that fails. -/
def runAll (store : Store) : List (Option (List Token)) → Except Fault Unit × Store
  | [] => (.ok (), store)
  | tokens :: rest =>
      match store.runOne tokens with
      | .error fault => (.error fault, store)
      | .ok after => runAll after rest

/-- The effect of a batch. -/
def execute (store : Store) (script : String) : Except Fault Unit × Store :=
  store.runAll (statements script)

/-- The outcome of the first statement of a text. A text without one can be prepared as well, but
cannot run.
-/
def submit (store : Store) (script : String) : Except Fault Outcome :=
  match statements script with
  | [] => .ok { fault := some .malformed, after := store }
  | tokens :: _ => do store.prepare (← Statement.ofTokens tokens)

end Store

end JoinLatency.Database

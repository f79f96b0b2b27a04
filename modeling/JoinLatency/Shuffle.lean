import JoinLatency.Session.Basic

/-! Shuffled copies of tables. Each suffix names one set of copies, which one transaction drops
and recreates in random order; the first transaction that fails is rolled back and is the last.
-/

namespace JoinLatency

/-- The tables to copy and the suffixes of the copies. -/
structure Shuffler where
  tables : List String
  suffixes : List String
  deriving DecidableEq, Repr

namespace Shuffler

/-- Tables have to be identifiers, suffixes tokens; the tables are checked first. -/
def ofLists (tables suffixes : List String) : Except Error Shuffler := do
  tables.forM checkIdentifier
  suffixes.forM (checkToken "suffix")
  return { tables, suffixes }

/-- A shuffler whose suffixes are the numbers from one on. -/
def numbered (tables : List String) (copies : Nat) : Except Error Shuffler :=
  ofLists tables ((List.range copies).map fun n => toString (n + 1))

/-- The statements that recreate the copy of one table. -/
def copyStatements (suffix table : String) : String :=
  s!"DROP TABLE IF EXISTS {table}{suffix}; "
    ++ s!"CREATE TABLE {table}{suffix} AS SELECT * FROM {table} ORDER BY RANDOM();"

/-- The statements that recreate the copies of one suffix. -/
def statements (shuffler : Shuffler) (suffix : String) : String :=
  "\n".intercalate (shuffler.tables.map (copyStatements suffix))

/-- The transaction that recreates the copies of one suffix. -/
def batch (shuffler : Shuffler) (suffix : String) : String :=
  s!"BEGIN;\n{shuffler.statements suffix}\nCOMMIT;"

/-- The batch that ends a failed transaction. -/
def rollback : String := "ROLLBACK;"

variable {S C : Type} [RowSource C] [Session S C]

/-- The transactions of a list of suffixes. After a failure the session rolls back, whatever it
answers to that, and nothing more is sent.
-/
def runSuffixes (shuffler : Shuffler) (session : S) : List String → Except Error Nat × S
  | [] => (.ok 0, session)
  | suffix :: rest =>
      match Session.execute session (shuffler.batch suffix) with
      | (.error error, session) => (.error error, (Session.execute session rollback).2)
      | (.ok (), session) =>
          let (created, session) := runSuffixes shuffler session rest
          (created.map (shuffler.tables.length + ·), session)

/-- Recreates all copies, and tells how many there are. -/
def run (shuffler : Shuffler) (session : S) : Except Error Nat × S :=
  runSuffixes shuffler session shuffler.suffixes

end Shuffler

end JoinLatency

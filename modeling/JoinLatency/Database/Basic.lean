import JoinLatency.Database.Value

/-! Databases are tables by name. Names differ by more than the case of their letters, and a table
keeps its columns and its rows in the order in which they came.
-/

namespace JoinLatency

namespace Database

/-- The columns and the rows of a table. -/
structure Relation where
  columns : List String
  rows : List (List Value) := []
  deriving Repr, Inhabited

/-- Whether two names mean the same. -/
def sameName (a b : String) : Bool :=
  a.map Char.toLower == b.map Char.toLower

/-- The first name that occurs again later. -/
def repeated? : List String → Option String
  | [] => none
  | name :: rest => if rest.any (sameName name) then some name else repeated? rest

end Database

open JoinLatency.Database

/-- Tables by name, oldest first. -/
structure Database where
  tables : List (String × Relation) := []
  deriving Repr, Inhabited

namespace Database

/-- The table with a name. -/
def get? (database : Database) (name : String) : Option Relation :=
  (database.tables.find? fun entry => sameName entry.1 name).map (·.2)

/-- The table with a name, which has to exist. -/
def find (database : Database) (name : String) : Except Fault Relation :=
  match database.get? name with
  | some relation => .ok relation
  | none => .error (.noTable name)

/-- The database with one more table. -/
def add (database : Database) (name : String) (relation : Relation) : Database where
  tables := database.tables ++ [(name, relation)]

/-- The database without a table. -/
def remove (database : Database) (name : String) : Database where
  tables := database.tables.filter fun entry => !sameName entry.1 name

/-- The database with more rows in a table. -/
def insert (database : Database) (name : String) (rows : List (List Value)) : Database where
  tables := database.tables.map fun (other, relation) =>
    if sameName other name then (other, { relation with rows := relation.rows ++ rows })
    else (other, relation)

end Database

end JoinLatency

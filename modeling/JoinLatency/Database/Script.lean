import JoinLatency.Database.Store
import JoinLatency.Decimal.Layout

/-! Databases as files. A file holds a heading and the statements that create its tables again; an
empty file holds no tables, and every other one is no database.
-/

namespace JoinLatency.Database

/-- The first line of a database file. -/
def heading : String := "-- tables\n"

/-- A text between quotes, with the quote in it written twice. -/
def enclosed (quote : Char) (text : String) : String :=
  let content := text.toList.flatMap fun c => if c == quote then [c, c] else [c]
  String.ofList (quote :: (content ++ [quote]))

/-- A value as an expression that yields it. -/
def Value.literal : Value → String
  | .null => "NULL"
  | .integer n => toString n
  | .real x =>
      if x.isFinite then Decimal.Layout.data.text x
      else if 0 < x then "9e999"
      else "-9e999"
  | .text content => enclosed '\'' content

/-- Texts in parentheses with commas between them. -/
def listed (texts : List String) : String :=
  "(" ++ ", ".intercalate texts ++ ")"

/-- The statements that create a table with its rows. -/
def Relation.script (name : String) (relation : Relation) : String :=
  let table := enclosed '"' name
  let columns := listed (relation.columns.map (enclosed '"'))
  let rows := ", ".intercalate (relation.rows.map fun row => listed (row.map Value.literal))
  let created := s!"CREATE TABLE {table}{columns};\n"
  if relation.rows.isEmpty then created
  else created ++ s!"INSERT INTO {table} VALUES {rows};\n"

/-- The text of a database file. -/
def script (database : Database) : String :=
  if database.tables.isEmpty then ""
  else heading ++ String.join (database.tables.map fun (name, relation) => relation.script name)

/-- The database in a file. -/
def ofBytes? (content : ByteArray) : Option Database :=
  match String.fromUTF8? content with
  | none => none
  | some text =>
      if text.isEmpty then some {}
      else if text.startsWith heading then
        match ({} : Store).execute text with
        | (.ok (), store) => some store.transaction.committed
        | (.error _, _) => none
      else none

end JoinLatency.Database

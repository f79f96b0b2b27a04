import JoinLatency.Database.Select

/-! Statements of a database: definitions, insertions, selections, transactions, and pragmas.
-/

namespace JoinLatency.Database

/-- A statement. -/
inductive Statement
  | create (table : String) (ifMissing : Bool) (columns : List String)
  | createFrom (table : String) (ifMissing : Bool) (select : Select)
  | insert (table : String) (columns : Option (List String)) (rows : List (List NamedExpression))
  | drop (table : String) (ifPresent : Bool)
  | select (select : Select)
  | start
  | commit
  | rollback
  | attach (path : String)
  | pragma (name : String) (assigned : Bool)
  deriving Repr

namespace Statement

open Reader

/-- The type of a column, which may be missing: words, and a size. -/
def columnType : Reader Unit := do
  let _ ← many (nameOutside (reserved ++ joinWords))
  let _ ← optional? (parens (commas integer))
  return ()

/-- A column with its type. -/
def column : Reader String := do
  let column ← name
  columnType
  return column

/-- The columns of a new table, or the selection that fills it. -/
def definition : Reader Statement := do
  words ["CREATE", "TABLE"]
  let ifMissing ← accepts (words ["IF", "NOT", "EXISTS"])
  let table ← name
  (do return .create table ifMissing (← parens (commas column)))
    <|> (do
      word "AS"
      return .createFrom table ifMissing (← Select.any))

/-- The rows to insert. -/
def insertion : Reader Statement := do
  words ["INSERT", "INTO"]
  let table ← name
  let columns ← optional? (parens (commas name))
  word "VALUES"
  return .insert table columns (← commas (parens (commas NamedExpression.any)))

/-- The table to drop. -/
def removal : Reader Statement := do
  words ["DROP", "TABLE"]
  let ifPresent ← accepts (words ["IF", "EXISTS"])
  return .drop (← name) ifPresent

/-- The start or the end of a transaction. -/
def transaction : Reader Statement := do
  let statement ←
    (do
        word "BEGIN"
        let _ ← accepts (word "DEFERRED" <|> word "IMMEDIATE" <|> word "EXCLUSIVE")
        return Statement.start)
      <|> (do (word "COMMIT" <|> word "END"); return .commit)
      <|> (do word "ROLLBACK"; return .rollback)
  let _ ← accepts (word "TRANSACTION")
  return statement

/-- Another database to attach. -/
def attachment : Reader Statement := do
  word "ATTACH"
  let _ ← accepts (word "DATABASE")
  let path ← name
  word "AS"
  let _ ← name
  return .attach path

/-- The value of a pragma: a word, a text or a number. -/
def pragmaValue : Reader Unit := do
  let _ ← accepts (symbol "-" <|> symbol "+")
  match ← next with
  | .symbol _ => failure
  | _ => return ()

/-- A pragma with or without a value. -/
def setting : Reader Statement := do
  word "PRAGMA"
  let name ← name
  return .pragma name (← accepts ((do symbol "="; pragmaValue) <|> parens pragmaValue))

/-- Any statement. -/
def any : Reader Statement :=
  definition <|> insertion <|> removal <|> .select <$> Select.any
    <|> transaction <|> attachment <|> setting

/-- The statement that some tokens are, if there are tokens and they are legal. -/
def ofTokens : Option (List Token) → Except Fault Statement
  | none => .error .malformed
  | some tokens =>
      match (do
        let statement ← any
        ended
        return statement) |>.run tokens with
      | some (statement, _) => .ok statement
      | none => .error .malformed

end Statement

end JoinLatency.Database

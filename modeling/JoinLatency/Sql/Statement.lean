import JoinLatency.Query
import JoinLatency.Sql.Change

/-! Statements. A text is a list of statements between semicolons, of which empty ones do not
count. Queries are told from all other statements by their first token.
-/

namespace JoinLatency.Sql

namespace Level

variable (inner : Level)

/-- Any tokens up to the end of the statement, at least one. -/
def remainder : Phrase := fun tokens =>
  let left := tokens.dropWhile (· != .symbol ";")
  if left.length < tokens.length then some left else none

/-! ## Definitions -/

/-- One property of a column. -/
def columnOption : Phrase :=
  seq [
    after (word "CONSTRAINT") identifier,
    oneOf [
      words ["NOT", "NULL"],
      word "NULL",
      seq [word "DEFAULT", inner.anyExpression],
      words ["PRIMARY", "KEY"],
      word "UNIQUE",
      seq [word "REFERENCES", objectName, optional columnNames,
        many (word "ON")
          (seq [anyWord ["DELETE", "UPDATE"],
            oneOf [anyWord ["CASCADE", "RESTRICT"], words ["SET", "NULL"],
              words ["SET", "DEFAULT"], words ["NO", "ACTION"]]])],
      seq [word "CHECK", parens inner.anyExpression],
      seq [word "COLLATE", objectName],
      seq [words ["GENERATED", "ALWAYS", "AS"],
        oneOf [word "IDENTITY", seq [parens inner.anyExpression, optional (word "STORED")]]],
      words ["GENERATED", "BY", "DEFAULT", "AS", "IDENTITY"]]
  ]

/-- One condition on a table. -/
def tableConstraint : Phrase :=
  seq [
    after (word "CONSTRAINT") identifier,
    oneOf [
      seq [word "UNIQUE", columnNames],
      seq [words ["PRIMARY", "KEY"], columnNames],
      seq [words ["FOREIGN", "KEY"], columnNames, word "REFERENCES", objectName,
        optional columnNames],
      seq [word "CHECK", parens inner.anyExpression]]
  ]

/-- A column: a name, a type and properties. -/
def columnDefinition : Phrase :=
  seq [identifier, dataType,
    repeated fun tokens => (inner.columnOption tokens).map some]

/-- A table: a name, then columns, options or a query, all of which may be missing. -/
def tableDefinition : Phrase :=
  seq [
    optional (words ["IF", "NOT", "EXISTS"]),
    objectName,
    after (word "LIKE") objectName,
    after (symbol "(")
      (oneOf [symbol ")",
        seq [commas (oneOf [inner.tableConstraint, inner.columnDefinition]), symbol ")"]]),
    after (seq [word "WITH", symbol "("])
      (seq [commas (seq [identifier, symbol "=", inner.anyExpression]), symbol ")"]),
    after (words ["ON", "COMMIT"])
      (oneOf [word "DROP", words ["DELETE", "ROWS"], words ["PRESERVE", "ROWS"]]),
    after (word "AS") inner.query
  ]

/-- A creation after its first word. -/
def creation : Phrase :=
  seq [
    optional (words ["OR", "REPLACE"]),
    optional (anyWord ["LOCAL", "GLOBAL", "TRANSIENT"]),
    optional (anyWord ["TEMPORARY", "TEMP"]),
    oneOf [
      seq [word "TABLE", inner.tableDefinition],
      seq [optional (word "MATERIALIZED"), word "VIEW", optional (words ["IF", "NOT", "EXISTS"]),
        objectName, optional columnNames, word "AS", inner.query],
      seq [optional (word "UNIQUE"), word "INDEX", optional (word "CONCURRENTLY"),
        optional (words ["IF", "NOT", "EXISTS"]),
        oneOf [seq [word "ON", objectName], seq [objectName, word "ON", objectName]],
        after (word "USING") identifier, parens (commas inner.orderItem),
        inner.condition "WHERE"],
      seq [anyWord ["SCHEMA", "DATABASE", "SEQUENCE", "EXTENSION"],
        optional (words ["IF", "NOT", "EXISTS"]), objectName, optional remainder],
      seq [anyWord ["ROLE", "FUNCTION", "TYPE", "TRIGGER", "PROCEDURE", "POLICY", "EXTERNAL",
        "VIRTUAL", "MACRO", "SECRET", "STAGE"], remainder]]
  ]

/-- A removal after its first word. -/
def removal : Phrase :=
  seq [
    optional (word "TEMPORARY"),
    oneOf [
      seq [
        anyWord ["TABLE", "VIEW", "INDEX", "ROLE", "SCHEMA", "SEQUENCE", "STAGE", "TYPE"],
        optional (words ["IF", "EXISTS"]), commas objectName,
        optional (anyWord ["CASCADE", "RESTRICT"]), optional (word "PURGE"),
        after (word "ON") objectName],
      seq [anyWord ["FUNCTION", "PROCEDURE", "TRIGGER", "POLICY", "SECRET"], remainder]]
  ]

/-! ## Transactions and settings -/

/-- The properties of a transaction. -/
def transactionModes : Phrase :=
  let mode :=
    oneOf [
      seq [words ["ISOLATION", "LEVEL"],
        oneOf [words ["READ", "UNCOMMITTED"], words ["READ", "COMMITTED"],
          words ["REPEATABLE", "READ"], word "SERIALIZABLE"]],
      words ["READ", "ONLY"],
      words ["READ", "WRITE"]]
  optional (seq [mode, repeated fun tokens => (seq [optional (symbol ","), mode] tokens).map some])

/-- The end of a transaction after its first word. -/
def transactionEnd : Phrase :=
  seq [optional (anyWord ["TRANSACTION", "WORK"]),
    after (word "AND") (seq [optional (word "NO"), word "CHAIN"])]

/-- A setting after its first word. -/
def settingTail : Phrase :=
  seq [
    optional (anyWord ["SESSION", "LOCAL"]),
    oneOf [
      seq [words ["TIME", "ZONE"], inner.anyExpression],
      seq [word "ROLE", identifier],
      seq [words ["CHARACTERISTICS", "AS", "TRANSACTION"], transactionModes],
      seq [word "TRANSACTION", transactionModes],
      seq [objectName, oneOf [symbol "=", word "TO"], commas inner.anyExpression]]
  ]

/-- A display after its first word: a kind of object, or all that follows up to an equals sign,
statement ends included.
-/
def displayTail : Phrase := fun tokens =>
  match tokens with
  | .word "TABLES" :: rest | .word "VIEWS" :: rest =>
      seq [after (anyWord ["FROM", "IN"]) objectName, after (anyWord ["LIKE", "ILIKE"]) string,
        inner.condition "WHERE"] rest
  | .word "COLUMNS" :: rest | .word "FIELDS" :: rest =>
      seq [anyWord ["FROM", "IN"], objectName, after (anyWord ["LIKE", "ILIKE"]) string,
        inner.condition "WHERE"] rest
  | .word "FUNCTIONS" :: rest =>
      seq [after (anyWord ["LIKE", "ILIKE"]) string, inner.condition "WHERE"] rest
  | .word "CREATE" :: rest =>
      seq [anyWord ["TABLE", "TRIGGER", "FUNCTION", "PROCEDURE", "EVENT", "VIEW"],
        objectName] rest
  | .word "EXTENDED" :: _ | .word "FULL" :: _ => none
  | _ => some (tokens.dropWhile (· != .symbol "="))

/-- An explanation after its first word: of a statement, or of a table. -/
def explanationTail : Phrase :=
  seq [
    optional (word "ANALYZE"),
    optional (word "VERBOSE"),
    after (word "FORMAT") (anyWord ["TEXT", "JSON", "GRAPHVIZ"]),
    fun tokens =>
      if (anyWord ["EXPLAIN", "DESCRIBE", "DESC"] tokens).isSome then none
      else oneOf [inner.statement, seq [optional (word "TABLE"), objectName]] tokens
  ]

/-- Statements other than queries by their first word, with what follows it. -/
def otherStatements : List (String × Phrase) := [
    ("EXPLAIN", inner.explanationTail),
    ("DESCRIBE", inner.explanationTail),
    ("DESC", inner.explanationTail),
    ("ANALYZE", seq [optional (word "TABLE"), objectName]),
    ("TRUNCATE",
      seq [optional (word "TABLE"), optional (word "ONLY"), commas objectName,
        optional (seq [anyWord ["RESTART", "CONTINUE"], word "IDENTITY"]),
        optional (anyWord ["CASCADE", "RESTRICT"])]),
    ("CREATE", inner.creation),
    ("DROP", removal),
    ("SET", inner.settingTail),
    ("SHOW", inner.displayTail),
    ("USE", remainder),
    ("START", seq [word "TRANSACTION", transactionModes]),
    ("BEGIN", seq [optional (anyWord ["TRANSACTION", "WORK"]), transactionModes]),
    ("COMMIT", transactionEnd),
    ("END", transactionEnd),
    ("ROLLBACK",
      seq [transactionEnd, after (word "TO") (seq [optional (word "SAVEPOINT"), identifier])]),
    ("SAVEPOINT", identifier),
    ("RELEASE", seq [optional (word "SAVEPOINT"), identifier]),
    ("CLOSE", identifier),
    ("DEALLOCATE", seq [optional (word "PREPARE"), identifier]),
    ("PREPARE",
      seq [identifier, optional (parens (commas dataType)), word "AS", inner.statement]),
    ("EXECUTE", seq [objectName, optional (parens (commas inner.anyExpression)),
      after (word "USING") (commas inner.anyExpression)]),
    ("DISCARD", anyWord ["ALL", "PLANS", "SEQUENCES", "TEMP", "TEMPORARY"]),
    ("ASSERT", seq [inner.anyExpression, after (word "AS") inner.anyExpression]),
    ("CALL", remainder),
    ("ALTER",
      seq [anyWord ["TABLE", "INDEX", "VIEW", "ROLE", "POLICY"], objectName, remainder]),
    ("COPY", remainder),
    ("GRANT", remainder),
    ("REVOKE", remainder),
    ("DECLARE", remainder),
    ("FETCH", remainder),
    ("KILL", remainder),
    ("PRAGMA", remainder),
    ("MERGE", remainder),
    ("COMMENT", remainder)
  ]

/-- Whether some tokens start as a query does. -/
def startsQuery (tokens : List Token) : Bool :=
  (oneOf [anyWord ["SELECT", "WITH", "VALUES"], symbol "("] tokens).isSome

/-- Any statement. -/
def anyStatement : Phrase := fun tokens =>
  if startsQuery tokens then inner.query tokens
  else
    match tokens with
    | .word "INSERT" :: _ => inner.insert tokens
    | .word "UPDATE" :: _ => inner.update tokens
    | .word "DELETE" :: _ => inner.delete tokens
    | .word first :: rest => (inner.otherStatements.lookup first).bind fun phrase => phrase rest
    | _ => none

/-! ## Levels -/

/-- The phrases whose parts come from a level. -/
def above : Level where
  expression := inner.expressionAbove
  query := inner.wholeQuery
  body := inner.setBody
  tables := inner.properJoin
  statement := inner.anyStatement

/-- The phrases of a number of levels. -/
def ofDepth : Nat → Level
  | 0 => bottom
  | depth + 1 => (ofDepth depth).above

/-- The number of levels that a statement may use. -/
def deepest : Nat := 50

end Level

/-! ## Statement lists -/

/-- The kinds of the statements of some tokens. A statement that follows another one without a
semicolon is refused, except that a word `END` there ends the list.
-/
def statementKinds (delimited : Bool) (tokens : List Token) : Option (List StatementKind) :=
  match tokens with
  | [] => some []
  | .symbol ";" :: rest => statementKinds true rest
  | first :: more =>
      if !delimited then if first == .word "END" then some [] else none
      else
        match (Level.ofDepth Level.deepest).statement (first :: more) with
        | none => none
        | some rest =>
            if rest.length ≤ more.length then
              let kind := if Level.startsQuery (first :: more) then .query else .other
              (statementKinds false rest).map (kind :: ·)
            else none
termination_by tokens.length
decreasing_by all_goals simp only [List.length_cons]; omega

/-- The grammar of a text of statements. -/
def statements? : Grammar :=
  fun text => (tokens text.toList).bind (statementKinds true)

end JoinLatency.Sql

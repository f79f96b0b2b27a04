import JoinLatency.Sql.Select

/-! Statements that change rows: insertions, updates and deletions.
-/

namespace JoinLatency.Sql.Level

variable (inner : Level)

/-- New values for columns. -/
def assignments : Phrase :=
  commas (seq [oneOf [columnNames, objectName], symbol "=", inner.anyExpression])

/-- The rows that a change answers with. -/
def returning : Phrase :=
  after (word "RETURNING") inner.selectItems

/-- What to do about a conflict with an existing row. -/
def conflict : Phrase :=
  after (words ["ON", "CONFLICT"])
    (seq [
      branch [(words ["ON", "CONSTRAINT"], objectName),
        (symbol "(", seq [commas identifier, symbol ")"])],
      word "DO",
      oneOf [word "NOTHING",
        seq [words ["UPDATE", "SET"], inner.assignments, inner.condition "WHERE"]]])

/-- An insertion. -/
def insert : Phrase :=
  seq [
    word "INSERT",
    optional (anyWord ["INTO", "OVERWRITE"]),
    optional (word "TABLE"),
    objectName,
    after (word "AS") identifier,
    oneOf [
      words ["DEFAULT", "VALUES"],
      seq [columnNames, inner.query],
      inner.query,
      seq [columnNames, words ["DEFAULT", "VALUES"]]],
    inner.conflict,
    inner.returning
  ]

/-- An update. -/
def update : Phrase :=
  seq [
    word "UPDATE",
    inner.joinedTables,
    word "SET",
    inner.assignments,
    after (word "FROM") inner.joinedTables,
    inner.condition "WHERE",
    inner.returning
  ]

/-- A deletion. -/
def delete : Phrase :=
  seq [
    word "DELETE",
    oneOf [word "FROM", seq [commas objectName, word "FROM"]],
    commas inner.joinedTables,
    after (word "USING") (commas inner.joinedTables),
    inner.condition "WHERE",
    inner.returning,
    inner.orderClause,
    after (word "LIMIT") (oneOf [word "ALL", inner.anyExpression])
  ]

/-- A query: a body with what stands around it. Named queries may also precede a change. -/
def wholeQuery : Phrase := fun tokens =>
  (inner.withClause tokens).bind fun rest =>
    match rest with
    | .word "INSERT" :: _ => inner.insert rest
    | .word "UPDATE" :: _ => inner.update rest
    | _ => seq [inner.setBody 0, inner.queryTail] rest

end JoinLatency.Sql.Level

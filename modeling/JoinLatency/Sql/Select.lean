import JoinLatency.Sql.Expression

/-! Queries: select clauses with their tables and joins, set operations between them, and what
may stand around them. A table in parentheses has to be a query or a join.
-/

namespace JoinLatency.Sql.Level

variable (inner : Level)

/-! ## Select items -/

/-- A select item: all columns, or an expression with an alias. The word `FROM` alone is none. -/
def selectItem : Phrase := fun tokens =>
  match oneOf [symbol "*", qualifiedWildcard] tokens with
  | some rest => some rest
  | none =>
      (inner.anyExpression tokens).bind fun rest =>
        if tokens.head? == some (.word "FROM") && rest.length + 1 == tokens.length then none
        else alias_ reservedForColumn rest

/-- The items of a select or returning clause. -/
def selectItems : Phrase :=
  commas inner.selectItem

/-! ## Tables -/

/-- An alias of a table, which may name its columns. -/
def tableAlias : Phrase := fun tokens =>
  (alias_ reservedForTable tokens).bind fun rest =>
    if rest.length < tokens.length then
      after (symbol "(") (seq [commas (seq [identifier, optional dataType]), symbol ")"]) rest
    else some rest

/-- A query in parentheses as a table. -/
def derivedTable : Phrase :=
  seq [inner.subquery, tableAlias]

/-- Joined tables in parentheses: a join, or a table that is one in parentheses itself. -/
def nestedJoin : Phrase :=
  seq [symbol "(", inner.tables, symbol ")", tableAlias]

/-- Whether some tokens start with a join. -/
def startsJoin (tokens : List Token) : Bool :=
  (anyWord ["JOIN", "INNER", "LEFT", "RIGHT", "FULL", "CROSS", "NATURAL", "ASOF", "ANTI", "SEMI",
    "GLOBAL", "OUTER"] tokens).isSome

/-- A named table or table function with an alias. -/
def namedTable : Phrase :=
  seq [
    objectName,
    after (symbol "(") (oneOf [symbol ")", seq [commas inner.argument, symbol ")"]]),
    optional (words ["WITH", "ORDINALITY"]),
    tableAlias,
    after (seq [word "WITH", symbol "("]) (seq [commas inner.anyExpression, symbol ")"])
  ]

/-- One operand of a join. -/
def tableFactor : Phrase := fun tokens =>
  match tokens with
  | .word "LATERAL" :: rest =>
      oneOf [inner.derivedTable, seq [objectName, inner.arguments, tableAlias]] rest
  | .word "TABLE" :: rest => seq [parens inner.anyExpression, tableAlias] rest
  | .word "UNNEST" :: rest =>
      seq [parens (commas inner.anyExpression), optional (words ["WITH", "ORDINALITY"]),
        tableAlias] rest
  | .symbol "(" :: _ => oneOf [inner.derivedTable, inner.nestedJoin] tokens
  | _ => inner.namedTable tokens

/-- The words of a join other than a cross join. -/
def joinWords : Phrase :=
  seq [
    optional (word "NATURAL"),
    oneOf [
      seq [optional (word "INNER"), word "JOIN"],
      seq [anyWord ["LEFT", "RIGHT"], optional (anyWord ["OUTER", "SEMI", "ANTI"]), word "JOIN"],
      seq [anyWord ["ANTI", "SEMI"], word "JOIN"],
      seq [word "FULL", optional (word "OUTER"), word "JOIN"]]
  ]

/-- The condition of a join, which may be missing. -/
def joinCondition : Phrase :=
  branch [(word "ON", inner.anyExpression), (word "USING", columnNames)]

/-- The words that open a join with a condition. -/
def joinLeads : List String :=
  ["NATURAL", "INNER", "JOIN", "LEFT", "RIGHT", "FULL", "ANTI", "SEMI", "OUTER"]

/-- One join after a table. Joins that follow its right side without a condition in between
belong to that side.
-/
def join (right : Phrase) (tokens : List Token) : Option (Option (List Token)) :=
  let tokens := (optional (word "GLOBAL") tokens).getD tokens
  match tokens with
  | .word "CROSS" :: rest =>
      some (seq [anyWord ["JOIN", "APPLY"], inner.tableFactor] rest)
  | _ =>
      if (anyWord joinLeads tokens).isSome then
        some (seq [joinWords, right, inner.joinCondition] tokens)
      else none

/-- The right side of a join: a table, and the joins that follow it at once. -/
def joinedSide : Phrase := fun tokens =>
  (inner.tableFactor tokens).bind fun rest =>
    if (anyWord ["JOIN", "INNER", "LEFT", "RIGHT", "FULL"] rest).isSome then
      repeated (inner.join inner.tables) rest
    else some rest

/-- A table with the joins that follow it. -/
def joinedTables : Phrase :=
  seq [inner.tableFactor, repeated (inner.join inner.joinedSide)]

/-- Tables that contain a join: what may stand in parentheses. -/
def properJoin : Phrase := fun tokens =>
  match tokens with
  | .symbol "(" :: _ =>
      match inner.nestedJoin tokens with
      | some rest => repeated (inner.join inner.joinedSide) rest
      | none =>
          (inner.tableFactor tokens).bind fun rest =>
            if startsJoin rest then repeated (inner.join inner.joinedSide) rest else none
  | _ =>
      (inner.tableFactor tokens).bind fun rest =>
        if startsJoin rest then repeated (inner.join inner.joinedSide) rest else none

/-! ## Select clauses -/

/-- One term of a grouping: a set of groupings, no columns, or an expression. -/
def groupItem : Phrase :=
  let sets := parens (commas (oneOf [
    seq [symbol "(", symbol ")"], parens (commas inner.anyExpression), inner.anyExpression]))
  oneOf [
    seq [words ["GROUPING", "SETS"], sets],
    seq [anyWord ["CUBE", "ROLLUP"], sets],
    seq [symbol "(", symbol ")"],
    inner.anyExpression
  ]

/-- A condition after its word, if it is there. -/
def condition (upper : String) : Phrase :=
  after (word upper) inner.anyExpression

/-- What a select may start with: all or distinct rows, or a number of rows. -/
def quantifier : Phrase :=
  seq [
    optional (word "ALL"),
    after (word "DISTINCT")
      (after (word "ON")
        (seq [symbol "(", oneOf [symbol ")", seq [commas inner.anyExpression, symbol ")"]]])),
    after (word "TOP") (oneOf [number, parens inner.anyExpression])
  ]

/-- A select clause. -/
def select : Phrase :=
  seq [
    word "SELECT",
    inner.quantifier,
    inner.selectItems,
    after (word "INTO")
      (seq [optional (anyWord ["TEMPORARY", "TEMP"]), optional (word "UNLOGGED"),
        optional (word "TABLE"), objectName]),
    after (word "FROM") (commas inner.joinedTables),
    inner.condition "WHERE",
    after (words ["GROUP", "BY"]) (oneOf [word "ALL", commas inner.groupItem]),
    inner.condition "HAVING",
    after (word "WINDOW")
      (commas (seq [identifier, word "AS", oneOf [parens inner.windowParts, identifier]])),
    inner.condition "QUALIFY"
  ]

/-- The rows of a values clause. -/
def values : Phrase :=
  commas (seq [optional (word "ROW"), parens (commas inner.anyExpression)])

/-! ## Queries -/

/-- How tightly a set operation binds. -/
def setRank : List Token → Nat
  | .word "UNION" :: _ | .word "EXCEPT" :: _ => 10
  | .word "INTERSECT" :: _ => 20
  | _ => 0

/-- The operand of a set operation. -/
def setOperand : Phrase := fun tokens =>
  match tokens with
  | .word "SELECT" :: _ => inner.select tokens
  | .symbol "(" :: _ => inner.subquery tokens
  | .word "VALUES" :: rest => inner.values rest
  | .word "TABLE" :: rest => seq [identifier, after (symbol ".") identifier] rest
  | _ => none

/-- Operands with set operations between them that bind more tightly than a rank. -/
def setBody (rank : Nat) : Phrase :=
  seq [
    inner.setOperand,
    repeated fun tokens =>
      let next := setRank tokens
      if rank < next then
        some (seq [optional (anyWord ["ALL", "DISTINCT"]), inner.body next] tokens.tail)
      else none
  ]

/-- A named query before the main one. -/
def commonTable : Phrase :=
  seq [
    identifier,
    after (symbol "(") (seq [commas (seq [identifier, optional dataType]), symbol ")"]),
    word "AS",
    optional (seq [optional (word "NOT"), word "MATERIALIZED"]),
    inner.subquery,
    after (word "FROM") identifier
  ]

/-- The named queries before the main one. -/
def withClause : Phrase :=
  after (word "WITH") (seq [optional (word "RECURSIVE"), commas inner.commonTable])

/-- A limit, an offset, or both in either order. -/
def limits : Phrase :=
  let limit := after (word "LIMIT") (oneOf [word "ALL", inner.anyExpression])
  let offset :=
    after (word "OFFSET") (seq [inner.anyExpression, optional (anyWord ["ROW", "ROWS"])])
  fun tokens =>
    match tokens with
    | .word "OFFSET" :: _ => seq [offset, limit] tokens
    | _ => seq [limit, offset] tokens

/-- The first rows only, and the locks on the rows. -/
def fetchAndLocks : Phrase :=
  seq [
    after (word "FETCH")
      (seq [
        optional (anyWord ["FIRST", "NEXT"]),
        oneOf [anyWord ["ROW", "ROWS"],
          seq [oneOf [number, parens inner.anyExpression], optional (word "PERCENT"),
            anyWord ["ROW", "ROWS"]]],
        oneOf [word "ONLY", words ["WITH", "TIES"]]]),
    many (word "FOR")
      (seq [anyWord ["UPDATE", "SHARE"], after (word "OF") objectName,
        optional (oneOf [word "NOWAIT", words ["SKIP", "LOCKED"]])])
  ]

/-- What may follow the body of a query. -/
def queryTail : Phrase :=
  seq [inner.orderClause, inner.limits, inner.fetchAndLocks]

end JoinLatency.Sql.Level

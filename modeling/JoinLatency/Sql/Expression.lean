import JoinLatency.Sql.Phrase

/-! Expressions, by precedence. What an expression or a query may contain is taken from the level
below, so a text can nest only as deep as there are levels.
-/

namespace JoinLatency.Sql

/-- The phrases that nest: expressions whose operators bind more tightly than a precedence,
queries, the operands of set operations above a precedence, joined tables, and statements.
-/
structure Level where
  expression : Nat → Phrase
  query : Phrase
  body : Nat → Phrase
  tables : Phrase
  statement : Phrase

/-- The level at which nothing nests any more. -/
def Level.bottom : Level where
  expression := fun _ => never
  query := never
  body := fun _ => never
  tables := never
  statement := never

/-- How tightly operators bind; zero is no operator. -/
inductive Binding
  | none
  | disjunction
  | conjunction
  | negation
  | predicate
  | comparison
  | range
  | other
  | sum
  | product
  | zone
  | collation
  | subscript
  | cast
  deriving DecidableEq, Repr

/-- Bindings in increasing order. -/
def Binding.rank : Binding → Nat
  | .none => 0
  | .disjunction => 10
  | .conjunction => 20
  | .negation => 30
  | .predicate => 40
  | .comparison => 50
  | .range => 60
  | .other => 70
  | .sum => 80
  | .product => 90
  | .zone => 110
  | .collation => 120
  | .subscript => 130
  | .cast => 140

namespace Level

variable (inner : Level)

/-- Any expression of the level below. -/
def anyExpression : Phrase :=
  inner.expression 0

/-! ## Operands -/

/-- A query in parentheses. -/
def subquery : Phrase :=
  parens inner.query

/-- One order of a list: an expression, a direction, and where nulls go. -/
def orderItem : Phrase :=
  seq [inner.anyExpression, optional (anyWord ["ASC", "DESC"]),
    after (word "NULLS") (anyWord ["FIRST", "LAST"])]

/-- An order clause, if there is one. -/
def orderClause : Phrase :=
  after (words ["ORDER", "BY"]) (commas inner.orderItem)

/-- The end of a window frame. -/
def frameBound : Phrase :=
  oneOf [
    words ["CURRENT", "ROW"],
    seq [oneOf [word "UNBOUNDED", inner.anyExpression], anyWord ["PRECEDING", "FOLLOWING"]]
  ]

/-- What a window is made of: another window, a partition, an order and a frame. -/
def windowParts : Phrase :=
  seq [
    fun tokens =>
      match anyWord ["PARTITION", "ORDER", "ROWS", "RANGE", "GROUPS"] tokens with
      | some _ => some tokens
      | none => optional identifier tokens,
    after (words ["PARTITION", "BY"]) (commas inner.anyExpression),
    inner.orderClause,
    after (anyWord ["ROWS", "RANGE", "GROUPS"])
      (oneOf [
        seq [word "BETWEEN", inner.frameBound, word "AND", inner.frameBound],
        inner.frameBound])
  ]

/-- All columns of one table, read up to the star. -/
def qualifiedWildcard : Phrase
  | first :: rest =>
      (identifier [first]).bind fun _ =>
        (repeated
          (fun tokens =>
            match tokens with
            | .symbol "." :: .symbol "*" :: _ => none
            | .symbol "." :: rest => some (identifier rest)
            | _ => none)
          rest).bind fun tokens => seq [symbol ".", symbol "*"] tokens
  | [] => none

/-- An item that may also be a star: all columns, or an expression. -/
def starOrExpression : Phrase :=
  oneOf [symbol "*", qualifiedWildcard, inner.anyExpression]

/-- One argument of a call, with or without its name. -/
def argument : Phrase :=
  oneOf [seq [identifier, symbol "=>", inner.starOrExpression], inner.starOrExpression]

/-- The arguments of a call, from the opening parenthesis on. -/
def arguments : Phrase :=
  seq [symbol "(",
    oneOf [
      symbol ")",
      seq [optional (anyWord ["DISTINCT", "ALL"]), commas inner.argument, inner.orderClause,
        after (word "LIMIT") inner.anyExpression, symbol ")"]]]

/-- A call after its name: arguments, ordered groups, a filter and a window. -/
def call : Phrase :=
  seq [
    inner.arguments,
    after (words ["WITHIN", "GROUP"]) (parens inner.orderClause),
    after (seq [word "FILTER", symbol "(", word "WHERE"])
      (seq [inner.anyExpression, symbol ")"]),
    after (anyWord ["RESPECT", "IGNORE"]) (word "NULLS"),
    after (word "OVER") (oneOf [parens inner.windowParts, identifier])
  ]

/-- The rest of a column or call after its first name. A star may only end it. -/
def nameTail : Phrase := fun tokens =>
  (repeated
    (fun tokens =>
      match tokens with
      | .symbol "." :: .symbol "*" :: _ => none
      | .symbol "." :: rest => some (identifier rest)
      | _ => none)
    tokens).bind fun rest =>
      match rest with
      | .symbol "." :: .symbol "*" :: rest => some rest
      | .symbol "(" :: _ => inner.call rest
      | _ => some rest

/-- A case distinction after its first word. -/
def caseTail : Phrase :=
  seq [
    oneOf [word "WHEN", seq [inner.anyExpression, word "WHEN"]],
    inner.anyExpression, word "THEN", inner.anyExpression,
    many (word "WHEN") (seq [inner.anyExpression, word "THEN", inner.anyExpression]),
    after (word "ELSE") inner.anyExpression,
    word "END"
  ]

/-- The units of intervals and of parts of times. -/
def timeUnit : Phrase :=
  anyWord [
    "YEAR", "YEARS", "MONTH", "MONTHS", "WEEK", "WEEKS", "DAY", "DAYS", "DATE", "HOUR", "HOURS",
    "MINUTE", "MINUTES", "SECOND", "SECONDS", "CENTURY", "DECADE", "DOW", "DOY", "EPOCH",
    "ISODOW", "ISOWEEK", "ISOYEAR", "JULIAN", "MICROSECOND", "MICROSECONDS", "MILLENIUM",
    "MILLENNIUM", "MILLISECOND", "MILLISECONDS", "NANOSECOND", "NANOSECONDS", "QUARTER",
    "TIMEZONE", "TIMEZONE_HOUR", "TIMEZONE_MINUTE"
  ]

/-- An interval after its first word. -/
def intervalTail : Phrase :=
  seq [inner.expression (Binding.cast.rank + 1),
    after timeUnit (seq [typeSize, after (word "TO") (seq [timeUnit, typeSize])])]

/-- The words that open an expression of a form of its own, with the rest of that form. -/
def wordForms : List (String × Phrase) :=
  let expression := inner.anyExpression
  let more (lead : Phrase) : Phrase := after lead expression
  [
    ("CASE", inner.caseTail),
    ("CAST", parens (seq [expression, word "AS", dataType])),
    ("TRY_CAST", parens (seq [expression, word "AS", dataType])),
    ("SAFE_CAST", parens (seq [expression, word "AS", dataType])),
    ("EXISTS", inner.subquery),
    ("EXTRACT", parens (seq [identifier, anyWord ["FROM"], expression])),
    ("CEIL", parens (seq [expression, branch [(word "TO", timeUnit), (symbol ",", number)]])),
    ("FLOOR", parens (seq [expression, branch [(word "TO", timeUnit), (symbol ",", number)]])),
    ("SUBSTRING",
      parens (seq [expression, more (oneOf [word "FROM", symbol ","]),
        more (oneOf [word "FOR", symbol ","])])),
    ("OVERLAY",
      parens (seq [expression, word "PLACING", expression, word "FROM", expression,
        more (word "FOR")])),
    ("TRIM",
      parens (seq [optional (anyWord ["BOTH", "LEADING", "TRAILING"]), expression,
        more (word "FROM")])),
    ("INTERVAL", inner.intervalTail),
    ("NOT", inner.expression Binding.negation.rank)
  ]

/-- An expression that starts with a word. -/
def wordOperand (upper : String) (rest : List Token) : Option (List Token) :=
  match inner.wordForms.lookup upper with
  | some form => form rest
  | none =>
      match upper, rest with
      | "TRUE", _ | "FALSE", _ | "NULL", _ => some rest
      | "CURRENT_CATALOG", _ | "CURRENT_USER", _ | "SESSION_USER", _ | "USER", _ => some rest
      | "ARRAY", .symbol "(" :: _ => inner.subquery rest
      | "ARRAY", .symbol "[" :: _ =>
          seq [symbol "[", optional (commas inner.anyExpression), symbol "]"] rest
      | "POSITION", .symbol "(" :: _ =>
          parens (seq [inner.expression Binding.range.rank, word "IN", inner.anyExpression]) rest
      | _, _ => inner.nameTail rest

/-- The operators that may stand before an operand, with what they bind. -/
def prefixBinding : String → Option Binding
  | "-" | "+" => some .product
  | "!!" | "|/" | "||/" | "@" | "~" => some .sum
  | _ => none

/-- A query or expressions in parentheses, and a field of their value. -/
def parenthesized : Phrase :=
  seq [
    symbol "(",
    fun tokens =>
      match anyWord ["SELECT", "WITH"] tokens with
      | some _ => inner.query tokens
      | none => commas inner.anyExpression tokens,
    symbol ")",
    after (symbol ".") identifier
  ]

/-- An operand. A built-in type may stand before a string. -/
def operand : Phrase := fun tokens =>
  match seq [builtinType, string] tokens with
  | some rest => some rest
  | none =>
      match tokens with
      | .word upper :: rest => inner.wordOperand upper rest
      | .name :: rest => inner.nameTail rest
      | .number :: rest | .text :: rest | .literal :: rest => some rest
      | .symbol "(" :: _ => inner.parenthesized tokens
      | .symbol "[" :: rest =>
          seq [optional (commas inner.anyExpression), symbol "]"] rest
      | .symbol ":" :: rest => identifier rest
      | .symbol operator :: rest =>
          (prefixBinding operator).bind fun binding => inner.expression binding.rank rest
      | [] => none

/-! ## Operators -/

/-- The operators of comparisons, sums and products. -/
def symbolBinding (operator : String) : Binding :=
  if ["=", "<", "<=", "<>", "!=", ">", ">=", "==", "~", "~*", "!~", "!~*", "~~", "~~*", "!~~",
      "!~~*", "<=>"].contains operator then .comparison
  else if ["+", "-"].contains operator then .sum
  else if ["*", "/", "%", "||"].contains operator then .product
  else if operator == "::" then .cast
  else if operator == "[" then .subscript
  else if ["!", "!!", "@", "|/", "||/", "=>"].contains operator then .none
  else if (operator.toList.head?.map isOperatorChar).getD false && operator != "\x60" then .other
  else .none

/-- The words that test membership, range or pattern. -/
def rangeWords : List String :=
  ["IN", "BETWEEN", "LIKE", "ILIKE", "SIMILAR", "REGEXP", "RLIKE"]

/-- How tightly the operator at the start of some tokens binds. -/
def bindingOf : List Token → Binding
  | .word "OR" :: _ => .disjunction
  | .word "AND" :: _ => .conjunction
  | .word "XOR" :: _ => .other
  | .word "IS" :: _ => .predicate
  | .word "AT" :: .word "TIME" :: .word "ZONE" :: _ => .zone
  | .word "NOT" :: .word next :: _ => if rangeWords.contains next then .range else .none
  | .word "OVERLAPS" :: _ | .word "OPERATOR" :: _ => .range
  | .word "COLLATE" :: _ => .collation
  | .word other :: _ => if rangeWords.contains other then .range else .none
  | .symbol operator :: _ => symbolBinding operator
  | _ => .none

/-- What may follow `IS`. -/
def predicateTail : Phrase :=
  seq [
    optional (word "NOT"),
    oneOf [anyWord ["NULL", "TRUE", "FALSE", "UNKNOWN"],
      seq [words ["DISTINCT", "FROM"], inner.anyExpression]]
  ]

/-- What may follow `IN`: a query or expressions in parentheses. -/
def membershipTail : Phrase :=
  parens fun tokens =>
    match anyWord ["SELECT", "WITH"] tokens with
    | some _ => inner.query tokens
    | none => commas inner.anyExpression tokens

/-- A test of membership, range or pattern, from its word on. -/
def rangeTail : Phrase :=
  let bound := inner.expression Binding.range.rank
  let escape := after (word "ESCAPE") string
  oneOf [
    seq [word "IN", inner.membershipTail],
    seq [word "BETWEEN", bound, word "AND", bound],
    seq [anyWord ["LIKE", "ILIKE"], optional (word "ANY"), bound, escape],
    seq [words ["SIMILAR", "TO"], bound, escape],
    seq [anyWord ["REGEXP", "RLIKE"], bound]
  ]

/-- The right side of a binary operator: an operand, or a quantified list or query. -/
def rightSide (binding : Binding) : Phrase := fun tokens =>
  match anyWord ["ANY", "ALL", "SOME"] tokens with
  | some rest =>
      parens
        (fun tokens =>
          match anyWord ["SELECT", "WITH"] tokens with
          | some _ => inner.query tokens
          | none => inner.expression binding.rank tokens)
        rest
  | none => inner.expression binding.rank tokens

/-- An operator and what follows it. -/
def operation (binding : Binding) : Phrase := fun tokens =>
  match tokens with
  | .word "IS" :: rest => inner.predicateTail rest
  | .word "AT" :: _ :: _ :: rest => inner.expression binding.rank rest
  | .word "NOT" :: rest => inner.rangeTail rest
  | .word "COLLATE" :: rest => objectName rest
  | .word "OPERATOR" :: rest =>
      seq [symbol "(", repeated fun tokens =>
          match tokens with
          | .symbol ")" :: _ | [] => none
          | _ :: rest => some (some rest),
        symbol ")", inner.expression binding.rank] rest
  | .word other :: rest =>
      if rangeWords.contains other then inner.rangeTail tokens else inner.rightSide binding rest
  | .symbol "::" :: rest => dataType rest
  | .symbol "[" :: rest =>
      seq [optional inner.anyExpression, after (symbol ":") (optional inner.anyExpression),
        symbol "]"] rest
  | _ :: rest => inner.rightSide binding rest
  | [] => none

/-- An expression whose operators bind more tightly than a precedence. -/
def expressionAbove (precedence : Nat) : Phrase :=
  seq [
    inner.operand,
    repeated fun tokens =>
      let binding := bindingOf tokens
      if precedence < binding.rank then some (inner.operation binding tokens) else none
  ]

end Level

end JoinLatency.Sql

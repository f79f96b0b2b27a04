import JoinLatency.Sql.Token

/-! Phrases: the ways in which a list of tokens may go on. A phrase takes the tokens that it
stands for and leaves the others; only a lookahead decides between optional parts, so what
follows a matching first word has to be complete.
-/

namespace JoinLatency.Sql

/-- A phrase answers with the tokens after it, or with nothing if they do not start with it. -/
abbrev Phrase := List Token → Option (List Token)

/-- The empty phrase. -/
def nothing : Phrase := some

/-- No phrase at all. -/
def never : Phrase := fun _ => none

/-- One word. -/
def word (upper : String) : Phrase
  | .word other :: rest => if other == upper then some rest else none
  | _ => none

/-- One mark or operator. -/
def symbol (text : String) : Phrase
  | .symbol other :: rest => if other == text then some rest else none
  | _ => none

/-- One token of a class. -/
def token (accept : Token → Bool) : Phrase
  | [] => none
  | first :: rest => if accept first then some rest else none

/-- Phrases one after the other. -/
def seq : List Phrase → Phrase
  | [] => nothing
  | first :: more => fun tokens => (first tokens).bind (seq more)

/-- Words one after the other. -/
def words (upper : List String) : Phrase :=
  seq (upper.map word)

/-- The first phrase that matches. -/
def oneOf (choices : List Phrase) : Phrase := fun tokens =>
  choices.findSome? (· tokens)

/-- One of some words. -/
def anyWord (upper : List String) : Phrase :=
  token fun first =>
    match first with
    | .word other => upper.contains other
    | _ => false

/-- A phrase that may be missing. -/
def optional (phrase : Phrase) : Phrase :=
  oneOf [phrase, nothing]

/-- A phrase that has to follow a lead, if the lead is there. -/
def after (lead body : Phrase) : Phrase := fun tokens =>
  match lead tokens with
  | some rest => body rest
  | none => some tokens

/-- The first body whose lead matches; none of them is needed. -/
def branch (choices : List (Phrase × Phrase)) : Phrase := fun tokens =>
  match choices.findSome? fun (lead, body) => (lead tokens).map (body, ·) with
  | some (body, rest) => body rest
  | none => some tokens

/-- A step is repeated as long as it applies. It answers with nothing when it does not apply, and
with the phrase to complete when it does.
-/
def repeated (step : List Token → Option (Option (List Token))) (tokens : List Token)
    : Option (List Token) :=
  match step tokens with
  | none => some tokens
  | some none => none
  | some (some rest) =>
      if rest.length < tokens.length then repeated step rest else none
termination_by tokens.length

/-- A body after each of any number of leads. -/
def many (lead body : Phrase) : Phrase :=
  repeated fun tokens => (lead tokens).map body

/-- One or more phrases with commas between them. -/
def commas (phrase : Phrase) : Phrase :=
  seq [phrase, many (symbol ",") phrase]

/-- A phrase in parentheses. -/
def parens (phrase : Phrase) : Phrase :=
  seq [symbol "(", phrase, symbol ")"]

/-! ## Names and types -/

/-- A name: any word, a quoted name, or a plain string. -/
def identifier : Phrase :=
  token fun first =>
    match first with
    | .word _ | .name | .text => true
    | _ => false

/-- Names with points between them. -/
def objectName : Phrase :=
  seq [identifier, many (symbol ".") identifier]

/-- A string in plain quotes. -/
def string : Phrase :=
  token (· == .text)

/-- A number. -/
def number : Phrase :=
  token (· == .number)

/-- Names in parentheses. -/
def columnNames : Phrase :=
  parens (commas identifier)

/-- An alias, with or without `AS`. Without it, a reserved word is not an alias. -/
def alias_ (reserved : List String) : Phrase
  | .word "AS" :: rest => identifier rest
  | .word other :: rest =>
      if reserved.contains other then some (.word other :: rest) else some rest
  | .name :: rest => some rest
  | .text :: rest => some rest
  | tokens => some tokens

/-- The words that end a table or a select item. -/
def reservedForAlias : List String := [
    "WITH", "EXPLAIN", "ANALYZE", "SELECT", "WHERE", "GROUP", "SORT", "HAVING", "ORDER", "TOP",
    "LATERAL", "VIEW", "LIMIT", "OFFSET", "FETCH", "UNION", "EXCEPT", "INTERSECT", "CLUSTER",
    "DISTRIBUTE", "RETURNING", "END"
  ]

/-- The words that are no alias of a select item. -/
def reservedForColumn : List String :=
  reservedForAlias ++ ["FROM", "INTO"]

/-- The words that are no alias of a table. -/
def reservedForTable : List String :=
  reservedForAlias ++ [
    "PIVOT", "UNPIVOT", "ON", "JOIN", "INNER", "CROSS", "FULL", "LEFT", "RIGHT", "NATURAL",
    "USING", "GLOBAL", "ANTI", "SEMI", "ASOF", "MATCH_CONDITION", "OUTER", "SET", "QUALIFY",
    "WINDOW", "FOR", "PARTITION", "PREWHERE", "SETTINGS", "FORMAT", "START", "CONNECT",
    "MATCH_RECOGNIZE"
  ]

/-- Lengths and scales behind a type name. -/
def typeSize : Phrase :=
  optional (parens (commas (token fun first =>
    match first with
    | .word _ | .number | .text => true
    | _ => false)))

/-- Type names of several words, and types that a literal may follow. -/
def builtinType : Phrase :=
  oneOf [
    seq [word "DOUBLE", optional (word "PRECISION"), typeSize],
    seq [anyWord ["CHAR", "CHARACTER"],
      optional (oneOf [word "VARYING", words ["LARGE", "OBJECT"]]), typeSize],
    seq [anyWord ["TIMESTAMP", "TIME"], typeSize,
      optional (seq [anyWord ["WITH", "WITHOUT"], words ["TIME", "ZONE"]])],
    seq [word "BIT", optional (word "VARYING"), typeSize],
    seq [anyWord [
        "BOOLEAN", "BOOL", "FLOAT", "REAL", "FLOAT4", "FLOAT8", "TINYINT", "SMALLINT", "INT2",
        "MEDIUMINT", "INT", "INT4", "INT8", "INTEGER", "BIGINT", "VARCHAR", "NVARCHAR", "CLOB",
        "BLOB", "BINARY", "VARBINARY", "TEXT", "BYTEA", "UUID", "DATE", "DATETIME",
        "TIMESTAMPTZ", "TIMETZ", "JSON", "JSONB", "REGCLASS", "STRING", "NUMERIC", "DECIMAL",
        "DEC", "BIGNUMERIC"],
      typeSize, optional (word "UNSIGNED")]
  ]

/-- A type: a built-in one, an interval, or any name with a size, and the brackets of arrays. -/
def dataType : Phrase :=
  seq [
    oneOf [builtinType, seq [objectName, typeSize]],
    many (symbol "[") (seq [optional number, symbol "]"])
  ]

end JoinLatency.Sql

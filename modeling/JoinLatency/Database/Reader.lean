import JoinLatency.Database.Token

/-! Readers take values off the front of a list of tokens. A reader that fails takes nothing.
-/

namespace JoinLatency.Database

/-- A reader of values. -/
abbrev Reader := StateT (List Token) Option

namespace Reader

variable {α : Type}

/-- The next token. -/
def next : Reader Token
  | [] => none
  | token :: rest => some (token, rest)

/-- The end of the tokens. -/
def ended : Reader Unit
  | [] => some ((), [])
  | _ => none

/-- A word in any case. -/
def word (upper : String) : Reader Unit := do
  match ← next with
  | .word text => if text.map Char.toUpper == upper then return () else failure
  | _ => failure

/-- Words one after the other. -/
def words (upper : List String) : Reader Unit :=
  upper.forM word

/-- An operator or a mark. -/
def symbol (mark : String) : Reader Unit := do
  if (← next) == .symbol mark then return () else failure

/-- Whether something is there; if so, it is taken. -/
def accepts (reader : Reader Unit) : Reader Bool :=
  (do reader; return true) <|> return false

/-- A value, if one is there. -/
def optional? (reader : Reader α) : Reader (Option α) :=
  (do return some (← reader)) <|> return none

/-- As many values as there are, up to a number. -/
def upTo (reader : Reader α) : Nat → Reader (List α)
  | 0 => return []
  | n + 1 => (do return (← reader) :: (← upTo reader n)) <|> return []

/-- As many values as there are. -/
def many (reader : Reader α) : Reader (List α) := do
  upTo reader (← get).length

/-- One or more values with commas between them. -/
def commas (reader : Reader α) : Reader (List α) := do
  return (← reader) :: (← many do symbol ","; reader)

/-- A value in parentheses. -/
def parens (reader : Reader α) : Reader α := do
  symbol "("
  let value ← reader
  symbol ")"
  return value

/-! ## Names -/

/-- The words that are no names. -/
def reserved : List String := [
    "ADD", "ALL", "ALTER", "AND", "AS", "AUTOINCREMENT", "BETWEEN", "CASE", "CHECK", "COLLATE",
    "COMMIT", "CONSTRAINT", "CREATE", "DEFAULT", "DEFERRABLE", "DELETE", "DISTINCT", "DROP",
    "ELSE", "ESCAPE", "EXISTS", "FOREIGN", "FROM", "GROUP", "HAVING", "IN", "INDEX", "INSERT",
    "INTO", "IS", "ISNULL", "JOIN", "LIMIT", "NOT", "NOTHING", "NOTNULL", "NULL", "ON", "OR",
    "ORDER", "PRIMARY", "REFERENCES", "RETURNING", "SELECT", "SET", "TABLE", "THEN", "TO",
    "TRANSACTION", "UNIQUE", "UPDATE", "USING", "VALUES", "WHEN", "WHERE",
    "EXCEPT", "INTERSECT", "UNION"
  ]

/-- The words that are names, but stand before a join where an alias could stand. -/
def joinWords : List String :=
  ["CROSS", "FULL", "INDEXED", "INNER", "LEFT", "NATURAL", "OUTER", "RIGHT"]

/-- A plain name that is none of some words. -/
def nameOutside (words : List String) : Reader String := do
  match ← next with
  | .word text => if words.contains (text.map Char.toUpper) then failure else return text
  | .name text | .text text => return text
  | _ => failure

/-- The name of a table or a column. -/
def name : Reader String :=
  nameOutside reserved

/-- A second name, with or without the word before it. -/
def label? : Reader (Option String) :=
  optional? ((do word "AS"; name) <|> nameOutside (reserved ++ joinWords))

/-- A whole number with an optional sign. -/
def integer : Reader Int := do
  let negative ← accepts (symbol "-")
  match ← next with
  | .number digits =>
      if digits.all Char.isDigit then
        let n : Int := Nat.ofDigitChars 10 digits 0
        return if negative then -n else n
      else failure
  | _ => failure

end Reader

end JoinLatency.Database

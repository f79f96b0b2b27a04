import JoinLatency.Database.Reader
import JoinLatency.Database.Value
import JoinLatency.Decimal.Literal

/-! Expressions over columns. They are read with names, resolved to positions in a row, and then
evaluated on rows.
-/

namespace JoinLatency.Database

/-- A column by its name, and by that of its table if it is given. -/
structure ColumnName where
  table : Option String
  column : String
  deriving DecidableEq, Repr

/-- Expressions over columns of some kind. -/
inductive Expression (κ : Type)
  | column (c : κ)
  | literal (value : Value)
  | arithmetic (operation : Arithmetic) (a b : Expression κ)
  | comparison (test : Comparison) (a b : Expression κ)
  | conjunction (a b : Expression κ)
  | disjunction (a b : Expression κ)
  | negation (a : Expression κ)
  | isNull (a : Expression κ)
  | absolute (a : Expression κ)
  | choice (condition yes no : Expression κ)
  deriving Repr

namespace Expression

/-! ## Resolution and evaluation -/

variable {κ ι : Type}

/-- The expression with every column replaced, if all of them can be. -/
def resolve (find : κ → Except Fault ι) : Expression κ → Except Fault (Expression ι)
  | .column c => .column <$> find c
  | .literal value => .ok (.literal value)
  | .arithmetic operation a b => return .arithmetic operation (← resolve find a) (← resolve find b)
  | .comparison test a b => return .comparison test (← resolve find a) (← resolve find b)
  | .conjunction a b => return .conjunction (← resolve find a) (← resolve find b)
  | .disjunction a b => return .disjunction (← resolve find a) (← resolve find b)
  | .negation a => .negation <$> resolve find a
  | .isNull a => .isNull <$> resolve find a
  | .absolute a => .absolute <$> resolve find a
  | .choice condition yes no =>
      return .choice (← resolve find condition) (← resolve find yes) (← resolve find no)

/-- The value of an expression on a row. A side of a conjunction or disjunction that does not
matter is not evaluated, nor is the branch of a choice that is not taken.
-/
def evaluate (row : List Value) : Expression Nat → Except Fault Value
  | .column c => .ok (row[c]?.getD .null)
  | .literal value => .ok value
  | .arithmetic operation a b => return .arithmetic operation (← evaluate row a) (← evaluate row b)
  | .comparison test a b => return .comparison test (← evaluate row a) (← evaluate row b)
  | .conjunction a b => do
      match (← evaluate row a).truth? with
      | some false => return .ofBool false
      | first =>
          match first, (← evaluate row b).truth? with
          | _, some false => return .ofBool false
          | some true, some true => return .ofBool true
          | _, _ => return .null
  | .disjunction a b => do
      match (← evaluate row a).truth? with
      | some true => return .ofBool true
      | first =>
          match first, (← evaluate row b).truth? with
          | _, some true => return .ofBool true
          | some false, some false => return .ofBool false
          | _, _ => return .null
  | .negation a => return .ofTruth ((← evaluate row a).truth?.map not)
  | .isNull a => do
      match ← evaluate row a with
      | .null => return .ofBool true
      | _ => return .ofBool false
  | .absolute a => do (← evaluate row a).absolute
  | .choice condition yes no => do
      if (← evaluate row condition).truth? == some true then evaluate row yes
      else evaluate row no

end Expression

/-! ## Readers -/

/-- An expression whose columns are names. -/
abbrev NamedExpression := Expression ColumnName

namespace NamedExpression

open Reader

/-- A number: an integer if it has only digits and is in range, else a real. -/
def ofNumber (digits : List Char) : NamedExpression :=
  if digits.all Char.isDigit then
    .literal (.ofInt (Nat.ofDigitChars 10 digits 0))
  else
    match Decimal.literal digits with
    | .ok x => .literal (.real x)
    | .error _ => .literal .null

/-- The opposite of an expression; that of the integer just out of range is in range again. -/
def opposite (a : NamedExpression) : NamedExpression :=
  match a with
  | .literal (.real x) =>
      if x == Float.ofInt (greatestInteger + 1) then .literal (.integer leastInteger)
      else .literal (.real (-x))
  | a => .arithmetic .difference (.literal (.integer 0)) a

/-- A column after its first name. -/
def columnFrom (first : String) : Reader NamedExpression := do
  match ← optional? (do symbol "."; name) with
  | some column => return .column { table := some first, column }
  | none => return .column { table := none, column := first }

/-- A choice after its first word. With a subject, each case is compared with it. -/
def choiceTail (inner : Reader NamedExpression) : Reader NamedExpression := do
  let subject ← optional? inner
  let case := do
    word "WHEN"
    let condition ← inner
    word "THEN"
    return (condition, ← inner)
  let first ← case
  let more ← many case
  let last ← optional? (do word "ELSE"; inner)
  word "END"
  let test (condition : NamedExpression) : NamedExpression :=
    match subject with
    | some subject => .comparison .equal subject condition
    | none => condition
  return (first :: more).foldr (fun (condition, yes) no => .choice (test condition) yes no)
    (last.getD (.literal .null))

/-- An operand that starts with a plain word. -/
def wordOperand (inner : Reader NamedExpression) (text : String) : Reader NamedExpression := do
  match text.map Char.toUpper with
  | "NULL" => return .literal .null
  | "CASE" => choiceTail inner
  | upper =>
      if reserved.contains upper then failure
      else if upper == "ABS" then
        (do return .absolute (← parens inner)) <|> columnFrom text
      else columnFrom text

/-- An operand. -/
def operand (inner : Reader NamedExpression) : Reader NamedExpression := do
  match ← next with
  | .number digits => return ofNumber digits
  | .text content => return .literal (.text content)
  | .name text => columnFrom text
  | .word text => wordOperand inner text
  | .symbol "(" => do
      let expression ← inner
      symbol ")"
      return expression
  | .symbol _ => failure

/-- One of some operators. -/
def operator {α : Type} (operators : List (String × α)) : Reader α := do
  match ← next with
  | .symbol mark =>
      match operators.lookup mark with
      | some value => return value
      | none => failure
  | .word text =>
      match operators.lookup (text.map Char.toUpper) with
      | some value => return value
      | none => failure
  | _ => failure

/-- The ways to join two expressions. -/
abbrev Join := NamedExpression → NamedExpression → NamedExpression

/-- Expressions joined from the left by some operators. -/
def chain (operators : List (String × Join)) (part : Reader NamedExpression)
    : Reader NamedExpression := do
  let first ← part
  let more ← many do return (← operator operators, ← part)
  return more.foldl (fun left (join, right) => join left right) first

/-- An operand after any number of signs. -/
def signed (inner : Reader NamedExpression) : Reader NamedExpression := do
  let signs ← many (operator [("-", opposite), ("+", id)])
  return signs.foldr (fun sign expression => sign expression) (← operand inner)

/-- Products and quotients. -/
def products (inner : Reader NamedExpression) : Reader NamedExpression :=
  chain [("*", .arithmetic .product), ("/", .arithmetic .quotient), ("%", .arithmetic .remainder)]
    (signed inner)

/-- Sums and differences. -/
def sums (inner : Reader NamedExpression) : Reader NamedExpression :=
  chain [("+", .arithmetic .sum), ("-", .arithmetic .difference)] (products inner)

/-- Comparisons by order. -/
def orders (inner : Reader NamedExpression) : Reader NamedExpression :=
  chain [("<", .comparison .less), ("<=", .comparison .lessOrEqual),
    (">", .comparison .greater), (">=", .comparison .greaterOrEqual)] (sums inner)

/-- Tests for null that may follow an expression. -/
def nullTest : Reader (NamedExpression → NamedExpression) :=
  (do words ["IS", "NULL"]; return .isNull)
    <|> (do words ["IS", "NOT", "NULL"]; return fun a => .negation (.isNull a))
    <|> (do word "ISNULL"; return .isNull)
    <|> (do word "NOTNULL"; return fun a => .negation (.isNull a))

/-- Tests for equality and for null. -/
def equalities (inner : Reader NamedExpression) : Reader NamedExpression := do
  let tests : List (String × Join) := [("=", .comparison .equal), ("==", .comparison .equal),
    ("<>", .comparison .unequal), ("!=", .comparison .unequal)]
  let first ← orders inner
  let more ← many
    ((do
        let join ← operator tests
        let right ← orders inner
        return fun left => join left right)
      <|> nullTest)
  return more.foldl (fun left test => test left) first

/-- Negations. -/
def negations (inner : Reader NamedExpression) : Reader NamedExpression := do
  let negations ← many (word "NOT")
  return negations.foldr (fun _ expression => .negation expression) (← equalities inner)

/-- Any expression around the expressions of a reader. -/
def around (inner : Reader NamedExpression) : Reader NamedExpression :=
  chain [("OR", .disjunction)] (chain [("AND", .conjunction)] (negations inner))

/-- Expressions that nest up to a depth. -/
def ofDepth : Nat → Reader NamedExpression
  | 0 => failure
  | depth + 1 => around (fun tokens => ofDepth depth tokens)

/-- How deeply expressions may nest. -/
def deepest : Nat := 100

/-- Any expression. -/
def any : Reader NamedExpression :=
  ofDepth deepest

end NamedExpression

end JoinLatency.Database

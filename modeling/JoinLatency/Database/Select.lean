import JoinLatency.Database.Basic
import JoinLatency.Database.Expression

/-! Selections: the rows of joined tables that meet all conditions. A selection may start from a
series of numbers instead of stored tables. An order does not change how many rows there are; all
of them are known before the first one then.
-/

namespace JoinLatency.Database

/-- What a selection shows of a row. -/
inductive Item
  | everything
  | everythingOf (table : String)
  | value (expression : NamedExpression) (label : Option String)
  deriving Repr

/-- A table of a selection, with the name that it goes by there. -/
structure Source where
  table : String
  label : String
  deriving DecidableEq, Repr

/-- A table of one column that counts up from a number, at least once and for as long as the last
number is below a bound.
-/
structure Series where
  table : String
  column : String
  start : Int
  bound : Int
  deriving DecidableEq, Repr

/-- A selection. Orders without an expression are random. -/
structure Select where
  series : Option Series := none
  items : List Item
  sources : List Source := []
  conditions : List NamedExpression := []
  orders : List (Option NamedExpression) := []
  limit : Int := -1
  offset : Int := 0
  deriving Repr

/-! ## Readers -/

namespace Select

open Reader

/-- An item of a selection. -/
def item : Reader Item :=
  (do symbol "*"; return .everything)
    <|> (do
      let table ← name
      symbol "."
      symbol "*"
      return .everythingOf table)
    <|> (do
      let expression ← NamedExpression.any
      return .value expression (← label?))

/-- A table with an optional second name. -/
def source : Reader Source := do
  let table ← name
  return { table, label := (← label?).getD table }

/-- What joins two tables: a comma or the words for a join. -/
def joint : Reader Unit :=
  symbol "," <|> word "JOIN" <|> words ["INNER", "JOIN"] <|> words ["CROSS", "JOIN"]

/-- Joined tables and the conditions of their joins. -/
def sourceClause : Reader (List Source × List NamedExpression) := do
  word "FROM"
  let first ← source
  let more ← many do
    joint
    let next ← source
    return (next, ← optional? (do word "ON"; NamedExpression.any))
  return (first :: more.map (·.1), more.filterMap (·.2))

/-- One order of the rows. -/
def order : Reader (Option NamedExpression) := do
  let order ←
    (do
        word "RANDOM"
        symbol "("
        symbol ")"
        return none)
      <|> some <$> NamedExpression.any
  let _ ← accepts (word "ASC" <|> word "DESC")
  return order

/-- A limit and an offset. -/
def bounds : Reader (Int × Int) := do
  word "LIMIT"
  let first ← integer
  match ← optional? (do symbol ","; integer) with
  | some limit => return (limit, first)
  | none => return (first, (← optional? (do word "OFFSET"; integer)).getD 0)

/-- A selection from stored tables. -/
def plain : Reader Select := do
  word "SELECT"
  let _ ← accepts (word "ALL")
  let items ← commas item
  let (sources, joins) := (← optional? sourceClause).getD ([], [])
  let condition ← optional? (do word "WHERE"; NamedExpression.any)
  let orders ← optional? (do words ["ORDER", "BY"]; commas order)
  let (limit, offset) := (← optional? bounds).getD (-1, 0)
  return {
    items, sources, limit, offset
    conditions := joins ++ condition.toList
    orders := orders.getD []
  }

/-- A given name again. -/
def again (known : String) : Reader Unit := do
  if sameName (← name) known then return () else failure

/-- A series: a start, and a step by one from each number below a bound. -/
def countedSeries : Reader Series := do
  word "WITH"
  let _ ← accepts (word "RECURSIVE")
  let table ← name
  let column ← parens name
  word "AS"
  parens do
    word "SELECT"
    let start ← integer
    words ["UNION", "ALL", "SELECT"]
    again column
    symbol "+"
    if (← integer) != 1 then failure
    word "FROM"
    again table
    word "WHERE"
    again column
    symbol "<"
    return { table, column, start, bound := ← integer }

/-- Any selection. -/
def any : Reader Select := do
  let series ← optional? countedSeries
  return { ← plain with series }

end Select

/-! ## Meaning -/

/-- The columns of joined tables: the name of the table and the name of the column. -/
abbrev Scope := List (String × String)

/-- The position of a column in the rows of a scope. -/
def Scope.find (scope : Scope) (column : ColumnName) : Except Fault Nat :=
  let fits := fun (entry : (String × String) × Nat) =>
    sameName entry.1.2 column.column
      && (column.table.map (sameName entry.1.1)).getD true
  match scope.zipIdx.filter fits with
  | [(_, position)] => .ok position
  | [] => .error (.noColumn column.column)
  | _ => .error (.ambiguousColumn column.column)

/-- The numbers of a series. -/
def Series.numbers (series : Series) : List Int :=
  (List.range (max 1 (series.bound - series.start + 1).toNat)).map
    fun (n : Nat) => series.start + n

/-- A series as a table. -/
def Series.relation (series : Series) : Relation where
  columns := [series.column]
  rows := series.numbers.map fun n => [.integer n]

/-- The tables whose names a selection uses, without its series. -/
def Select.stored (select : Select) : List Source :=
  select.sources.filter fun source =>
    !(select.series.map fun series => sameName series.table source.table).getD false

/-- The table of a source. -/
def Select.relation (select : Select) (database : Database) (source : Source)
    : Except Fault Relation :=
  match select.series with
  | some series =>
      if sameName series.table source.table then .ok series.relation
      else database.find source.table
  | none => database.find source.table

/-- The columns of tables that go by some names. -/
def scopeOf (tables : List (Source × Relation)) : Scope :=
  tables.flatMap fun (source, relation) => relation.columns.map fun column => (source.label, column)

/-- All ways to join one row of each table, those of the first table outermost. -/
def joined : List (List (List Value)) → List (List Value)
  | [] => [[]]
  | rows :: rest =>
      let tails := joined rest
      rows.flatMap fun row => tails.map (row ++ ·)

/-- An item as positions, expressions and column names. -/
def Item.resolve (scope : Scope) : Item → Except Fault (List (String × Expression Nat))
  | .everything =>
      if scope.isEmpty then .error .noSources
      else .ok (scope.zipIdx.map fun ((_, column), position) => (column, .column position))
  | .everythingOf table =>
      let columns := scope.zipIdx.filter fun ((label, _), _) => sameName label table
      if columns.isEmpty then .error (.noTable table)
      else .ok (columns.map fun ((_, column), position) => (column, .column position))
  | .value expression label => do
      let resolved ← expression.resolve scope.find
      let plain :=
        match expression with
        | .column c => c.column
        | _ => "expression"
      return [(label.getD plain, resolved)]

/-- An order can be followed if its columns exist, or if it is the alias of an item. -/
def Select.checkOrder (select : Select) (scope : Scope) (order : Option NamedExpression)
    : Except Fault Unit :=
  let aliases := select.items.filterMap fun item =>
    match item with
    | .value _ label => label
    | _ => none
  match order with
  | none => .ok ()
  | some (.column { table := none, column }) =>
      if aliases.any (sameName column) then .ok ()
      else (scope.find { table := none, column }).map fun _ => ()
  | some expression => (expression.resolve scope.find).map fun _ => ()

/-- Whether all conditions hold on a row. -/
def meets (row : List Value) : List (Expression Nat) → Except Fault Bool
  | [] => .ok true
  | condition :: rest => do
      if (← condition.evaluate row).truth? == some true then meets row rest else return false

/-- What a selection makes of one joined row: nothing, a result, or a fault. -/
def resultOf (conditions items : List (Expression Nat)) (row : List Value)
    : Option (Except Fault (List Value)) :=
  match meets row conditions with
  | .error fault => some (.error fault)
  | .ok false => none
  | .ok true => some (items.mapM (Expression.evaluate row))

/-- The part of a list that an offset and a limit leave; a negative limit is none. -/
def within {α : Type} (offset limit : Int) (values : List α) : List α :=
  let values := values.drop offset.toNat
  if limit < 0 then values else values.take limit.toNat

/-- The rows of a list of results up to the first fault, and that fault. -/
def upToFault : List (Except Fault (List Value)) → List (List Value) × Option Fault
  | [] => ([], none)
  | .error fault :: _ => ([], some fault)
  | .ok row :: rest =>
      let (rows, fault) := upToFault rest
      (row :: rows, fault)

/-- The rows of a selection, up to the fault that ended it if there was one. -/
structure Selection where
  columns : List String
  rows : List (List Value)
  fault : Option Fault

/-- The rows of ordered results: none before all of them are known to be good. -/
def orderedRows (results : List (Except Fault (List Value)))
    : List (Except Fault (List Value)) :=
  match (upToFault results).2 with
  | some fault => [.error fault]
  | none => results

/-- The columns and results of a selection. -/
def Select.run (select : Select) (database : Database) : Except Fault Selection := do
  let tables ← select.sources.mapM fun source =>
    return (source, ← select.relation database source)
  let scope := scopeOf tables
  let items := (← select.items.mapM (Item.resolve scope)).flatten
  let conditions ← select.conditions.mapM (Expression.resolve scope.find)
  select.orders.forM (select.checkOrder scope)
  let candidates := joined (tables.map fun (_, relation) => relation.rows)
  let results := candidates.filterMap (resultOf conditions (items.map (·.2)))
  let ordered := if select.orders.isEmpty then results else orderedRows results
  let (rows, fault) := upToFault (within select.offset select.limit ordered)
  return { columns := items.map (·.1), rows, fault }

end JoinLatency.Database

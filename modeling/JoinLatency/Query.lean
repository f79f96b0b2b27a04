import JoinLatency.Template

/-! Query templates are templates whose text for every variant is exactly one query, by some grammar
of statements.
-/

namespace JoinLatency

/-- What kind of statement a text holds. -/
inductive StatementKind
  | query
  | other
  deriving DecidableEq, Repr

/-- A grammar tells the kinds of the statements of a text, if it is grammatical. -/
abbrev Grammar := String → Option (List StatementKind)

/-- A text is accepted when it is grammatical and holds one statement, which is a query. -/
def Grammar.checkQuery (grammar : Grammar) (sql : String) : Except Error String :=
  match grammar sql with
  | none => .error (.query (.ungrammatical sql))
  | some [.query] => .ok sql
  | some [.other] => .error (.query (.notQuery sql))
  | some kinds => .error (.query (.statementCount kinds.length sql))

/-- A template for a query, with the grammar that its texts follow. -/
structure QueryTemplate where
  template : Template
  grammar : Grammar

namespace QueryTemplate

/-- The query template of a source text. Only the placeholders are checked. -/
def ofSource (grammar : Grammar) (source : String) : Except Error QueryTemplate := do
  return { template := ← Template.ofSource source, grammar }

/-- The query for a variant. -/
def render (query : QueryTemplate) (variant : Variant) : Except Error String := do
  query.grammar.checkQuery (← query.template.render variant)

end QueryTemplate

end JoinLatency

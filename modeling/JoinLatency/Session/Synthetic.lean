import JoinLatency.Session.Basic

/-! Synthetic sessions record every statement and answer every query with the same number of
rows. Scripted failures strike the queries that contain a pattern.
-/

namespace JoinLatency

/-- A failure of the queries that contain a pattern, after a number of rows. -/
structure ScriptedFailure where
  pattern : String
  after : Nat
  error : FetchError
  deriving DecidableEq, Repr

/-- A session without a database. -/
structure SyntheticSession where
  clock : Duration := .zero
  rows : Nat
  delay : Duration
  failures : List ScriptedFailure := []
  executed : List String := []
  deriving DecidableEq, Repr

/-- Whether a pattern starts at some position of a text, its end included. -/
def occursIn (pattern : List Char) : List Char → Bool
  | [] => pattern.isEmpty
  | c :: rest => pattern.isPrefixOf (c :: rest) || occursIn pattern rest

/-- Whether a text contains a pattern; every text contains the empty one. -/
def containsText (text pattern : String) : Bool :=
  occursIn pattern.toList text.toList

namespace SyntheticSession

/-- The session after some statements were recorded. -/
def record (session : SyntheticSession) (statements : List String) : SyntheticSession :=
  { session with executed := session.executed ++ statements }

/-- The failure of a query: the first one with a pattern that it contains. -/
def failureOf? (session : SyntheticSession) (sql : String) : Option (Nat × FetchError) :=
  (session.failures.find? fun failure => containsText sql failure.pattern).map
    fun failure => (failure.after, failure.error)

/-- The cursor of a query. -/
def cursor (session : SyntheticSession) (sql : String) : SyntheticCursor where
  clock := session.clock
  rows := session.rows
  delay := session.delay
  failure := session.failureOf? sql

/-- The keyword of the statements that apply settings. -/
def keyword : String := "SET"

end SyntheticSession

instance : Session SyntheticSession SyntheticCursor where
  now := SyntheticSession.clock
  configure session settings :=
    (.ok (), session.record (settings.statements SyntheticSession.keyword))
  execute session sql := (.ok (), session.record [sql])
  submit session sql := (.ok (session.cursor sql), session.record [sql])
  release session cursor := { session with clock := cursor.clock }

end JoinLatency

import JoinLatency.Database.Session
import JoinLatency.Proofs.Database.Lexing
import JoinLatency.Proofs.Database.Reading
import JoinLatency.Proofs.Outcome

/-! Databases under transactions. A batch runs statement by statement up to the first one that is
refused. Inside a transaction tables are defined and dropped without touching what is committed,
until the transaction is committed or rolled back.
-/

namespace JoinLatency

open JoinLatency.Database

variable {S D C : Type} [RowSource C] [Session S C]

-----------------------------------------------------------------------------------------
-- Transactional sessions
-----------------------------------------------------------------------------------------

/-- What a batch does behind a first statement: nothing more if that was refused. -/
def Session.andThen (first : Except Error Unit × S) (more : S → Except Error Unit × S)
    : Except Error Unit × S :=
  match first with
  | (.error error, session) => (.error error, session)
  | (.ok (), session) => more session

/-- The starts of the statements that define or drop a table. -/
def definitions : List String :=
  ["CREATE TABLE ", "DROP TABLE "]

/-- A session on a transactional database, as far as plain statements go. A refused definition or
commit may end the transaction, but it commits nothing.
-/
structure Transactional (S D : Type) {C : Type} [RowSource C] [Session S C] where
  /-- The committed state of the database, and that of the open transaction. -/
  state : S → Transaction D
  sequence
    : ∀ (session : S) {statement : String}, Plain statement.toList →
        ∀ more, Session.execute session (statement ++ ";" ++ more)
          = Session.andThen (Session.execute session statement) (Session.execute · more)
  blank
    : ∀ session : S, ∀ c ∈ [' ', '\n'],
        ∀ more, Session.execute session (String.singleton c ++ more) = Session.execute session more
  nothing : ∀ session : S, Session.execute session "" = (.ok (), session)
  start
    : ∀ {session next : S}, (state session).isOpen = false →
        Session.execute session "BEGIN" = (.ok (), next) →
          state next
          = {
            committed := (state session).committed
            working := some (state session).committed
          }
  start_refused
    : ∀ {session next : S} {error : Error}, (state session).isOpen = false →
        Session.execute session "BEGIN" = (.error error, next) → state next = state session
  define
    : ∀ {session : S}, (state session).isOpen = true →
        ∀ definition ∈ definitions, ∀ {text : String}, Plain (definition ++ text).toList →
          let (answer, next) := Session.execute session (definition ++ text)
          (state next).committed = (state session).committed
          ∧ (answer = .ok () → (state next).isOpen = true)
  commit
    : ∀ {session next : S}, (state session).isOpen = true →
        Session.execute session "COMMIT" = (.ok (), next) →
          state next = { committed := (state session).current }
  commit_refused
    : ∀ {session next : S} {error : Error}, (state session).isOpen = true →
        Session.execute session "COMMIT" = (.error error, next) →
          (state next).committed = (state session).committed
  rollback
    : ∀ session : S,
        state (Session.execute session "ROLLBACK").2 = { committed := (state session).committed }

/-- Without an open transaction there is nothing but the committed state. -/
theorem Database.Transaction.eq_of_closed {transaction : Transaction D}
    (h : transaction.isOpen = false)
    : transaction = { committed := transaction.committed } := by
  obtain ⟨committed, working⟩ := transaction
  cases working with
  | none => rfl
  | some state => cases h

-----------------------------------------------------------------------------------------
-- Batches of a store
-----------------------------------------------------------------------------------------

namespace Database.Store

/-- Statements in a row run on what those before them left, by induction along these. -/
theorem runAll_append (store : Store) (first later : List (Option (List Token)))
    : store.runAll (first ++ later)
      = match store.runAll first with
        | (.error fault, after) => (.error fault, after)
        | (.ok (), after) => after.runAll later := by
  induction first generalizing store with
  | nil => rfl
  | cons tokens rest ih =>
      rw [List.cons_append, runAll, runAll]
      cases store.runOne tokens with
      | error fault => rfl
      | ok after => exact ih after

theorem runAll_singleton (store : Store) (tokens : Option (List Token))
    : store.runAll [tokens]
      = match store.runOne tokens with
        | .error fault => (.error fault, store)
        | .ok after => (.ok (), after) := by
  rw [runAll]
  cases store.runOne tokens <;> rfl

/-- A statement of a batch starts a prepared outcome that does not fail at once. -/
theorem runOne_eq_ok {store after : Store} {tokens : Option (List Token)}
    (h : store.runOne tokens = .ok after)
    : ∃ statement outcome,
        Statement.ofTokens tokens = .ok statement
        ∧ store.prepare statement = .ok outcome
        ∧ outcome.after = after := by
  obtain ⟨statement, read, later⟩ := bind_eq_ok.mp h
  obtain ⟨outcome, prepared, made⟩ := bind_eq_ok.mp later
  refine ⟨statement, outcome, read, prepared, ?_⟩
  split at made
  · cases made
  · exact Except.ok.inj made

/-- A batch whose first part is plain. -/
theorem execute_semicolon (store : Store) {text : String} (plain : Plain text.toList)
    (more : String)
    : store.execute (text ++ ";" ++ more)
      = match store.execute text with
        | (.error fault, after) => (.error fault, after)
        | (.ok (), after) => after.execute more := by
  rw [execute, statements_semicolon plain, runAll_append, execute]
  cases lexed : tokens? text.toList with
  | some tokens => rfl
  | none =>
      rw [statements_of_plain plain, lexed]
      rfl

-----------------------------------------------------------------------------------------
-- Definitions
-----------------------------------------------------------------------------------------

/-- What a definition may do to a store: nothing, or a change of its tables. -/
def Changes (store after : Store) : Prop :=
  after = store ∨ ∃ database, after = store.change database

theorem Changes.transaction {store after : Store} (h : store.Changes after)
    (inside : store.transaction.isOpen = true)
    : after.transaction.committed = store.transaction.committed
      ∧ after.transaction.isOpen = true := by
  rcases h with rfl | ⟨database, rfl⟩
  · exact ⟨rfl, inside⟩
  · constructor
    · exact Transaction.committed_change inside database
    · exact (Transaction.isOpen_change _ _).trans inside

theorem changes_drop {store : Store} {table : String} {ifPresent : Bool} {outcome : Outcome}
    (h : store.prepare (.drop table ifPresent) = .ok outcome)
    : store.Changes outcome.after := by
  obtain ⟨database, _, made⟩ := bind_eq_ok.mp h
  split at made
  · cases made
    exact .inr ⟨_, rfl⟩
  · split at made
    · cases made
      exact .inl rfl
    · cases made

theorem changes_create {store : Store} {table : String} {ifMissing : Bool}
    {columns : List String} {outcome : Outcome}
    (h : store.prepare (.create table ifMissing columns) = .ok outcome)
    : store.Changes outcome.after := by
  obtain ⟨database, _, later⟩ := bind_eq_ok.mp h
  obtain ⟨new, _, made⟩ := bind_eq_ok.mp later
  split at made
  · split at made
    · cases made
    · cases made
      exact .inr ⟨_, rfl⟩
  · cases made
    exact .inl rfl

theorem changes_createFrom {store : Store} {table : String} {ifMissing : Bool}
    {select : Select} {outcome : Outcome}
    (h : store.prepare (.createFrom table ifMissing select) = .ok outcome)
    : store.Changes outcome.after := by
  obtain ⟨database, _, later⟩ := bind_eq_ok.mp h
  obtain ⟨new, _, made⟩ := bind_eq_ok.mp later
  split at made
  · obtain ⟨selection, _, filled⟩ := bind_eq_ok.mp made
    split at filled
    · cases filled
      exact .inl rfl
    · cases filled
      exact .inr ⟨_, rfl⟩
  · cases made
    exact .inl rfl

/-- A statement that starts as a definition changes at most the tables. -/
theorem changes_of_word {store after : Store} {word : String} {rest : List Token}
    (first : word = "CREATE" ∨ word = "DROP")
    (h : store.runOne (some (.word word :: rest)) = .ok after)
    : store.Changes after := by
  obtain ⟨statement, outcome, read, prepared, rfl⟩ := runOne_eq_ok h
  rcases first with rfl | rfl
  · obtain ⟨table, ifMissing, ⟨columns, rfl⟩ | ⟨select, rfl⟩⟩ := Statement.create_of_ofTokens read
    · exact changes_create prepared
    · exact changes_createFrom prepared
  · obtain ⟨table, ifPresent, rfl⟩ := Statement.drop_of_ofTokens read
    exact changes_drop prepared

/-- The tokens of a text that starts as a definition. -/
theorem tokens?_definition {definition : String} (member : definition ∈ definitions)
    (text : List Char)
    : ∃ word rest,
        (word = "CREATE" ∨ word = "DROP")
        ∧ tokens? (definition.toList ++ text) = (tokens? rest).map (.word word :: ·) := by
  have ends (rest : List Char) : EndsWord (' ' :: rest) := endsWord_cons (by decide) rest
  rcases List.mem_pair.mp member with rfl | rfl
  · have name : isIdentifierText "CREATE".toList = true := by decide
    exact ⟨"CREATE", " TABLE ".toList ++ text, .inl rfl, tokens?_word name (ends _)⟩
  · have name : isIdentifierText "DROP".toList = true := by decide
    exact ⟨"DROP", " TABLE ".toList ++ text, .inr rfl, tokens?_word name (ends _)⟩

/-- A definition, accepted or not, changes at most the tables. -/
theorem changes_of_definition (store : Store) {definition : String}
    (member : definition ∈ definitions) {text : String} (plain : Plain (definition ++ text).toList)
    : store.Changes (store.execute (definition ++ text)).2 := by
  obtain ⟨word, rest, first, lexed⟩ := tokens?_definition member text.toList
  rw [execute, statements_of_plain plain, String.toList_append, lexed]
  cases tokens? rest with
  | none => exact .inl rfl
  | some tokens =>
      show store.Changes (store.runAll [some (.word word :: tokens)]).2
      rw [runAll_singleton]
      cases ran : store.runOne (some (.word word :: tokens)) with
      | error fault => exact .inl rfl
      | ok after => exact changes_of_word first ran

end Database.Store

-----------------------------------------------------------------------------------------
-- Sessions on a store
-----------------------------------------------------------------------------------------

namespace Database.DatabaseSession

/-- The answer of a session to a step of its transaction. -/
def stepped (session : DatabaseSession)
    : Except Fault (Transaction Database) → Except Error Unit × DatabaseSession
  | .error fault => (.error fault.error, session)
  | .ok transaction => (.ok (), { session with store.transaction := transaction })

/-- A batch of one statement that is a step of the transaction. -/
theorem execute_step {session : DatabaseSession} {sql : String} {tokens : Option (List Token)}
    {statement : Statement} {result : Except Fault (Transaction Database)}
    (lexed : statements sql = [tokens])
    (read : Statement.ofTokens tokens = .ok statement)
    (prepared
      : session.store.prepare statement = .ok (.ofExcept session.store (session.store.step result)))
    : session.execute sql = session.stepped result := by
  have ran : session.store.runOne tokens = session.store.step result := by
    rw [Store.runOne, read]
    show session.store.prepare statement >>= _ = _
    rw [prepared]
    cases result <;> rfl
  rw [execute, Store.execute, lexed, Store.runAll_singleton, ran]
  cases result <;> rfl

theorem execute_begin (session : DatabaseSession)
    : session.execute "BEGIN" = session.stepped session.store.transaction.start :=
  execute_step (by cbv) (by cbv) rfl

theorem execute_commit (session : DatabaseSession)
    : session.execute "COMMIT" = session.stepped session.store.transaction.commit :=
  execute_step (by cbv) (by cbv) rfl

theorem execute_rollback (session : DatabaseSession)
    : session.execute "ROLLBACK" = session.stepped session.store.transaction.rollback :=
  execute_step (by cbv) (by cbv) rfl

/-- Sessions on a store are transactional. -/
def transactional : Transactional DatabaseSession Database where
  state session := session.store.transaction
  sequence session statement plain more := by
    show session.execute _ = _
    rw [execute, Store.execute_semicolon session.store plain]
    show _ = Session.andThen (session.withStore (session.store.execute statement)) _
    rcases session.store.execute statement with ⟨_ | _, after⟩
    · rfl
    · rfl
  blank session c member more := by
    show session.execute _ = session.execute _
    have same : statements (String.singleton c ++ more) = statements more := by
      rcases List.mem_pair.mp member with rfl | rfl
      · exact statements_blank (by decide) (by decide) more
      · exact statements_blank (by decide) (by decide) more
    rw [execute, Store.execute, same]
    rfl
  nothing session := by
    show session.execute "" = _
    rw [execute, Store.execute, statements, String.toList_empty, statementsFrom]
    rfl
  start {session next} closed h := by
    have answer := session.execute_begin
    rw [Transaction.start, closed] at answer
    cases answer.symm.trans h
    rfl
  start_refused {session next error} closed h := by
    have answer := session.execute_begin
    rw [Transaction.start, closed] at answer
    cases answer.symm.trans h
  define {session} inside definition member text plain := by
    have changes := session.store.changes_of_definition member plain
    obtain ⟨committed, stillOpen⟩ := changes.transaction inside
    exact ⟨committed, fun _ => stillOpen⟩
  commit {session next} inside h := by
    have answer := session.execute_commit
    obtain ⟨working, opened⟩ := Option.isSome_iff_exists.mp inside
    rw [Transaction.commit, opened] at answer
    cases answer.symm.trans h
    rw [Transaction.current, opened]
    rfl
  commit_refused {session next error} inside h := by
    have answer := session.execute_commit
    obtain ⟨working, opened⟩ := Option.isSome_iff_exists.mp inside
    rw [Transaction.commit, opened] at answer
    cases answer.symm.trans h
  rollback session := by
    show (session.execute "ROLLBACK").2.store.transaction = _
    rw [execute_rollback]
    cases inside : session.store.transaction.isOpen with
    | true =>
        rw [Transaction.rollback, inside]
        rfl
    | false =>
        rw [Transaction.rollback, inside]
        exact Transaction.eq_of_closed inside

/-- A session on tables of numbers. -/
def ofNumbers (tables : List (String × List Int)) : DatabaseSession where
  store.transaction.committed.tables := tables.map fun (name, numbers) =>
    (name, { columns := ["key"], rows := numbers.map fun n => [.integer n] })

end Database.DatabaseSession

end JoinLatency

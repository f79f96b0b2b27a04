import JoinLatency.Proofs.Shuffle.Sending
import JoinLatency.Proofs.Shuffle.Texts

/-! All or nothing for each suffix. Wherever a batch is refused, in a transaction or at its start,
nothing of it is committed, and the rollback leaves the database as it was before the batch.
-/

namespace JoinLatency

open JoinLatency.Database

variable {S D C : Type} [RowSource C] [Session S C]

-----------------------------------------------------------------------------------------
-- Statements in a row
-----------------------------------------------------------------------------------------

theorem Session.andThen_eq_ok {first : Except Error Unit × S}
    {more : S → Except Error Unit × S} {last : S}
    : Session.andThen first more = (.ok (), last)
      ↔ ∃ next, first = (.ok (), next) ∧ more next = (.ok (), last) := by
  rcases first with ⟨error | done, next⟩
  · simp [Session.andThen]
  · simp [Session.andThen]

theorem Session.andThen_eq_error {first : Except Error Unit × S}
    {more : S → Except Error Unit × S} {last : S} {error : Error}
    : Session.andThen first more = (.error error, last)
      ↔ first = (.error error, last)
        ∨ ∃ next, first = (.ok (), next) ∧ more next = (.error error, last) := by
  rcases first with ⟨error | done, next⟩
  · simp [Session.andThen]
  · simp [Session.andThen]

namespace Transactional

variable (database : Transactional S D) {text more : String}

/-- A text that runs inside a transaction ends it, or is refused before anything is committed. -/
structure Settles (text : String) : Prop where
  accepted
    : ∀ {session next : S}, (database.state session).isOpen = true →
        Session.execute session text = (.ok (), next) → (database.state next).isOpen = false
  refused
    : ∀ {session next : S} {error : Error}, (database.state session).isOpen = true →
        Session.execute session text = (.error error, next) →
          (database.state next).committed = (database.state session).committed

theorem plain_commit : Plain "COMMIT".toList := by decide

theorem settles_commit : database.Settles ("COMMIT" ++ ";" ++ "") where
  accepted {session next} inside h := by
    rw [database.sequence session plain_commit] at h
    obtain ⟨middle, answered, rest⟩ := Session.andThen_eq_ok.mp h
    cases (database.nothing middle).symm.trans rest
    rw [database.commit inside answered]
    rfl
  refused {session next error} inside h := by
    rw [database.sequence session plain_commit] at h
    rcases Session.andThen_eq_error.mp h with answered | ⟨middle, _, rest⟩
    · exact database.commit_refused inside answered
    · cases (database.nothing middle).symm.trans rest

variable {database}

theorem Settles.blank (h : database.Settles more) {c : Char} (member : c ∈ [' ', '\n'])
    : database.Settles (String.singleton c ++ more) where
  accepted inside answered := h.accepted inside (database.blank _ c member more ▸ answered)
  refused inside answered := h.refused inside (database.blank _ c member more ▸ answered)

/-- A definition in front leaves the transaction open, or commits nothing. -/
theorem Settles.define (h : database.Settles more) {definition : String}
    (member : definition ∈ definitions) (plain : Plain (definition ++ text).toList)
    : database.Settles (definition ++ text ++ ";" ++ more) where
  accepted {session next} inside answered := by
    rw [database.sequence session plain] at answered
    obtain ⟨middle, first, rest⟩ := Session.andThen_eq_ok.mp answered
    have defined := database.define inside definition member plain
    rw [first] at defined
    exact h.accepted (defined.2 rfl) rest
  refused {session next error} inside answered := by
    rw [database.sequence session plain] at answered
    have defined := database.define inside definition member plain
    rcases Session.andThen_eq_error.mp answered with first | ⟨middle, first, rest⟩
    · rw [first] at defined
      exact defined.1
    · rw [first] at defined
      exact (h.refused (defined.2 rfl) rest).trans defined.1

end Transactional

-----------------------------------------------------------------------------------------
-- Batches
-----------------------------------------------------------------------------------------

namespace Shuffler

open Transactional

variable {database : Transactional S D} {shuffler : Shuffler}

/-- The copies of all tables are recreated inside the transaction. -/
theorem settles_copies {suffix : String} (token : isToken suffix = true) {tables : List String}
    (names : ∀ table ∈ tables, isIdentifier table = true) {more : String}
    (h : database.Settles more)
    : database.Settles ("\n".intercalate (tables.map (copyStatements suffix)) ++ more) := by
  revert names
  apply copies_induction
    (P := fun tables text => (∀ table ∈ tables, isIdentifier table = true) → database.Settles text)
  · intro _
    exact h
  · intro table rest text ih names
    obtain ⟨name, others⟩ := List.forall_mem_cons.mp names
    rw [copyStatements_append]
    have creation := (ih others).define (by decide) (plain_created name token)
    exact (creation.blank (by decide)).define (by decide) (plain_dropped name token)
  · intro rest text ih names
    exact (ih names).blank (by decide)

theorem Checked.settles (checked : shuffler.Checked) {suffix : String}
    (member : suffix ∈ shuffler.suffixes)
    : database.Settles
        (String.singleton '\n'
          ++ (shuffler.statements suffix
            ++ (String.singleton '\n' ++ ("COMMIT" ++ ";" ++ "")))) := by
  have commit := database.settles_commit.blank (c := '\n') (by decide)
  exact (settles_copies (checked.suffixes suffix member) checked.tables commit).blank (by decide)

theorem plain_begin : Plain "BEGIN".toList := by decide

section Batches

variable {session next : S} {suffix : String} (checked : shuffler.Checked)
    (member : suffix ∈ shuffler.suffixes) (closed : (database.state session).isOpen = false)

include checked member closed

/-- An accepted batch leaves no transaction open. -/
theorem closed_of_accepted
    (h : Session.execute session (shuffler.batch suffix) = (.ok (), next))
    : (database.state next).isOpen = false := by
  rw [batch_eq, database.sequence session plain_begin] at h
  obtain ⟨started, start, rest⟩ := Session.andThen_eq_ok.mp h
  have state := database.start closed start
  exact (checked.settles member).accepted (by rw [state]; rfl) rest

/-- A refused batch commits nothing, whether it was refused at its start or later. -/
theorem committed_of_refused {error : Error}
    (h : Session.execute session (shuffler.batch suffix) = (.error error, next))
    : (database.state next).committed = (database.state session).committed := by
  rw [batch_eq, database.sequence session plain_begin] at h
  rcases Session.andThen_eq_error.mp h with refused | ⟨started, start, rest⟩
  · rw [database.start_refused closed refused]
  · have state := database.start closed start
    rw [(checked.settles member).refused (by rw [state]; rfl) rest, state]

end Batches

/-- A rollback leaves what is committed, and no open transaction. -/
theorem state_rollback (database : Transactional S D) (session : S)
    : database.state (Session.execute session rollback).2
      = { committed := (database.state session).committed } := by
  have word : Plain "ROLLBACK".toList := by decide
  have text : rollback = "ROLLBACK" ++ ";" ++ "" := by decide
  rw [text, database.sequence session word, ← database.rollback session]
  rcases Session.execute session "ROLLBACK" with ⟨error | done, next⟩
  · rfl
  · show database.state (Session.execute next "").2 = _
    rw [database.nothing]

-----------------------------------------------------------------------------------------
-- Runs
-----------------------------------------------------------------------------------------

/-- Accepted batches leave no transaction open, by induction along them. -/
theorem Accepts.closed {session last : S} {suffixes : List String}
    (h : Accepts shuffler session suffixes last) (checked : shuffler.Checked)
    (members : ∀ suffix ∈ suffixes, suffix ∈ shuffler.suffixes)
    (closed : (database.state session).isOpen = false)
    : (database.state last).isOpen = false := by
  induction h with
  | nil session => exact closed
  | cons accepted _ ih =>
      obtain ⟨member, others⟩ := List.forall_mem_cons.mp members
      exact ih others (closed_of_accepted checked member closed accepted)

/-- A refused run ends in the state that the accepted batches left. -/
theorem Refuses.state_eq {session middle last : S} {before : List String} {suffix : String}
    {error : Error}
    (h : shuffler.Refuses session shuffler.suffixes before suffix middle error last)
    (checked : shuffler.Checked) (closed : (database.state session).isOpen = false)
    : database.state last = database.state middle
      ∧ (database.state last).isOpen = false := by
  obtain ⟨after, split⟩ := h.split
  have member : suffix ∈ shuffler.suffixes := by simp [split]
  have members : ∀ other ∈ before, other ∈ shuffler.suffixes := by
    intro other earlier
    simp [split, earlier]
  have between : (database.state middle).isOpen = false :=
    h.accepted.closed checked members closed
  have committed := committed_of_refused checked member between (Prod.ext h.refused rfl)
  have same : database.state last = database.state middle := by
    rw [h.last, state_rollback, committed]
    exact (Transaction.eq_of_closed between).symm
  exact ⟨same, same ▸ between⟩

/-- A run sends a transaction for each suffix, in order up to the first refused one, and then one
rollback. Each transaction drops and recreates the copies of all tables. On a transactional database
with no open transaction a failing run leaves the state behind the suffixes before the failing one.
-/
theorem run_all_or_nothing (shuffler : Shuffler) (session : S)
    : let batch (suffix : String) : String :=
        "BEGIN;\n"
          ++ "\n".intercalate
            (shuffler.tables.map fun table =>
              "DROP TABLE IF EXISTS " ++ table ++ suffix ++ "; CREATE TABLE " ++ table ++ suffix
                ++ " AS SELECT * FROM " ++ table ++ " ORDER BY RANDOM();")
          ++ "\nCOMMIT;"
      (
        let (result, last) := shuffler.run (Recorded.mk session [])
        shuffler.run session = (result, last.session)
        ∧ ((result = .ok (shuffler.tables.length * shuffler.suffixes.length)
            ∧ last.sent = shuffler.suffixes.map fun suffix => (batch suffix, .ok ()))
          ∨ ∃ before suffix after error answer,
              shuffler.suffixes = before ++ suffix :: after
              ∧ result = .error error
              ∧ last.sent
                = (before.map fun suffix => (batch suffix, .ok ()))
                  ++ [(batch suffix, .error error), ("ROLLBACK;", answer)])
      )
      ∧ ∀ tables suffixes, ofLists tables suffixes = .ok shuffler →
          ∀ {D : Type} (database : Transactional S D), (database.state session).isOpen = false →
            (∀ created last, shuffler.run session = (.ok created, last) →
              (database.state last).isOpen = false)
            ∧ ∀ error last, shuffler.run session = (.error error, last) →
                ∃ before suffix after middle,
                  shuffler.suffixes = before ++ suffix :: after
                  ∧ shuffler.runSuffixes session before
                    = (.ok (shuffler.tables.length * before.length), middle)
                  ∧ (Session.execute middle (batch suffix)).1 = .error error
                  ∧ database.state last = database.state middle
                  ∧ (database.state last).isOpen = false := by
  intro batch
  have texts : batch = shuffler.batch := funext fun suffix => (shuffler.batch_text suffix).symm
  clear_value batch
  subst texts
  refine ⟨shuffler.run_recorded session, ?_⟩
  intro tables suffixes made D database closed
  obtain ⟨-, checked⟩ := ofLists_eq_ok.mp made
  rcases shuffler.accepts_or_refuses session shuffler.suffixes with
    ⟨last, accepts⟩ | ⟨before, suffix, middle, error, last, refuses⟩
  · rw [run, accepts.run]
    constructor
    · rintro _ _ ⟨⟩
      exact accepts.closed checked (fun _ member => member) closed
    · rintro _ _ ⟨⟩
  · rw [run, refuses.run]
    constructor
    · rintro _ _ ⟨⟩
    · rintro _ _ ⟨⟩
      obtain ⟨after, split⟩ := refuses.split
      obtain ⟨same, settled⟩ := refuses.state_eq checked closed
      exact ⟨before, suffix, after, middle, split, refuses.accepted.run, refuses.refused, same,
        settled⟩

/-- The copy of `part` for the suffix `.5` has no name, so that its batch fails: `part1` stays, and
`part2` is not tried.
-/
theorem run_all_or_nothing_malformed_name
    : ∃ (shuffler : Shuffler) (session last : DatabaseSession) (error : Error),
        ofLists ["part"] ["1", ".5", "2"] = .ok shuffler
        ∧ session.store.transaction.isOpen = false
        ∧ shuffler.run session = (.error error, last)
        ∧ (shuffler.run (Recorded.mk session [])).2.sent.map (·.1)
          = [
            "BEGIN;\nDROP TABLE IF EXISTS part1; "
              ++ "CREATE TABLE part1 AS SELECT * FROM part ORDER BY RANDOM();\nCOMMIT;",
            "BEGIN;\nDROP TABLE IF EXISTS part.5; "
              ++ "CREATE TABLE part.5 AS SELECT * FROM part ORDER BY RANDOM();\nCOMMIT;",
            "ROLLBACK;"
          ]
        ∧ last.store.transaction.committed.tables.map (·.1) = ["part", "part1"]
        ∧ ∃ before suffix after middle,
            shuffler.suffixes = before ++ suffix :: after
            ∧ shuffler.runSuffixes session before
              = (.ok (shuffler.tables.length * before.length), middle)
            ∧ (Session.execute middle (shuffler.batch suffix)).1 = .error error
            ∧ last.store.transaction = middle.store.transaction
            ∧ last.store.transaction.isOpen = false := by
  let shuffler : Shuffler := { tables := ["part"], suffixes := ["1", ".5", "2"] }
  let session := DatabaseSession.ofNumbers [("part", [1])]
  have made : ofLists ["part"] ["1", ".5", "2"] = .ok shuffler := rfl
  have seen : (shuffler.run session).1.toOption = none
      ∧ (shuffler.run session).2.store.transaction.committed.tables.map (·.1)
        = ["part", "part1"] := by
    decide +kernel
  obtain ⟨-, runs⟩ := run_all_or_nothing shuffler session
  obtain ⟨-, failing⟩ := runs _ _ made DatabaseSession.transactional rfl
  rcases ran : shuffler.run session with ⟨error | created, last⟩
  · rw [ran] at seen
    obtain ⟨before, suffix, after, middle, split, accepted, refused, settled⟩ :=
      failing error last ran
    have sent : (Session.execute middle (shuffler.batch suffix)).1 = .error error := by
      rw [batch_text]
      exact refused
    exact ⟨shuffler, session, last, error, made, rfl, ran, by decide +kernel, seen.2, before, suffix,
      after, middle, split, accepted, sent, settled⟩
  · rw [ran] at seen
    cases seen.1

end Shuffler

end JoinLatency

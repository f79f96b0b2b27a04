import JoinLatency.Shuffle

/-! What a shuffle sends. The transactions of the suffixes go out in order as long as the session
accepts them, and the first one that it refuses is followed by a rollback and by nothing else. A
session that records its batches shows this.
-/

namespace JoinLatency

variable {S C : Type} [RowSource C] [Session S C]

-----------------------------------------------------------------------------------------
-- Accepted transactions
-----------------------------------------------------------------------------------------

namespace Shuffler

/-- A session accepts the transactions of some suffixes, one after the other. -/
inductive Accepts (shuffler : Shuffler) : S → List String → S → Prop
  | nil (session : S) : Accepts shuffler session [] session
  | cons {session next last : S} {suffix : String} {rest : List String}
    (accepted : Session.execute session (shuffler.batch suffix) = (.ok (), next))
    (more : Accepts shuffler next rest last)
    : Accepts shuffler session (suffix :: rest) last

/-- A session accepts the transactions before one that it refuses with an error, and then answers
to a rollback.
-/
structure Refuses (shuffler : Shuffler) (session : S) (suffixes before : List String)
    (suffix : String) (middle : S) (error : Error) (last : S)
    : Prop where
  split : ∃ after, suffixes = before ++ suffix :: after
  accepted : Accepts shuffler session before middle
  refused : (Session.execute middle (shuffler.batch suffix)).1 = .error error
  last
    : last
      = (Session.execute (Session.execute middle (shuffler.batch suffix)).2 rollback).2

variable {shuffler : Shuffler} {session last : S} {suffixes : List String}

/-- A run goes on behind the transactions that the session accepts, by induction along them. -/
theorem Accepts.run_append (h : Accepts shuffler session suffixes last) (rest : List String)
    : shuffler.runSuffixes session (suffixes ++ rest)
      = ((shuffler.runSuffixes last rest).1.map (shuffler.tables.length * suffixes.length + ·),
          (shuffler.runSuffixes last rest).2) := by
  induction h with
  | nil session =>
      rw [List.nil_append]
      obtain ⟨answer, last⟩ := shuffler.runSuffixes session rest
      cases answer <;> simp [Except.map]
  | @cons _ _ last suffix more accepted _ ih =>
      rw [List.cons_append, runSuffixes, accepted]
      dsimp only
      rw [ih, List.length_cons]
      cases (shuffler.runSuffixes last rest).1 with
      | error error => rfl
      | ok created => simp [Except.map, Nat.mul_succ, Nat.add_comm, Nat.add_left_comm]

/-- Accepted transactions recreate the copies of every table for every suffix. -/
theorem Accepts.run (h : Accepts shuffler session suffixes last)
    : shuffler.runSuffixes session suffixes
      = (.ok (shuffler.tables.length * suffixes.length), last) := by
  have whole := h.run_append []
  rwa [List.append_nil] at whole

/-- A refused transaction ends a run with its error. -/
theorem Refuses.run {before : List String} {suffix : String} {middle : S} {error : Error}
    (h : shuffler.Refuses session suffixes before suffix middle error last)
    : shuffler.runSuffixes session suffixes = (.error error, last) := by
  obtain ⟨after, rfl⟩ := h.split
  have refused : Session.execute middle (shuffler.batch suffix)
      = (.error error, (Session.execute middle (shuffler.batch suffix)).2) :=
    Prod.ext h.refused rfl
  rw [h.accepted.run_append, h.last, runSuffixes, refused]
  rfl

/-- A session accepts all transactions or refuses one, by induction along the suffixes. -/
theorem accepts_or_refuses (shuffler : Shuffler) (session : S) (suffixes : List String)
    : (∃ last, Accepts shuffler session suffixes last)
      ∨ ∃ before suffix middle error last,
          shuffler.Refuses session suffixes before suffix middle error last := by
  induction suffixes generalizing session with
  | nil => exact .inl ⟨session, .nil session⟩
  | cons first rest ih =>
      cases answered : Session.execute session (shuffler.batch first) with
      | mk answer next =>
          cases answer with
          | error error =>
              refine .inr ⟨[], first, session, error, (Session.execute next rollback).2, ?_⟩
              exact {
                split := ⟨rest, rfl⟩
                accepted := .nil session
                refused := by rw [answered]
                last := by rw [answered]
              }
          | ok done =>
              rcases ih next with ⟨last, more⟩ | ⟨before, suffix, middle, error, last, refuses⟩
              · exact .inl ⟨last, .cons answered more⟩
              · obtain ⟨after, rfl⟩ := refuses.split
                refine .inr ⟨first :: before, suffix, middle, error, last, ?_⟩
                exact {
                  split := ⟨after, rfl⟩
                  accepted := .cons answered refuses.accepted
                  refused := refuses.refused
                  last := refuses.last
                }

end Shuffler

-----------------------------------------------------------------------------------------
-- Recorded batches
-----------------------------------------------------------------------------------------

/-- A session with the batches that it was sent and its answers to them. -/
structure Recorded (S : Type) where
  session : S
  sent : List (String × Except Error Unit) := []

/-- What a session returned, with the recorded batches so far. -/
def Recorded.after {α : Type} (recorded : Recorded S) (result : α × S) : α × Recorded S :=
  (result.1, { recorded with session := result.2 })

instance : Session (Recorded S) C where
  now recorded := Session.now recorded.session
  configure recorded settings :=
    recorded.after (Session.configure recorded.session settings)
  execute recorded batch :=
    let (answer, session) := Session.execute recorded.session batch
    (answer, { session, sent := recorded.sent ++ [(batch, answer)] })
  submit recorded sql := recorded.after (Session.submit recorded.session sql)
  release recorded cursor :=
    { recorded with session := Session.release recorded.session cursor }

namespace Shuffler

theorem execute_recorded (recorded : Recorded S) (batch : String)
    : Session.execute recorded batch
      = ((Session.execute recorded.session batch).1,
          {
            session := (Session.execute recorded.session batch).2
            sent := recorded.sent ++ [(batch, (Session.execute recorded.session batch).1)]
          }) := rfl

/-- The accepted transactions of a recorded session are those that it was sent. -/
theorem Accepts.recorded {shuffler : Shuffler} {recorded last : Recorded S}
    {suffixes : List String} (h : Accepts shuffler recorded suffixes last)
    : Accepts shuffler recorded.session suffixes last.session
      ∧ last.sent
        = recorded.sent ++ suffixes.map fun suffix => (shuffler.batch suffix, .ok ()) := by
  induction h with
  | nil recorded => exact ⟨.nil _, by simp⟩
  | @cons recorded next last suffix rest accepted more ih =>
      obtain ⟨answered, rfl⟩ := Prod.mk.inj accepted
      obtain ⟨later, sent⟩ := ih
      refine ⟨.cons (Prod.ext answered rfl) later, ?_⟩
      rw [sent, List.map_cons]
      simp [answered]

/-- Recording does not change a run. It shows every transaction, or those up to the first refused
one and a rollback.
-/
theorem run_recorded (shuffler : Shuffler) (session : S)
    : let (result, last) := shuffler.run (Recorded.mk session [])
      shuffler.run session = (result, last.session)
      ∧ ((result = .ok (shuffler.tables.length * shuffler.suffixes.length)
          ∧ last.sent
            = shuffler.suffixes.map fun suffix => (shuffler.batch suffix, .ok ()))
        ∨ ∃ before suffix after error answer,
            shuffler.suffixes = before ++ suffix :: after
            ∧ result = .error error
            ∧ last.sent
              = (before.map fun suffix => (shuffler.batch suffix, .ok ()))
                ++ [(shuffler.batch suffix, .error error), (rollback, answer)]) := by
  rcases shuffler.accepts_or_refuses (Recorded.mk session []) shuffler.suffixes with
    ⟨last, accepts⟩ | ⟨before, suffix, middle, error, last, refuses⟩
  · obtain ⟨plain, sent⟩ := accepts.recorded
    rw [run, accepts.run]
    exact ⟨plain.run, .inl ⟨rfl, by simpa using sent⟩⟩
  · obtain ⟨plain, sent⟩ := refuses.accepted.recorded
    obtain ⟨after, split⟩ := refuses.split
    have unrecorded : shuffler.Refuses session shuffler.suffixes before suffix middle.session
        error last.session := {
      split := ⟨after, split⟩
      accepted := plain
      refused := refuses.refused
      last := by
        rw [refuses.last]
        rfl
    }
    rw [run, refuses.run]
    have refused := unrecorded.refused
    let failed := (Session.execute middle.session (shuffler.batch suffix)).2
    refine ⟨unrecorded.run, .inr ⟨before, suffix, after, error,
      (Session.execute failed rollback).1, split, rfl, ?_⟩⟩
    rw [refuses.last, execute_recorded, execute_recorded, sent, refused]
    simp [failed]

end Shuffler

end JoinLatency

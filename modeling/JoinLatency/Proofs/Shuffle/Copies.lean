import JoinLatency.Proofs.Database.Copying
import JoinLatency.Proofs.Shuffle.Names
import JoinLatency.Proofs.Shuffle.Rollback

/-! What a run leaves in a database. Where the copies are apart from the tables and from each other,
a run changes no table that it copies, whether it fails or not, and after it every copy holds the
rows of its table.
-/

namespace JoinLatency

open JoinLatency.Database

namespace Shuffler

variable {S D C : Type} [RowSource C] [Session S C] {database : Tabular S D}

-----------------------------------------------------------------------------------------
-- One copy
-----------------------------------------------------------------------------------------

/-- The statements of a copy put it in the place of an old one, which is not the table itself. -/
theorem copy_of_execute {session last : S} {tables : D} {suffix table more : String}
    (name : isIdentifier table = true) (token : isToken suffix = true)
    (own : Session.OwnName S (table ++ suffix))
    (inside : (database.state session).working = some tables)
    (h : Session.execute session (copyStatements suffix table ++ more) = (.ok (), last))
    : ∃ (next : S) (reached : D) (base copy : Relation),
        (database.state next).working = some reached
        ∧ database.table tables table = some base
        ∧ copy.Copies base
        ∧ (∀ other,
            database.table reached other
            = if sameName (table ++ suffix) other then some copy
              else database.table tables other)
        ∧ Session.execute next more = (.ok (), last) := by
  rw [copyStatements_append, database.sequence session (plain_dropped name token)] at h
  obtain ⟨removed, drop, later⟩ := Session.andThen_eq_ok.mp h
  rw [database.blank removed ' ' (by decide),
    database.sequence removed (plain_created name token)] at later
  obtain ⟨next, create, rest⟩ := Session.andThen_eq_ok.mp later
  rw [drop_append_dropped] at drop
  rw [create_append_created] at create
  have copyName := own.resolve_right fun refuses => refuses session removed drop
  obtain ⟨without, gone, others⟩ := database.drop copyName inside drop
  have free : database.table without (table ++ suffix) = none := by
    rw [others, if_pos (sameName_self _)]
  obtain ⟨reached, base, copy, filled, stored, copies, found⟩ :=
    database.create copyName name gone free create
  rw [others] at stored
  refine ⟨next, reached, base, copy, filled, ?_, copies, fun other => ?_, rest⟩
  · split at stored
    · cases stored
    · exact stored
  · rw [found, others]
    split <;> rfl

-----------------------------------------------------------------------------------------
-- Copies that are kept
-----------------------------------------------------------------------------------------

/-- Tables after some copies: those that are copied are as they were, and the copies, named by a
table and a suffix each, are copies of them.
-/
structure Keeps (shuffler : Shuffler) (database : Tabular S D) (start : D)
    (copies : List (String × String)) (reached : D)
    : Prop where
  tables : ∀ table ∈ shuffler.tables, database.table reached table = database.table start table
  members : ∀ copy ∈ copies, copy.1 ∈ shuffler.tables ∧ copy.2 ∈ shuffler.suffixes
  copies
    : ∀ copy ∈ copies,
        ∃ base content,
          database.table start copy.1 = some base
          ∧ database.table reached (copy.1 ++ copy.2) = some content
          ∧ content.Copies base

variable {shuffler : Shuffler} {start : D} {copies : List (String × String)}

/-- One more copy does not touch the tables, nor copies of other names. -/
theorem Keeps.copy {tables reached : D} (h : shuffler.Keeps database start copies tables)
    (apart : shuffler.Apart) {table suffix : String} (member : table ∈ shuffler.tables)
    (suffixMember : suffix ∈ shuffler.suffixes) {base copy : Relation}
    (stored : database.table tables table = some base) (like : copy.Copies base)
    (found
      : ∀ other,
          database.table reached other
          = if sameName (table ++ suffix) other then some copy else database.table tables other)
    : shuffler.Keeps database start (copies ++ [(table, suffix)]) reached := by
  have own : database.table start table = some base := (h.tables table member).symm.trans stored
  constructor
  · intro other otherMember
    have differs := apart.tables table member suffix suffixMember other otherMember
    rw [found, if_neg (Bool.not_eq_true _ ▸ differs), h.tables other otherMember]
  · intro copy copyMember
    rcases List.mem_append.mp copyMember with earlier | new
    · exact h.members copy earlier
    · obtain rfl := List.mem_singleton.mp new
      exact ⟨member, suffixMember⟩
  · intro entry entryMember
    rw [found]
    rcases List.mem_append.mp entryMember with earlier | new
    · split
      · next same =>
          obtain ⟨otherMember, anotherMember⟩ := h.members entry earlier
          obtain ⟨sameTable, _⟩ := apart.copies table member suffix suffixMember entry.1
            otherMember entry.2 anotherMember same
          have shared := database.table_congr start sameTable
          exact ⟨base, copy, shared.symm.trans own, rfl, like⟩
      · exact h.copies entry earlier
    · obtain rfl := List.mem_singleton.mp new
      exact ⟨base, copy, own, if_pos (sameName_self _), like⟩

/-- Somewhere in a transaction that keeps some copies the rest of its batch is accepted. -/
def Completes (shuffler : Shuffler) (database : Tabular S D) (start : D)
    (copies : List (String × String)) (rest : String) (last : S)
    : Prop :=
  ∃ (session : S) (tables : D),
    (database.state session).working = some tables
    ∧ shuffler.Keeps database start copies tables
    ∧ Session.execute session rest = (.ok (), last)

section Runs

variable (checked : shuffler.Checked) (apart : shuffler.Apart)
    (own
      : ∀ table ∈ shuffler.tables, ∀ suffix ∈ shuffler.suffixes,
          Session.OwnName S (table ++ suffix))

include checked apart own

/-- The copies of one suffix are kept, one after the other. -/
theorem Completes.keeps {last : S} {suffix more : String}
    (suffixMember : suffix ∈ shuffler.suffixes) {tables : List String}
    (members : ∀ table ∈ tables, table ∈ shuffler.tables)
    (h : shuffler.Completes database start copies
      ("\n".intercalate (tables.map (copyStatements suffix)) ++ more) last)
    : shuffler.Completes database start (copies ++ tables.map (·, suffix)) more last := by
  revert copies members
  apply copies_induction
    (P := fun tables text =>
      ∀ {copies}, (∀ table ∈ tables, table ∈ shuffler.tables) →
        shuffler.Completes database start copies text last →
          shuffler.Completes database start (copies ++ tables.map (·, suffix)) more last)
  · intro copies _ h
    rwa [List.map_nil, List.append_nil]
  · rintro table rest text ih copies members ⟨session, reached, inside, kept, answered⟩
    obtain ⟨member, others⟩ := List.forall_mem_cons.mp members
    obtain ⟨next, filled, base, copy, working, stored, like, found, later⟩ :=
      copy_of_execute (checked.tables table member) (checked.suffixes suffix suffixMember)
        (own table member suffix suffixMember) inside answered
    have all := ih others
      ⟨next, filled, working, kept.copy apart member suffixMember stored like found, later⟩
    rwa [List.append_assoc, List.singleton_append] at all
  · rintro rest text ih copies members ⟨session, reached, inside, kept, answered⟩
    rw [database.blank session '\n' (by decide)] at answered
    exact ih members ⟨session, reached, inside, kept, answered⟩

/-- An accepted batch commits the copies of its suffix. -/
theorem Keeps.of_batch {session last : S} {suffix : String}
    (h : shuffler.Keeps database start copies (database.state session).committed)
    (member : suffix ∈ shuffler.suffixes) (closed : (database.state session).isOpen = false)
    (answered : Session.execute session (shuffler.batch suffix) = (.ok (), last))
    : shuffler.Keeps database start (copies ++ shuffler.tables.map (·, suffix))
        (database.state last).committed := by
  rw [batch_eq, database.sequence session plain_begin] at answered
  obtain ⟨started, start, later⟩ := Session.andThen_eq_ok.mp answered
  rw [database.blank started '\n' (by decide), statements] at later
  have begun : (database.state started).working = some (database.state session).committed := by
    rw [database.start closed start]
  obtain ⟨copied, reached, inside, kept, rest⟩ :=
    Completes.keeps checked apart own member (fun _ member => member)
      ⟨started, _, begun, h, later⟩
  rw [database.blank copied '\n' (by decide),
    database.sequence copied Transactional.plain_commit] at rest
  obtain ⟨next, commit, done⟩ := Session.andThen_eq_ok.mp rest
  cases (database.nothing next).symm.trans done
  have isOpen : (database.state copied).isOpen = true := by
    rw [Transaction.isOpen, inside]
    rfl
  have current : (database.state copied).current = reached := by
    rw [Transaction.current, inside]
    rfl
  rw [database.commit isOpen commit]
  exact current ▸ kept

/-- The copies of all accepted suffixes are kept, by induction along them. -/
theorem Accepts.keeps {session last : S} {suffixes : List String}
    (accepts : Accepts shuffler session suffixes last)
    (members : ∀ suffix ∈ suffixes, suffix ∈ shuffler.suffixes)
    (closed : (database.state session).isOpen = false)
    (h : shuffler.Keeps database start copies (database.state session).committed)
    : shuffler.Keeps database start
        (copies ++ suffixes.flatMap fun suffix => shuffler.tables.map (·, suffix))
        (database.state last).committed := by
  induction accepts generalizing copies with
  | nil session => simpa using h
  | @cons session next last suffix rest accepted _ ih =>
      obtain ⟨member, others⟩ := List.forall_mem_cons.mp members
      have between := closed_of_accepted checked member closed accepted
      have all := ih others between (h.of_batch checked apart own member closed accepted)
      rwa [List.append_assoc] at all

omit checked apart own in
theorem Keeps.nil (shuffler : Shuffler) (database : Tabular S D) (start : D)
    : shuffler.Keeps database start [] start := by
  constructor
  · intro table _
    rfl
  · intro copy member
    cases member
  · intro copy member
    cases member

/-- A run keeps the copies of the suffixes that it accepts, which are all of them unless it fails.
-/
theorem run_keeps (database : Tabular S D) {session : S}
    (closed : (database.state session).isOpen = false)
    : ∃ suffixes,
        shuffler.Keeps database (database.state session).committed
          (suffixes.flatMap fun suffix => shuffler.tables.map (·, suffix))
          (database.state (shuffler.run session).2).committed
        ∧ ∀ created, (shuffler.run session).1 = .ok created → suffixes = shuffler.suffixes := by
  have none := Keeps.nil shuffler database (database.state session).committed
  rcases shuffler.accepts_or_refuses session shuffler.suffixes with
    ⟨last, accepts⟩ | ⟨before, suffix, middle, error, last, refuses⟩
  · rw [run, accepts.run]
    refine ⟨shuffler.suffixes, ?_, fun _ _ => rfl⟩
    exact accepts.keeps checked apart own (fun _ member => member) closed none
  · have members : ∀ other ∈ before, other ∈ shuffler.suffixes := by
      obtain ⟨after, split⟩ := refuses.split
      intro other earlier
      simp [split, earlier]
    have settled : database.state last = database.state middle :=
      (refuses.state_eq checked closed).1
    rw [run, refuses.run]
    constructor
    · constructor
      · rw [settled]
        exact refuses.accepted.keeps checked apart own members closed none
      · rintro created ⟨⟩

end Runs

/-- Copies are apart when the names of the tables and suffixes are, and numbered copies when no
table is called like a numbered copy of another. Then a run on a database of tables leaves those
that it copies as they are, and after a run that does not fail every copy has the columns and, in
some order, the rows of its table, as long as its name leads to no other table.
-/
theorem run_keeps_tables {tables suffixes : List String} {shuffler : Shuffler}
    (made : ofLists tables suffixes = .ok shuffler)
    : (shuffler.Apart
        ↔ ∀ table ∈ tables, ∀ other ∈ tables, ∀ more,
            more ≠ "" → sameName (table ++ more) other = true →
              (∀ suffix ∈ suffixes, sameName suffix more = false)
              ∧ ∀ suffix ∈ suffixes, ∀ another ∈ suffixes,
                  sameName suffix (more ++ another) = false)
      ∧ (∀ copies, numbered tables copies = .ok shuffler →
          (shuffler.Apart
            ↔ ∀ table ∈ tables, ∀ other ∈ tables,
                ∀ n, 0 < n → n ≤ copies → sameName (table ++ toString n) other = false))
      ∧ (shuffler.Apart →
          ∀ {S D C : Type} [RowSource C] [Session S C] (database : Tabular S D),
            (∀ table ∈ tables, ∀ suffix ∈ suffixes, Session.OwnName S (table ++ suffix)) →
              ∀ session : S, (database.state session).isOpen = false →
                let start := (database.state session).committed
                let final := (database.state (shuffler.run session).2).committed
                (∀ table ∈ tables, database.table final table = database.table start table)
                ∧ ∀ created, (shuffler.run session).1 = .ok created →
                    ∀ table ∈ tables, ∀ suffix ∈ suffixes,
                      ∃ base copy,
                        database.table start table = some base
                        ∧ database.table final (table ++ suffix) = some copy
                        ∧ copy.columns = base.columns
                        ∧ (base.Rectangular → copy.rows.Perm base.rows)) := by
  obtain ⟨rfl, checked⟩ := ofLists_eq_ok.mp made
  refine ⟨⟨Apart.clear, fun clear => Clear.apart clear checked⟩, ?_, ?_⟩
  · intro copies numbers
    exact apart_iff_of_numbered numbers
  · intro apart S D C _ _ database own session closed
    obtain ⟨accepted, kept, all⟩ := run_keeps checked apart own database closed
    refine ⟨kept.tables, ?_⟩
    intro created answer table member suffix suffixMember
    rw [all created answer] at kept
    have made : (table, suffix) ∈ suffixes.flatMap fun suffix => tables.map (·, suffix) := by
      simp only [List.mem_flatMap, List.mem_map]
      exact ⟨suffix, suffixMember, table, member, rfl⟩
    obtain ⟨base, copy, stored, found, like⟩ := kept.copies (table, suffix) made
    exact ⟨base, copy, stored, found, like.columns, like.rows⟩

/-- A table may be called like a copy of another one that is not made: with one copy of each,
`part2` stays as it is, and `part21` has its row.
-/
theorem run_keeps_tables_longer_name
    : ∃ (shuffler : Shuffler) (session last : DatabaseSession),
        ofLists ["part", "part2"] ["1"] = .ok shuffler
        ∧ shuffler.Apart
        ∧ session.store.transaction.isOpen = false
        ∧ shuffler.run session = (.ok 2, last)
        ∧ (∀ table ∈ ["part", "part2"],
            last.store.transaction.committed.get? table
            = session.store.transaction.committed.get? table)
        ∧ ∃ base copy,
            session.store.transaction.committed.get? "part2" = some base
            ∧ base.rows.length = 1
            ∧ last.store.transaction.committed.get? "part21" = some copy
            ∧ copy.rows.Perm base.rows := by
  let shuffler : Shuffler := { tables := ["part", "part2"], suffixes := ["1"] }
  let session := DatabaseSession.ofNumbers [("part", [1, 2]), ("part2", [3])]
  have made : ofLists ["part", "part2"] ["1"] = .ok shuffler := rfl
  have answer : (shuffler.run session).1.toOption = some 2 := by decide +kernel
  obtain ⟨-, numbers, kept⟩ := run_keeps_tables made
  have apart : shuffler.Apart := by
    rw [numbers 1 rfl]
    intro table member other otherMember n above below
    obtain rfl : n = 1 := by omega
    revert table other
    decide +kernel
  obtain ⟨-, checked⟩ := ofLists_eq_ok.mp made
  obtain ⟨tables, copies⟩ := kept apart DatabaseSession.tabular
    (fun table member suffix suffixMember => DatabaseSession.ownName_append
      (checked.tables table member) (checked.suffixes suffix suffixMember))
    session rfl
  rcases ran : shuffler.run session with ⟨result, last⟩
  rw [ran] at answer tables copies
  obtain rfl := toOption_eq_some.mp answer
  obtain ⟨base, copy, stored, found, -, rows⟩ := copies 2 rfl "part2" (by simp) "1" (by simp)
  have part2 : session.store.transaction.committed.get? "part2"
      = some { columns := ["key"], rows := [[.integer 3]] } := by
    cbv
  obtain rfl : _ = base := Option.some.inj (part2.symm.trans stored)
  have rectangular : Relation.Rectangular { columns := ["key"], rows := [[.integer 3]] } := by
    intro row member
    obtain rfl := List.mem_singleton.mp member
    rfl
  exact ⟨shuffler, session, last, made, apart, rfl, ran, tables, _, copy, stored, rfl, found,
    rows rectangular⟩

/-- The copy of `part` for the suffix `1` is called like the table `part1`, which loses its row for
the rows of `part`; they are then taken for its copy `part11` as well.
-/
theorem numbered_copy_replaces_table
    : ∃ (shuffler : Shuffler) (session last : DatabaseSession),
        numbered ["part", "part1"] 1 = .ok shuffler
        ∧ ¬ shuffler.Apart
        ∧ session.store.transaction.isOpen = false
        ∧ shuffler.run session = (.ok 2, last)
        ∧ (session.store.transaction.committed.get? "part1").map (·.rows.length) = some 1
        ∧ (last.store.transaction.committed.get? "part1").map (·.rows.length) = some 3
        ∧ (last.store.transaction.committed.get? "part11").map (·.rows.length) = some 3 := by
  have runs : ((Shuffler.mk ["part", "part1"] ["1"]).run
        (DatabaseSession.ofNumbers [("part", [1, 2, 3]), ("part1", [9])])).1.toOption = some 2
      ∧ (((Shuffler.mk ["part", "part1"] ["1"]).run (DatabaseSession.ofNumbers
          [("part", [1, 2, 3]), ("part1", [9])])).2.store.transaction.committed.get? "part1").map
            (·.rows.length) = some 3
      ∧ (((Shuffler.mk ["part", "part1"] ["1"]).run (DatabaseSession.ofNumbers
          [("part", [1, 2, 3]), ("part1", [9])])).2.store.transaction.committed.get? "part11").map
            (·.rows.length) = some 3 := by
    decide +kernel
  obtain ⟨answer, lost, copied⟩ := runs
  refine ⟨_, .ofNumbers [("part", [1, 2, 3]), ("part1", [9])], _, rfl, ?_, rfl,
    Prod.fst_eq_iff.mp (toOption_eq_some.mp answer), by decide +kernel, lost, copied⟩
  intro apart
  have differs := apart.tables "part" List.mem_cons_self "1" List.mem_cons_self "part1"
    (List.mem_cons_of_mem _ List.mem_cons_self)
  revert differs
  decide +kernel

end Shuffler

end JoinLatency

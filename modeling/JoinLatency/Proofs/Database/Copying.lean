import JoinLatency.Proofs.Database.Names
import JoinLatency.Proofs.Database.Selecting
import JoinLatency.Proofs.Database.Transactional

/-! Copies of tables. An old copy is dropped if it is there, and the new one is created from all
rows of its table in random order. Where a session accepts both statements its table exists, and
the copy has its columns and rows.
-/

namespace JoinLatency.Database

open Reader

-----------------------------------------------------------------------------------------
-- Reading of the statements
-----------------------------------------------------------------------------------------

/-- Whether a word is no name. -/
def isReserved (text : String) : Bool :=
  reserved.contains (text.map Char.toUpper)

theorem name_of_reserved {text : String} (h : isReserved text = true) (rest : List Token)
    : name (.word text :: rest) = none := by
  rw [name, nameOutside_eq]
  exact if_pos h

theorem name_of_word {text : String} (h : isReserved text = false) (rest : List Token)
    : name (.word text :: rest) = some (text, rest) := by
  rw [name, nameOutside_eq]
  exact if_neg (Bool.not_eq_true _ ▸ h)

/-- The end of a selection in random order. -/
def randomOrder : List Token :=
  [.word "ORDER", .word "BY", .word "RANDOM", .symbol "(", .symbol ")"]

/-- The tokens of the selection of a whole table. -/
def wholeTable (table : String) : List Token :=
  .word "SELECT" :: .symbol "*" :: .word "FROM" :: .word table :: randomOrder

section Selection

variable {table : String}

theorem commas_everything (rest : List Token)
    : commas Select.item (.symbol "*" :: .word "FROM" :: rest)
      = some ([.everything], .word "FROM" :: rest) := by cbv

theorem word_from (rest : List Token)
    : word "FROM" (.word "FROM" :: rest) = some ((), rest) := by cbv

theorem sourceClause_of_name (h : isReserved table = false)
    : Select.sourceClause (.word "FROM" :: .word table :: randomOrder)
      = some (([{ table, label := table }], []), randomOrder) := by
  have noLabel : label? randomOrder = some (none, randomOrder) := by cbv
  have source : Select.source (.word table :: randomOrder)
      = some ({ table, label := table }, randomOrder) := by
    rw [Select.source, bind_of_some (name_of_word h _), bind_of_some noLabel]
    rfl
  rw [Select.sourceClause, bind_of_some (word_from _), bind_of_some source,
    bind_of_some (many_of_none (by cbv))]
  rfl

theorem sourceClause_of_reserved (h : isReserved table = true)
    : Select.sourceClause (.word "FROM" :: .word table :: randomOrder) = none := by
  have noSource : Select.source (.word table :: randomOrder) = none := by
    rw [Select.source, bind_of_none (name_of_reserved h _)]
  rw [Select.sourceClause, bind_of_some (word_from _), bind_of_none noSource]

/-- The selection of a whole table, as far as its table is a name. -/
theorem any_wholeTable (table : String)
    : Select.any (wholeTable table)
      = match isReserved table with
        | false => some (wholeSelect table, [])
        | true => some ({ items := [.everything] }, .word "FROM" :: .word table :: randomOrder) := by
  have noSeries : Select.countedSeries (wholeTable table) = none := by cbv
  rw [Select.any, bind_of_some (optional?_of_none noSeries)]
  have plain : Select.plain (wholeTable table)
      = match isReserved table with
        | false => some (wholeSelect table, [])
        | true => some ({ items := [.everything] }, .word "FROM" :: .word table :: randomOrder) := by
    rw [Select.plain, wholeTable, bind_of_some (word_of_eq (by cbv)),
      bind_of_some (accepts_of_none (by cbv)), bind_of_some (commas_everything _)]
    cases h : isReserved table with
    | false =>
        rw [bind_of_some (optional?_of_some (sourceClause_of_name h))]
        cbv
    | true =>
        rw [bind_of_some (optional?_of_none (sourceClause_of_reserved h))]
        cbv
  cases h : isReserved table with
  | false =>
      rw [h] at plain
      rw [bind_of_some plain]
      rfl
  | true =>
      rw [h] at plain
      rw [bind_of_some plain]
      rfl

end Selection

/-- A removal that is read has one name and nothing behind it. -/
theorem Statement.drop_of_read {table : String} {more : List Token} {statement : Statement}
    (h : ofTokens
        (some
          (.word "DROP" :: .word "TABLE" :: .word "IF" :: .word "EXISTS" :: .word table :: more))
      = .ok statement)
    : more = [] ∧ statement = .drop table true := by
  have start (rest : List Token)
      : words ["DROP", "TABLE"] (.word "DROP" :: .word "TABLE" :: rest) = some ((), rest) := by cbv
  have condition (rest : List Token)
      : words ["IF", "EXISTS"] (.word "IF" :: .word "EXISTS" :: rest) = some ((), rest) := by cbv
  rw [ofTokens_eq_ok, any_drop, removal, bind_of_some (start _),
    bind_of_some (accepts_of_some (condition _))] at h
  cases kept : isReserved table with
  | true =>
      rw [bind_of_none (name_of_reserved kept _)] at h
      cases h
  | false =>
      rw [bind_of_some (name_of_word kept _)] at h
      obtain ⟨made, rest⟩ := Prod.mk.inj (Option.some.inj h)
      exact ⟨rest, made.symm⟩

/-- A definition by the selection of a whole table that is read is the one it looks like. -/
theorem Statement.createFrom_of_read {copy table : String} {statement : Statement}
    (h : ofTokens
        (some (.word "CREATE" :: .word "TABLE" :: .word copy :: .word "AS" :: wholeTable table))
      = .ok statement)
    : statement = .createFrom copy false (wholeSelect table) := by
  have start (rest : List Token)
      : words ["CREATE", "TABLE"] (.word "CREATE" :: .word "TABLE" :: rest) = some ((), rest) := by
    cbv
  -- A table may be called `if`, but no other word of the condition follows.
  have noCondition (rest : List Token)
      : words ["IF", "NOT", "EXISTS"] (.word copy :: .word "AS" :: rest) = none := by
    by_cases same : copy.map Char.toUpper = "IF"
    · rw [words_cons_of_eq same]
      cbv
    · exact words_cons_of_ne same _
  have noColumns (rest : List Token)
      : parens (commas column) (.word "AS" :: rest) = none := by cbv
  have selected (rest : List Token)
      : word "AS" (.word "AS" :: rest) = some ((), rest) := by cbv
  rw [ofTokens_eq_ok, any_create, definition, bind_of_some (start _),
    bind_of_some (accepts_of_none (noCondition _))] at h
  cases kept : isReserved copy with
  | true =>
      rw [bind_of_none (name_of_reserved kept _)] at h
      cases h
  | false =>
      rw [bind_of_some (name_of_word kept _), orElse_of_none (bind_of_none (noColumns _) _),
        bind_of_some (selected _)] at h
      have read := any_wholeTable table
      cases known : isReserved table with
      | true =>
          rw [known] at read
          rw [bind_of_some read] at h
          cases h
      | false =>
          rw [known] at read
          rw [bind_of_some read] at h
          exact (congrArg Prod.fst (Option.some.inj h)).symm

-----------------------------------------------------------------------------------------
-- Tokens of the statements
-----------------------------------------------------------------------------------------

/-- A word with a blank behind it. -/
theorem tokens?_word_space {word : List Char} (name : isIdentifierText word = true)
    (rest : List Char)
    : tokens? (word ++ ' ' :: rest) = (tokens? rest).map (.word (String.ofList word) :: ·) := by
  rw [tokens?_word name (endsWord_cons (by decide) rest), tokens?_space]

theorem tokens?_word_end {word : List Char} (name : isIdentifierText word = true)
    : tokens? word = some [.word (String.ofList word)] := by
  have last := tokens?_word name endsWord_nil
  rwa [List.append_nil, tokens?] at last

/-- What stands at a point is no blank. -/
theorem tokens?_point (rest : List Char) : tokens? ('.' :: rest) ≠ some [] := by
  have visible (n : Nat) : lexOne '.' rest ≠ some (none, n) := by
    rw [lexOne_of_plain (by decide), if_neg (by decide), if_neg (by decide)]
    intro blank
    split at blank
    · rw [lexNumber] at blank
      split at blank <;> cases blank
    · cases rest with
      | nil => cases blank
      | cons d rest =>
          rw [lexSymbol] at blank
          split at blank
          · cases blank
          · split at blank <;> cases blank
  rw [tokens?_cons]
  cases lexed : lexOne '.' rest with
  | none => simp
  | some result =>
      obtain ⟨token | token, n⟩ := result
      · cases visible n lexed
      · simp

/-- A name with a suffix is a name, or it goes on at a point. By induction along the suffix. -/
theorem name_or_point {table suffix : List Char} (name : isIdentifierText table = true)
    (token : ∀ c ∈ suffix, isTokenChar c = true)
    : isIdentifierText (table ++ suffix) = true
      ∨ ∃ word more, isIdentifierText word = true ∧ table ++ suffix = word ++ '.' :: more := by
  induction suffix generalizing table with
  | nil => exact .inl (by rwa [List.append_nil])
  | cons c suffix ih =>
      obtain ⟨first, others⟩ := List.forall_mem_cons.mp token
      cases goes : isIdentifierRest c with
      | true =>
          have longer : isIdentifierText (table ++ [c]) = true := by
            cases table with
            | nil => cases name
            | cons start table =>
                simp only [isIdentifierText, Bool.and_eq_true] at name
                simp [isIdentifierText, name.1, name.2, goes]
          rw [List.append_cons]
          exact ih longer others
      | false =>
          have point : c = '.' := by
            rw [isTokenChar, ← isIdentifierRest, goes] at first
            simpa using first
          exact .inr ⟨table, suffix, name, by rw [point]⟩

theorem tokens?_drop (text : List Char)
    : tokens? ("DROP TABLE IF EXISTS ".toList ++ text)
      = (tokens? text).map
          ([.word "DROP", .word "TABLE", .word "IF", .word "EXISTS"] ++ ·) := by
  have words : "DROP TABLE IF EXISTS ".toList ++ text
      = "DROP".toList ++ ' ' :: ("TABLE".toList ++ ' ' :: ("IF".toList ++ ' ' ::
        ("EXISTS".toList ++ ' ' :: text))) := rfl
  rw [words, tokens?_word_space (by decide), tokens?_word_space (by decide),
    tokens?_word_space (by decide), tokens?_word_space (by decide)]
  cases tokens? text <;> rfl

theorem tokens?_wholeTable {table : List Char} (name : isIdentifierText table = true)
    : tokens? ("SELECT * FROM ".toList ++ (table ++ " ORDER BY RANDOM()".toList))
      = some (wholeTable (String.ofList table)) := by
  have order : tokens? "ORDER BY RANDOM()".toList = some randomOrder := by decide +kernel
  have words : "SELECT * FROM ".toList ++ (table ++ " ORDER BY RANDOM()".toList)
      = "SELECT".toList ++ ' ' :: '*' :: ' ' :: ("FROM".toList ++ ' ' ::
        (table ++ ' ' :: "ORDER BY RANDOM()".toList)) := rfl
  have everything (rest : List Char) : tokens? ('*' :: ' ' :: rest)
      = (tokens? rest).map (.symbol "*" :: ·) := by
    have mark : lexOne '*' (' ' :: rest) = some (some (.symbol "*"), 0) := rfl
    rw [tokens?_cons, mark]
    dsimp only
    rw [List.drop_zero, tokens?_space]
    rfl
  rw [words, tokens?_word_space (by decide), everything, tokens?_word_space (by decide),
    tokens?_word_space name, order]
  rfl

theorem tokens?_create {copy table : List Char} (copyName : isIdentifierText copy = true)
    (name : isIdentifierText table = true)
    : tokens? ("CREATE TABLE ".toList ++ (copy ++ (" AS ".toList
          ++ ("SELECT * FROM ".toList ++ (table ++ " ORDER BY RANDOM()".toList)))))
      = some (.word "CREATE" :: .word "TABLE" :: .word (String.ofList copy) :: .word "AS"
          :: wholeTable (String.ofList table)) := by
  have words (rest : List Char) : "CREATE TABLE ".toList ++ (copy ++ (" AS ".toList ++ rest))
      = "CREATE".toList ++ ' ' :: ("TABLE".toList ++ ' ' ::
        (copy ++ ' ' :: ("AS".toList ++ ' ' :: rest))) := rfl
  rw [words, tokens?_word_space (by decide), tokens?_word_space (by decide),
    tokens?_word_space copyName, tokens?_word_space (by decide), tokens?_wholeTable name]
  rfl

-----------------------------------------------------------------------------------------
-- Effects
-----------------------------------------------------------------------------------------

namespace Store

variable {store after : Store} {database : Database}

/-- Nothing in an accepted batch is illegal. -/
theorem exists_tokens_of_execute {text : String} (plain : Plain text.toList)
    (h : store.execute text = (.ok (), after))
    : ∃ tokens, tokens? text.toList = some tokens := by
  rw [execute, statements_of_plain plain] at h
  cases lexed : tokens? text.toList with
  | some tokens => exact ⟨tokens, rfl⟩
  | none =>
      rw [lexed] at h
      cases h

/-- An accepted batch of one statement has run it. -/
theorem runOne_of_execute {text : String} (plain : Plain text.toList) {tokens : List Token}
    (lexed : tokens? text.toList = some tokens) (nonempty : tokens ≠ [])
    (h : store.execute text = (.ok (), after))
    : store.runOne (some tokens) = .ok after := by
  have single : statements text = [some tokens] := by
    rw [statements_of_plain plain, lexed, endStatement, finished]
    simp [nonempty]
  rw [execute, single, runAll_singleton] at h
  cases ran : store.runOne (some tokens) with
  | error fault =>
      rw [ran] at h
      cases h
  | ok reached =>
      rw [ran] at h
      cases h
      rfl

theorem tables_of_working (inside : store.transaction.working = some database)
    {tables : Database} (h : store.tables = .ok tables)
    : tables = database := by
  rw [Store.tables] at h
  split at h
  · rw [← Except.ok.inj h, Transaction.current, inside]
    rfl
  · cases h

theorem working_change (inside : store.transaction.working = some database) (next : Database)
    : (store.change next).transaction.working = some next := by
  simp [change, Transaction.change, Transaction.isOpen, inside]

/-- Nothing is removed where no table has the name. -/
theorem remove_of_missing {table : String} (h : database.get? table = none)
    : database.remove table = database := by
  rw [get?, Option.map_eq_none_iff, List.find?_eq_none] at h
  have kept : (database.tables.filter fun entry => !sameName entry.1 table) = database.tables := by
    rw [List.filter_eq_self]
    intro entry member
    simpa using h entry member
  rw [remove, kept]

theorem working_of_drop (inside : store.transaction.working = some database) {table : String}
    {outcome : Outcome} (h : store.prepare (.drop table true) = .ok outcome)
    : outcome.after.transaction.working = some (database.remove table) := by
  obtain ⟨tables, seen, made⟩ := bind_eq_ok.mp h
  obtain rfl := tables_of_working inside seen
  split at made
  · cases made
    exact working_change inside _
  · next missing =>
      cases made
      rw [remove_of_missing (by simpa using missing)]
      exact inside

theorem working_of_createFrom (inside : store.transaction.working = some database)
    {copy table : String} {outcome : Outcome}
    (h : store.prepare (.createFrom copy false (wholeSelect table)) = .ok outcome)
    : ∃ relation,
        database.get? table = some relation
        ∧ outcome.after.transaction.working = some (database.add copy relation.shown) := by
  obtain ⟨tables, seen, later⟩ := bind_eq_ok.mp h
  obtain rfl := tables_of_working inside seen
  obtain ⟨new, isNew, made⟩ := bind_eq_ok.mp later
  split at made
  · obtain ⟨selection, selected, filled⟩ := bind_eq_ok.mp made
    obtain ⟨relation, stored, rfl⟩ := run_wholeSelect selected
    cases filled
    exact ⟨relation, stored, working_change inside _⟩
  · next old =>
      rw [missing] at isNew
      split at isNew
      · cases isNew
      · split at isNew
        · cases isNew
          cases old rfl
        · cases isNew

/-- A table that is dropped by its name is gone. -/
theorem drop_of_execute {name : String} (word : isIdentifier name = true)
    (inside : store.transaction.working = some database)
    (h : store.execute ("DROP TABLE IF EXISTS " ++ name) = (.ok (), after))
    : after.transaction.working = some (database.remove name) := by
  have plain : Plain ("DROP TABLE IF EXISTS " ++ name).toList :=
    plain_append (by decide) (plain_of_isTokenChar (isTokenChar_of_isIdentifier word))
  have lexed : tokens? ("DROP TABLE IF EXISTS " ++ name).toList
      = some [.word "DROP", .word "TABLE", .word "IF", .word "EXISTS", .word name] := by
    rw [String.toList_append, tokens?_drop, tokens?_word_end word, String.ofList_toList]
    rfl
  have ran := runOne_of_execute plain lexed (by simp) h
  obtain ⟨statement, outcome, read, prepared, rfl⟩ := runOne_eq_ok ran
  obtain ⟨-, rfl⟩ := Statement.drop_of_read read
  exact working_of_drop inside prepared

/-- Nothing is dropped by a name that goes on at a point: there stands another token, and the
statement does not end with its name.
-/
theorem not_drop_of_point {name : String} (plain : Plain name.toList) {word more : List Char}
    (front : isIdentifierText word = true) (split : name.toList = word ++ '.' :: more)
    : store.execute ("DROP TABLE IF EXISTS " ++ name) ≠ (.ok (), after) := by
  intro h
  have whole : Plain ("DROP TABLE IF EXISTS " ++ name).toList := plain_append (by decide) plain
  obtain ⟨tokens, lexed⟩ := exists_tokens_of_execute whole h
  have ends : EndsWord ('.' :: more) := endsWord_cons (by decide) more
  have first := lexed
  rw [String.toList_append, tokens?_drop, split, tokens?_word front ends] at first
  cases behind : tokens? ('.' :: more) with
  | none =>
      rw [behind] at first
      cases first
  | some rest =>
      rw [behind] at first
      cases first
      have ran := runOne_of_execute whole lexed (by simp) h
      obtain ⟨statement, outcome, read, _⟩ := runOne_eq_ok ran
      obtain ⟨rfl, -⟩ := Statement.drop_of_read read
      cases tokens?_point more behind

/-- A table that is created from another one shows all of it. -/
theorem create_of_execute {name source : String} (word : isIdentifier name = true)
    (sourceWord : isIdentifier source = true)
    (inside : store.transaction.working = some database)
    (h
      : store.execute
          ("CREATE TABLE " ++ name ++ " AS SELECT * FROM " ++ source ++ " ORDER BY RANDOM()")
        = (.ok (), after))
    : ∃ relation,
        database.get? source = some relation
        ∧ after.transaction.working = some (database.add name relation.shown) := by
  let text := "CREATE TABLE " ++ name ++ " AS SELECT * FROM " ++ source ++ " ORDER BY RANDOM()"
  have plain : Plain text.toList := by
    have own := plain_of_isTokenChar (isTokenChar_of_isIdentifier word)
    have other := plain_of_isTokenChar (isTokenChar_of_isIdentifier sourceWord)
    refine plain_append (plain_append (plain_append (plain_append ?_ own) ?_) other) ?_
    all_goals decide
  have lexed := tokens?_create word sourceWord
  have chars : text.toList
      = "CREATE TABLE ".toList ++ (name.toList ++ (" AS ".toList
        ++ ("SELECT * FROM ".toList ++ (source.toList ++ " ORDER BY RANDOM()".toList)))) := by
    simp [text]
  rw [← chars, String.ofList_toList, String.ofList_toList] at lexed
  have ran := runOne_of_execute plain lexed (by simp) h
  obtain ⟨statement, outcome, read, prepared, rfl⟩ := runOne_eq_ok ran
  obtain rfl := Statement.createFrom_of_read read
  exact working_of_createFrom inside prepared

end Store

end JoinLatency.Database

-----------------------------------------------------------------------------------------
-- Sessions that copy tables
-----------------------------------------------------------------------------------------

namespace JoinLatency

open JoinLatency.Database

/-- A copy of a table has its columns and, in some order, its rows. -/
structure Database.Relation.Copies (copy base : Relation) : Prop where
  columns : copy.columns = base.columns
  rows : base.Rectangular → copy.rows.Perm base.rows

theorem Database.Relation.copies_shown (base : Relation) : base.shown.Copies base where
  columns := rfl
  rows rectangular := by rw [shown_of_rectangular rectangular]

/-- A session on a transactional database of tables, as far as identifiers name them. Inside a
transaction a table that is dropped is gone, a table that is created from all rows of another one
is a copy of it, and no other table changes.
-/
structure Tabular (S D : Type) {C : Type} [RowSource C] [Session S C] extends
    Transactional S D where
  /-- The table with a name. -/
  table : D → String → Option Relation
  table_congr
    : ∀ (tables : D) {name other : String}, sameName name other = true →
        table tables name = table tables other
  drop
    : ∀ {session next : S} {tables : D} {name : String}, isIdentifier name = true →
        (state session).working = some tables →
          Session.execute session ("DROP TABLE IF EXISTS " ++ name) = (.ok (), next) →
            ∃ rest,
              (state next).working = some rest
              ∧ ∀ other,
                  table rest other = if sameName name other then none else table tables other
  create
    : ∀ {session next : S} {tables : D} {name source : String}, isIdentifier name = true →
        isIdentifier source = true →
          (state session).working = some tables →
            table tables name = none →
              Session.execute session
                  ("CREATE TABLE " ++ name ++ " AS SELECT * FROM " ++ source
                    ++ " ORDER BY RANDOM()")
                = (.ok (), next) →
                ∃ more base copy,
                  (state next).working = some more
                  ∧ table tables source = some base
                  ∧ copy.Copies base
                  ∧ ∀ other,
                      table more other
                      = if sameName name other then some copy else table tables other

/-- A name leads to no table of another name: it is an identifier, or nothing is dropped by it. A
qualified name may lead anywhere.
-/
def Session.OwnName (S : Type) {C : Type} [RowSource C] [Session S C] (name : String) : Prop :=
  isIdentifier name = true
  ∨ ∀ session next : S,
      Session.execute session ("DROP TABLE IF EXISTS " ++ name) ≠ (.ok (), next)

namespace Database.DatabaseSession

/-- A session accepts a batch when its store does. -/
theorem execute_store {session next : DatabaseSession} {sql : String}
    (h : Session.execute session sql = (.ok (), next))
    : session.store.execute sql = (.ok (), next.store) := by
  have answer : session.withStore (session.store.execute sql) = (.ok (), next) := h
  rcases ran : session.store.execute sql with ⟨_ | _, after⟩
  · rw [ran] at answer
    cases answer
  · rw [ran] at answer
    cases answer
    rfl

/-- Sessions on a store have its tables. -/
def tabular : Tabular DatabaseSession Database where
  toTransactional := transactional
  table := Database.get?
  table_congr tables _ _ same := get?_congr same tables
  drop {session next tables name} word inside h :=
    ⟨tables.remove name, Store.drop_of_execute word inside (execute_store h),
      tables.get?_remove name⟩
  create {session next tables name source} word sourceWord inside free h := by
    obtain ⟨relation, stored, filled⟩ :=
      Store.create_of_execute word sourceWord inside (execute_store h)
    exact ⟨_, relation, relation.shown, filled, stored, relation.copies_shown,
      get?_add free relation.shown⟩

/-- Sessions on a store drop nothing by a qualified name. -/
theorem ownName_append {table suffix : String} (name : isIdentifier table = true)
    (token : isToken suffix = true)
    : Session.OwnName DatabaseSession (table ++ suffix) := by
  rcases name_or_point name (isTokenChar_of_isToken token) with whole | ⟨word, more, front, split⟩
  · exact .inl (by rwa [isIdentifier, String.toList_append])
  · refine .inr fun session next h => ?_
    have plain := plain_append
      (plain_of_isTokenChar (isTokenChar_of_isIdentifier name))
      (plain_of_isTokenChar (isTokenChar_of_isToken token))
    exact Store.not_drop_of_point plain front (by rw [String.toList_append, split])
      (execute_store h)

end Database.DatabaseSession

end JoinLatency

import JoinLatency.Proofs.Database.Transactional
import JoinLatency.Shuffle

/-! Texts of the batches. The statements of an accepted shuffler are plain, so that a batch falls
into the statements between its semicolons, and a session can be followed through it one by one.
-/

namespace JoinLatency

open JoinLatency.Database

namespace Shuffler

/-- Tables are identifiers and suffixes are tokens. -/
structure Checked (shuffler : Shuffler) : Prop where
  tables : ∀ table ∈ shuffler.tables, isIdentifier table = true
  suffixes : ∀ suffix ∈ shuffler.suffixes, isToken suffix = true

theorem ofLists_eq_ok {tables suffixes : List String} {shuffler : Shuffler}
    : ofLists tables suffixes = .ok shuffler
      ↔ shuffler = { tables, suffixes } ∧ shuffler.Checked := by
  have passed : ofLists tables suffixes = .ok shuffler
      ↔ tables.forM checkIdentifier = .ok ()
        ∧ suffixes.forM (checkToken "suffix") = .ok ()
        ∧ shuffler = { tables, suffixes } := by
    simp only [ofLists, bind_eq_ok]
    constructor
    · rintro ⟨_, names, _, tokens, made⟩
      exact ⟨names, tokens, (Except.ok.inj made).symm⟩
    · rintro ⟨names, tokens, rfl⟩
      exact ⟨(), names, (), tokens, rfl⟩
  simp only [passed, forM_eq_ok, checkIdentifier_eq_ok, checkToken_eq_ok]
  constructor
  · rintro ⟨names, tokens, rfl⟩
    exact ⟨rfl, names, tokens⟩
  · rintro ⟨rfl, names, tokens⟩
    exact ⟨names, tokens, rfl⟩

/-- The rest of the statement that drops the copy of a table. -/
def dropped (suffix table : String) : String :=
  "IF EXISTS " ++ (table ++ suffix)

/-- The rest of the statement that creates the copy of a table. -/
def created (suffix table : String) : String :=
  table ++ suffix ++ " AS SELECT * FROM " ++ table ++ " ORDER BY RANDOM()"

theorem drop_append_dropped (suffix table : String)
    : "DROP TABLE " ++ dropped suffix table = "DROP TABLE IF EXISTS " ++ (table ++ suffix) := by
  have whole : "DROP TABLE IF EXISTS " = "DROP TABLE " ++ "IF EXISTS " := by decide
  rw [whole, dropped, String.append_assoc]

theorem create_append_created (suffix table : String)
    : "CREATE TABLE " ++ created suffix table
      = "CREATE TABLE " ++ (table ++ suffix) ++ " AS SELECT * FROM " ++ table
        ++ " ORDER BY RANDOM()" := by
  simp only [created, String.append_assoc]

section Plain

variable {suffix table : String} (name : isIdentifier table = true) (token : isToken suffix = true)

include name token

theorem plain_copy : Plain (table ++ suffix).toList :=
  plain_append (plain_of_isTokenChar (isTokenChar_of_isIdentifier name))
    (plain_of_isTokenChar (isTokenChar_of_isToken token))

theorem plain_dropped : Plain ("DROP TABLE " ++ dropped suffix table).toList := by
  have start : Plain "DROP TABLE ".toList := by decide
  have words : Plain "IF EXISTS ".toList := by decide
  exact plain_append start (plain_append words (plain_copy name token))

theorem plain_created : Plain ("CREATE TABLE " ++ created suffix table).toList := by
  have start : Plain "CREATE TABLE ".toList := by decide
  have source : Plain " AS SELECT * FROM ".toList := by decide
  have order : Plain " ORDER BY RANDOM()".toList := by decide
  have base : Plain table.toList := plain_of_isTokenChar (isTokenChar_of_isIdentifier name)
  have copy := plain_copy name token
  exact plain_append start (plain_append (plain_append (plain_append copy source) base) order)

end Plain

theorem copyStatements_eq (suffix table : String)
    : copyStatements suffix table
      = "DROP TABLE IF EXISTS " ++ table ++ suffix ++ "; CREATE TABLE " ++ table ++ suffix
        ++ " AS SELECT * FROM " ++ table ++ " ORDER BY RANDOM();" := by
  have seam : "; CREATE TABLE " = "; " ++ "CREATE TABLE " := by decide
  show "DROP TABLE IF EXISTS " ++ table ++ suffix ++ "; "
      ++ ("CREATE TABLE " ++ table ++ suffix ++ " AS SELECT * FROM " ++ table
        ++ " ORDER BY RANDOM();")
    = _
  rw [seam]
  simp only [String.append_assoc]

/-- The statements that recreate one copy, apart from each other. -/
theorem copyStatements_append (suffix table more : String)
    : copyStatements suffix table ++ more
      = "DROP TABLE " ++ dropped suffix table ++ ";"
        ++ (String.singleton ' ' ++ ("CREATE TABLE " ++ created suffix table ++ ";" ++ more)) := by
  have drop : "DROP TABLE IF EXISTS " = "DROP TABLE " ++ "IF EXISTS " := by decide
  have gap : "; CREATE TABLE " = ";" ++ String.singleton ' ' ++ "CREATE TABLE " := by decide
  have last : " ORDER BY RANDOM();" = " ORDER BY RANDOM()" ++ ";" := by decide
  rw [copyStatements_eq, drop, gap, last, dropped, created]
  simp only [String.append_assoc]

/-- What holds of a text, and of each text with the statements of one more copy or a line end in
front of it, holds of the statements of all copies in front of it. By induction along the tables.
-/
theorem copies_induction {suffix more : String} {P : List String → String → Prop}
    (last : P [] more)
    (copy
      : ∀ {table rest text}, P rest text →
          P (table :: rest) (copyStatements suffix table ++ text))
    (line : ∀ {rest text}, P rest text → P rest (String.singleton '\n' ++ text))
    (tables : List String)
    : P tables ("\n".intercalate (tables.map (copyStatements suffix)) ++ more) := by
  induction tables with
  | nil => simpa using last
  | cons table rest ih =>
      cases rest with
      | nil => simpa using copy last
      | cons next rest =>
          have later : P (table :: next :: rest) _ := copy (line ih)
          simpa [String.intercalate_cons_cons, String.append_assoc] using later

/-- The whole text of a batch. -/
theorem batch_text (shuffler : Shuffler) (suffix : String)
    : shuffler.batch suffix
      = "BEGIN;\n"
        ++ "\n".intercalate
          (shuffler.tables.map fun table =>
            "DROP TABLE IF EXISTS " ++ table ++ suffix ++ "; CREATE TABLE " ++ table ++ suffix
              ++ " AS SELECT * FROM " ++ table ++ " ORDER BY RANDOM();")
        ++ "\nCOMMIT;" := by
  rw [← funext (copyStatements_eq suffix)]
  rfl

/-- A batch starts a transaction, recreates the copies and commits. -/
theorem batch_eq (shuffler : Shuffler) (suffix : String)
    : shuffler.batch suffix
      = "BEGIN" ++ ";"
        ++ (String.singleton '\n'
          ++ (shuffler.statements suffix
            ++ (String.singleton '\n' ++ ("COMMIT" ++ ";" ++ "")))) := by
  apply String.toList_injective
  simp [batch, toString]

end Shuffler

end JoinLatency

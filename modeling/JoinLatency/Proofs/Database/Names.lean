import JoinLatency.Database.Basic

/-! Names of tables. Names that differ only in the case of their letters mean the same table, and a
table that replaces another one is found under these names and no others.
-/

namespace JoinLatency.Database

/-- A name as it is compared. -/
def folded (name : String) : List Char :=
  name.toList.map Char.toLower

theorem sameName_iff {a b : String} : sameName a b = true ↔ folded a = folded b := by
  rw [sameName, beq_iff_eq, ← String.toList_inj, String.toList_map, String.toList_map]
  rfl

theorem folded_append (a b : String) : folded (a ++ b) = folded a ++ folded b := by
  simp [folded]

theorem folded_eq_nil_iff {name : String} : folded name = [] ↔ name = "" := by
  rw [folded, List.map_eq_nil_iff, String.toList_eq_nil_iff]

/-- Two names that mean the same have the same parts of one length. -/
theorem folded_drop (name : String) (n : Nat)
    : folded (String.ofList (name.toList.drop n)) = (folded name).drop n := by
  simp [folded]

theorem sameName_self (name : String) : sameName name name = true :=
  sameName_iff.mpr rfl

theorem get?_congr {name other : String} (same : sameName name other = true)
    (database : Database)
    : database.get? name = database.get? other := by
  have same' : name.map Char.toLower = other.map Char.toLower := beq_iff_eq.mp same
  simp only [get?, sameName, same']

theorem get?_remove (database : Database) (name other : String)
    : (database.remove name).get? other
      = if sameName name other then none else database.get? other := by
  rw [get?, remove, List.find?_filter]
  split
  · next same =>
      rw [sameName_iff] at same
      rw [Option.map_eq_none_iff, List.find?_eq_none]
      intro entry _ found
      simp only [Bool.not_eq_eq_eq_not, Bool.not_true, decide_eq_true_eq, ← Bool.not_eq_true,
        sameName_iff] at found
      exact found.1 (found.2.trans same.symm)
  · next apart =>
      rw [sameName_iff] at apart
      have passes (entry : String × Relation)
          : decide ((!sameName entry.1 name) = true ∧ sameName entry.1 other = true)
            = sameName entry.1 other := by
        rw [Bool.eq_iff_iff, decide_eq_true_iff, Bool.not_eq_true', ← Bool.not_eq_true,
          and_iff_right_iff_imp, sameName_iff, sameName_iff]
        intro found taken
        exact apart (taken.symm.trans found)
      simp only [passes, get?]

/-- A new table is found under its name, and nothing else changes. -/
theorem get?_add {database : Database} {name : String} (free : database.get? name = none)
    (relation : Relation) (other : String)
    : (database.add name relation).get? other
      = if sameName name other then some relation else database.get? other := by
  rw [add, get?, List.find?_append, Option.map_or, List.find?_singleton]
  by_cases same : sameName name other = true
  · have free' : (database.tables.find? fun entry => sameName entry.1 other).map (·.2) = none :=
      (get?_congr same database).symm.trans free
    simp [same, free']
  · simp [same, get?]

end JoinLatency.Database

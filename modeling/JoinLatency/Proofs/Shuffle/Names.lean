import JoinLatency.Proofs.Database.Names
import JoinLatency.Proofs.Decimal.ReadBack
import JoinLatency.Proofs.Shuffle.Texts
import Mathlib.Data.List.Induction

/-! Names of copies. A copy is called by the name of its table and a suffix, so that it can only be
another table or another copy where one table's name goes on to another table's name. Copies that
are numbered are apart unless a table is called like the numbered copy of another one.
-/

namespace JoinLatency

open JoinLatency.Database

-----------------------------------------------------------------------------------------
-- Digits of numbers
-----------------------------------------------------------------------------------------

/-- The front of a number is a number that is no greater, by induction on the number of digits
behind it.
-/
theorem exists_toDigits_of_append {front back : List Char} (n : Nat) (nonempty : front ≠ [])
    (positive : 0 < n) (h : front ++ back = Nat.toDigits 10 n)
    : ∃ m, 0 < m ∧ m ≤ n ∧ front = Nat.toDigits 10 m := by
  induction back using List.reverseRecOn generalizing n with
  | nil => exact ⟨n, positive, Nat.le_refl n, by rwa [List.append_nil] at h⟩
  | append_singleton back digit ih =>
      rcases Nat.lt_or_ge n 10 with small | large
      · rw [Nat.toDigits_of_lt_base small, ← List.append_assoc] at h
        have length := congrArg List.length h
        have front := List.length_pos_iff.mpr nonempty
        simp only [List.length_append, List.length_singleton] at length
        omega
      · rw [Nat.toDigits_of_base_le (by decide) large, ← List.append_assoc] at h
        obtain ⟨m, above, below, digits⟩ :=
          ih (n / 10) (by omega) (List.append_inj_left' h rfl)
        exact ⟨m, above, by omega, digits⟩

/-- Digits have no case. -/
theorem folded_toString (n : Nat) : folded (toString n) = Nat.toDigits 10 n := by
  rw [folded, Nat.toString_eq_ofList_toDigits, String.toList_ofList]
  conv_rhs => rw [← List.map_id (Nat.toDigits 10 n)]
  apply List.map_congr_left
  intro c member
  have digit := Nat.isDigit_of_mem_toDigits (by decide) (by decide) member
  exact Decimal.toLower_of_isDigit digit

-----------------------------------------------------------------------------------------
-- Copies that are apart
-----------------------------------------------------------------------------------------

namespace Shuffler

/-- No copy is one of the tables, and no two copies are the same table, in any case of letters. -/
structure Apart (shuffler : Shuffler) : Prop where
  tables
    : ∀ table ∈ shuffler.tables, ∀ suffix ∈ shuffler.suffixes, ∀ other ∈ shuffler.tables,
        sameName (table ++ suffix) other = false
  copies
    : ∀ table ∈ shuffler.tables, ∀ suffix ∈ shuffler.suffixes,
        ∀ other ∈ shuffler.tables, ∀ another ∈ shuffler.suffixes,
          sameName (table ++ suffix) (other ++ another) = true →
            sameName table other = true ∧ sameName suffix another = true

variable {shuffler : Shuffler}

/-- What stands between two names, of which one goes on from the other. -/
theorem exists_between {table other : String} {letters : List Char}
    (h : folded other = folded table ++ letters)
    : ∃ more, folded more = letters := by
  refine ⟨String.ofList (other.toList.drop (folded table).length), ?_⟩
  rw [folded_drop, h, List.drop_left]

/-- No table's name goes on to another one by a suffix, or by letters that are the difference of
two suffixes.
-/
def Clear (shuffler : Shuffler) : Prop :=
  ∀ table ∈ shuffler.tables, ∀ other ∈ shuffler.tables, ∀ more,
    more ≠ "" → sameName (table ++ more) other = true →
      (∀ suffix ∈ shuffler.suffixes, sameName suffix more = false)
      ∧ ∀ suffix ∈ shuffler.suffixes, ∀ another ∈ shuffler.suffixes,
          sameName suffix (more ++ another) = false

theorem Apart.clear (apart : shuffler.Apart) : shuffler.Clear := by
  intro table member other otherMember more nonempty goes
  simp only [← Bool.not_eq_true, sameName_iff, folded_append] at goes ⊢
  constructor
  · intro suffix suffixMember same
    have hit := apart.tables table member suffix suffixMember other otherMember
    rw [← Bool.not_eq_true, sameName_iff, folded_append, same] at hit
    exact hit goes
  · intro suffix suffixMember another anotherMember same
    have hit := apart.copies table member suffix suffixMember other otherMember another
      anotherMember
    simp only [sameName_iff, folded_append] at hit
    obtain ⟨sameTable, _⟩ := hit (by rw [same, ← goes, List.append_assoc])
    rw [sameTable, List.append_right_eq_self, folded_eq_nil_iff] at goes
    exact nonempty goes

/-- Of two copies with the same name neither table goes on from the other. -/
theorem Clear.eq_nil (clear : shuffler.Clear) {table other suffix another : String}
    (member : table ∈ shuffler.tables) (otherMember : other ∈ shuffler.tables)
    (suffixMember : suffix ∈ shuffler.suffixes) (anotherMember : another ∈ shuffler.suffixes)
    {letters : List Char} (goes : folded other = folded table ++ letters)
    (rest : folded suffix = letters ++ folded another)
    : letters = [] := by
  by_contra nonempty
  obtain ⟨more, rfl⟩ := exists_between goes
  rw [folded_eq_nil_iff] at nonempty
  have longer : sameName (table ++ more) other = true := by
    rw [sameName_iff, folded_append, goes]
  obtain ⟨-, differs⟩ := clear table member other otherMember more nonempty longer
  have apart := differs suffix suffixMember another anotherMember
  rw [← Bool.not_eq_true, sameName_iff, folded_append] at apart
  exact apart rest

theorem Clear.apart (clear : shuffler.Clear) (checked : shuffler.Checked) : shuffler.Apart := by
  constructor
  · intro table member suffix suffixMember other otherMember
    rw [← Bool.not_eq_true]
    intro goes
    have nonempty : suffix ≠ "" := by
      rintro rfl
      cases checked.suffixes "" suffixMember
    obtain ⟨differs, -⟩ := clear table member other otherMember suffix nonempty goes
    have own := differs suffix suffixMember
    rw [← Bool.not_eq_true, sameName_iff] at own
    exact own rfl
  · intro table member suffix suffixMember other otherMember another anotherMember same
    simp only [sameName_iff, folded_append] at same ⊢
    rcases List.append_eq_append_iff.mp same with ⟨letters, goes, rest⟩ | ⟨letters, goes, rest⟩
    · obtain rfl := clear.eq_nil member otherMember suffixMember anotherMember goes rest
      exact ⟨by rw [goes, List.append_nil], rest⟩
    · obtain rfl := clear.eq_nil otherMember member anotherMember suffixMember goes rest
      exact ⟨by rw [goes, List.append_nil], rest.symm⟩

/-- The suffixes of a numbered shuffler. -/
theorem mem_suffixes_of_numbered {tables : List String} {copies : Nat} {suffix : String}
    (h : numbered tables copies = .ok shuffler)
    : suffix ∈ shuffler.suffixes ↔ ∃ n, 0 < n ∧ n ≤ copies ∧ suffix = toString n := by
  obtain ⟨rfl, _⟩ := ofLists_eq_ok.mp h
  simp only [List.mem_map, List.mem_range]
  constructor
  · rintro ⟨n, below, rfl⟩
    exact ⟨n + 1, Nat.succ_pos n, below, rfl⟩
  · rintro ⟨n, above, below, rfl⟩
    exact ⟨n - 1, by omega, by rw [Nat.sub_add_cancel above]⟩

/-- Numbered copies are apart when no table is called like a numbered copy of another one: the
front of a number is a number again, so that no two copies have the same name then.
-/
theorem apart_iff_of_numbered {tables : List String} {copies : Nat}
    (h : numbered tables copies = .ok shuffler)
    : shuffler.Apart
      ↔ ∀ table ∈ shuffler.tables, ∀ other ∈ shuffler.tables,
          ∀ n, 0 < n → n ≤ copies → sameName (table ++ toString n) other = false := by
  obtain ⟨-, checked⟩ := ofLists_eq_ok.mp h
  constructor
  · intro apart table member other otherMember n above below
    have suffix := (mem_suffixes_of_numbered h).mpr ⟨n, above, below, rfl⟩
    exact apart.tables table member (toString n) suffix other otherMember
  · intro clear
    apply Clear.apart _ checked
    intro table member other otherMember more nonempty goes
    have differs (n : Nat) (above : 0 < n) (below : n ≤ copies)
        : folded more ≠ Nat.toDigits 10 n := by
      intro same
      have hit := clear table member other otherMember n above below
      rw [← Bool.not_eq_true, sameName_iff, folded_append, folded_toString, ← same,
        ← folded_append, ← sameName_iff] at hit
      exact hit goes
    simp only [mem_suffixes_of_numbered h, ← Bool.not_eq_true, sameName_iff, folded_append]
    constructor
    · rintro _ ⟨n, above, below, rfl⟩ same
      rw [folded_toString] at same
      exact differs n above below same.symm
    · rintro _ ⟨n, above, below, rfl⟩ another _ same
      rw [folded_toString] at same
      have front : folded more ≠ [] := fun empty => nonempty (folded_eq_nil_iff.mp empty)
      obtain ⟨m, positive, atMost, digits⟩ := exists_toDigits_of_append n front above same.symm
      exact differs m positive (atMost.trans below) digits

end Shuffler

end JoinLatency

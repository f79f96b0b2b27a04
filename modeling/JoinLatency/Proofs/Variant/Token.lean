import JoinLatency.Variant.Token

/-! Characters of checked names and values. Identifiers are tokens too, so that neither a name nor
a value holds a character that separates texts.
-/

namespace JoinLatency

theorem checkIdentifier_eq_ok {name : String}
    : checkIdentifier name = .ok () ↔ isIdentifier name = true := by
  rw [checkIdentifier]
  split <;> simp_all

theorem checkToken_eq_ok {name value : String}
    : checkToken name value = .ok () ↔ isToken value = true := by
  rw [checkToken]
  split <;> simp_all

theorem isTokenChar_of_isIdentifierRest {c : Char} (h : isIdentifierRest c = true)
    : isTokenChar c = true := by
  rw [isIdentifierRest] at h
  simp [isTokenChar, h]

/-- An identifier may go on with any of its characters, the first one included. -/
theorem isIdentifierRest_of_isIdentifierText {text : List Char} (h : isIdentifierText text = true)
    : ∀ c ∈ text, isIdentifierRest c = true := by
  cases text with
  | nil => cases h
  | cons first rest =>
      simp only [isIdentifierText, Bool.and_eq_true, List.all_eq_true] at h
      obtain ⟨start, later⟩ := h
      intro c member
      rcases List.mem_cons.mp member with rfl | there
      · simp only [isIdentifierStart, Bool.or_eq_true] at start
        rcases start with letter | underscore
        · simp [isIdentifierRest, Char.isAlphanum, letter]
        · simp [isIdentifierRest, underscore]
      · exact later c there

theorem isTokenChar_of_isToken {value : String} (h : isToken value = true)
    : ∀ c ∈ value.toList, isTokenChar c = true := by
  simp only [isToken, isTokenText, Bool.and_eq_true, List.all_eq_true] at h
  exact h.2

theorem isTokenChar_of_isIdentifier {name : String} (h : isIdentifier name = true)
    : ∀ c ∈ name.toList, isTokenChar c = true := fun c member =>
  isTokenChar_of_isIdentifierRest (isIdentifierRest_of_isIdentifierText h c member)

/-- A character that no token holds does not occur in a text of token characters. -/
theorem count_eq_zero_of_foreign {text : List Char} (h : ∀ c ∈ text, isTokenChar c = true)
    {c : Char} (foreign : isTokenChar c = false)
    : text.count c = 0 := by
  apply List.count_eq_zero_of_not_mem
  intro member
  rw [h c member] at foreign
  cases foreign

end JoinLatency

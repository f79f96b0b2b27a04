import JoinLatency.Decimal.Fixed
import JoinLatency.Proofs.Decimal.ReadBack

/-! Texts with a fixed number of places read back. Such a text is a literal of the double nearest
to the rounded value, and it has no blanks.
-/

namespace JoinLatency.Decimal

/-- The number of units of the last place that a finite double is nearest to. -/
def unitsOf (places : Nat) (x : Float) : Nat :=
  let (num, den) := magnitudeRatio (magnitudeBits x)
  roundDiv .toEven (num * Nat.pow 10 places) den

/-- The double nearest to a double that is rounded to a number of decimal places. What is infinite
or undefined stays.
-/
def rounded (places : Nat) (x : Float) : Float :=
  if infinityBits ≤ magnitudeBits x then x
  else ofMagnitude (isNegative x) (nearestDecimalBits (unitsOf places x) (-places))

-----------------------------------------------------------------------------------------
-- Units of the last place
-----------------------------------------------------------------------------------------

/-- A count of units with places stands for as many units of the last place. -/
theorem positional_placed (places units : Nat)
    : Positional (Digits.value ⟨units, -places⟩) (placed places units) := by
  have digit (n : Nat) : ∀ c ∈ Nat.toDigits 10 n, c.isDigit = true := fun _ =>
    Nat.isDigit_of_mem_toDigits (by decide) (by decide)
  rw [placed]
  split
  next whole =>
    subst whole
    refine .whole (digit _) Nat.toDigits_ne_nil ?_
    simp [Nat.ofDigitChars_ten_toDigits, Digits.value]
  next some =>
    let fraction := Nat.toDigits 10 (units % Nat.pow 10 places)
    let padded := List.replicate (places - fraction.length) '0' ++ fraction
    have fits : fraction.length ≤ places :=
      (Nat.length_toDigits_le_iff (by decide) (Nat.pos_of_ne_zero some)).mpr
        (Nat.mod_lt units (Nat.pow_pos (by decide)))
    have length : padded.length = places := by
      rw [List.length_append, List.length_replicate, Nat.sub_add_cancel fits]
    have read : Nat.ofDigitChars 10 padded 0 = units % Nat.pow 10 places := by
      rw [Nat.ofDigitChars_append, Nat.ofDigitChars_replicate_zero, Nat.mul_zero,
        Nat.ofDigitChars_ten_toDigits]
    have digits (c : Char) (member : c ∈ padded) : c.isDigit = true :=
      (List.mem_append.mp member).elim isDigit_of_mem_replicate (digit _ c)
    refine .point (digit _) digits Nat.toDigits_ne_nil ?_
    rw [Nat.ofDigitChars_append, Nat.ofDigitChars_ten_toDigits,
      Nat.ofDigitChars_eq_ofDigitChars_zero, read, length]
    exact congrArg (fun n : Nat => (n : ℚ) * 10 ^ (-(places : Int))) (Nat.div_add_mod _ _)

-----------------------------------------------------------------------------------------
-- Signs and words
-----------------------------------------------------------------------------------------

variable {places : Nat} {x : Float}

theorem fixed_of_undefined (h : infinityBits < magnitudeBits x) : fixed places x = "NaN" :=
  if_pos h

theorem fixed_of_infinite (h : magnitudeBits x = infinityBits)
    : (fixed places x).toList
      = if isNegative x then '-' :: ['i', 'n', 'f'] else ['i', 'n', 'f'] := by
  have defined : ¬ infinityBits < magnitudeBits x := by omega
  rw [fixed, if_neg defined, if_pos h, String.toList_ofList]
  cases isNegative x <;> rfl

theorem fixed_of_finite (h : magnitudeBits x < infinityBits)
    : (fixed places x).toList
      = if isNegative x then '-' :: placed places (unitsOf places x)
        else placed places (unitsOf places x) := by
  have defined : ¬ infinityBits < magnitudeBits x := by omega
  have limited : ¬ magnitudeBits x = infinityBits := by omega
  rw [fixed, if_neg defined, if_neg limited]
  refine String.toList_ofList.trans ?_
  cases isNegative x <;> rfl

/-- The text of a double with a fixed number of places is a literal of the rounded double. -/
theorem literal_fixed (places : Nat) (x : Float)
    : literal (fixed places x).toList = .ok (rounded places x) := by
  rcases Nat.lt_trichotomy (magnitudeBits x) infinityBits with finite | infinite | undefined
  · obtain ⟨first, rest, text, opening, read⟩ :=
      (positional_placed places (unitsOf places x)).unsignedLiteral?
    rw [fixed_of_finite finite, text, literal_of_digit (isNegative x) opening read, rounded,
      if_neg (Nat.not_le_of_lt finite)]
  · have read := literal_of_unsigned (isNegative x) (by decide) (by decide)
      (rfl : unsignedLiteral? ['i', 'n', 'f'] = some infinityBits)
    rw [fixed_of_infinite infinite, read, rounded, if_pos (Nat.le_of_eq infinite.symm),
      ← infinite, ofMagnitude_magnitudeBits]
  · rw [fixed_of_undefined undefined, rounded, if_pos (Nat.le_of_lt undefined),
      eq_of_undefined undefined]
    rfl

/-- The text of a double with a fixed number of places has no blanks. -/
theorem isBlank_of_mem_fixed {c : Char} (h : c ∈ (fixed places x).toList)
    : Text.isBlank c = false := by
  have word {text : List Char} (none : text.all (!Text.isBlank ·) = true) (member : c ∈ text)
      : Text.isBlank c = false := by
    simpa using List.all_eq_true.mp none c member
  have signed {text : List Char} (member : c ∈ if isNegative x then '-' :: text else text)
      : c ∈ ['-'] ∨ c ∈ text := by
    split at member
    · exact List.mem_append.mp member
    · exact .inr member
  rcases Nat.lt_trichotomy (magnitudeBits x) infinityBits with finite | infinite | undefined
  · rw [fixed_of_finite finite] at h
    rcases signed h with sign | number
    · exact word (by decide) sign
    · exact (positional_placed places (unitsOf places x)).isBlank_of_mem number
  · rw [fixed_of_infinite infinite] at h
    rcases signed h with sign | number
    · exact word (by decide) sign
    · exact word (by decide) number
  · rw [fixed_of_undefined undefined] at h
    exact word (by decide) h

end JoinLatency.Decimal

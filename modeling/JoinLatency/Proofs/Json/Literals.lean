import JoinLatency.Json.Number
import JoinLatency.Json.Token
import JoinLatency.Proofs.Decimal.ReadBack

/-! Literals of numbers. What is written for a count or a finite double is a number, and the
literal of a count stands for it.
-/

namespace JoinLatency.Json

open JoinLatency.Decimal

-----------------------------------------------------------------------------------------
-- The characters of a number
-----------------------------------------------------------------------------------------

theorem isNumberChar_of_isDigit {c : Char} (h : c.isDigit = true) : isNumberChar c = true := by
  simp [isNumberChar, h]

theorem isNumberChar_of_isDigits {text : List Char} (h : isDigits text = true)
    : ∀ c ∈ text, isNumberChar c = true := by
  simp only [isDigits, Bool.and_eq_true, List.all_eq_true] at h
  exact fun c member => isNumberChar_of_isDigit (h.2 c member)

theorem isNumberChar_of_isExponent {text : List Char} (h : isExponent text = true)
    : ∀ c ∈ text, isNumberChar c = true := by
  rw [isExponent.eq_def] at h
  split at h
  · exact List.forall_mem_cons.mpr ⟨rfl, isNumberChar_of_isDigits h⟩
  · exact List.forall_mem_cons.mpr ⟨rfl, isNumberChar_of_isDigits h⟩
  · exact isNumberChar_of_isDigits h

theorem isNumberChar_of_isTail {text : List Char} (h : isTail text = true)
    : ∀ c ∈ text, isNumberChar c = true := by
  cases text with
  | nil => simp
  | cons c rest =>
      simp only [isTail, Bool.and_eq_true, Bool.or_eq_true] at h
      refine List.forall_mem_cons.mpr ⟨?_, isNumberChar_of_isExponent h.2⟩
      simpa [isNumberChar, or_assoc] using Or.inr (Or.inr (Or.inr (Or.inr h.1)))

/-- Digits and then a text of such characters have no others. -/
theorem isNumberChar_of_dropWhile {text : List Char}
    (h : ∀ c ∈ text.dropWhile Char.isDigit, isNumberChar c = true)
    : ∀ c ∈ text, isNumberChar c = true := by
  intro c member
  rw [← List.takeWhile_append_dropWhile (p := Char.isDigit) (l := text)] at member
  rcases List.mem_append.mp member with digit | later
  · exact isNumberChar_of_isDigit (List.mem_takeWhile_imp digit)
  · exact h c later

theorem isNumberChar_of_isFractionTail {text : List Char} (h : isFractionTail text = true)
    : ∀ c ∈ text, isNumberChar c = true := by
  rw [isFractionTail.eq_def] at h
  split at h
  next rest =>
    rw [Bool.and_eq_true] at h
    refine List.forall_mem_cons.mpr ⟨rfl, isNumberChar_of_dropWhile ?_⟩
    exact isNumberChar_of_isTail h.2
  · exact isNumberChar_of_isTail h

/-- An unsigned number opens with a digit. -/
theorem opens_of_isUnsignedNumber {text : List Char} (h : isUnsignedNumber text = true)
    : ∃ first rest,
        text = first :: rest
        ∧ first.isDigit = true
        ∧ ∀ c ∈ rest, isNumberChar c = true := by
  rw [isUnsignedNumber.eq_def] at h
  split at h
  next rest => exact ⟨'0', rest, rfl, rfl, isNumberChar_of_isFractionTail h⟩
  next first rest _ =>
    rw [Bool.and_eq_true] at h
    refine ⟨first, rest, rfl, h.1, isNumberChar_of_dropWhile ?_⟩
    exact isNumberChar_of_isFractionTail h.2
  · cases h

/-- A number opens with a digit or a minus sign and goes on with characters of numbers. -/
theorem opens_of_isNumber {text : List Char} (h : isNumber text = true)
    : ∃ first rest,
        text = first :: rest
        ∧ (first.isDigit || first == '-') = true
        ∧ ∀ c ∈ rest, isNumberChar c = true := by
  rw [isNumber.eq_def] at h
  split at h
  next rest =>
    obtain ⟨first, later, rfl, digit, others⟩ := opens_of_isUnsignedNumber h
    refine ⟨'-', first :: later, rfl, rfl, ?_⟩
    exact List.forall_mem_cons.mpr ⟨isNumberChar_of_isDigit digit, others⟩
  · obtain ⟨first, later, rfl, digit, others⟩ := opens_of_isUnsignedNumber h
    exact ⟨first, later, rfl, by simp [digit], others⟩

-----------------------------------------------------------------------------------------
-- Digits that make a number
-----------------------------------------------------------------------------------------

/-- The digits of a positive natural do not open with a zero. -/
theorem toDigits_opens {n : Nat} (positive : 0 < n)
    : ∃ first rest,
        Nat.toDigits 10 n = first :: rest
        ∧ first ≠ '0'
        ∧ ∀ c ∈ first :: rest, c.isDigit = true := by
  have digit {m : Nat} (c : Char) (member : c ∈ Nat.toDigits 10 m) : c.isDigit = true :=
    Nat.isDigit_of_mem_toDigits (by decide) (by decide) member
  induction n using Nat.strongRecOn with
  | ind n ih =>
      rcases Nat.lt_or_ge n 10 with small | large
      · rw [Nat.toDigits_of_lt_base small]
        have letters : ∀ m < 10, 0 < m → m.digitChar ≠ '0' := by decide
        refine ⟨n.digitChar, [], rfl, letters n small positive, ?_⟩
        rw [← Nat.toDigits_of_lt_base small]
        exact digit
      · obtain ⟨first, rest, text, nonzero, _⟩ := ih (n / 10) (by omega) (by omega)
        have split := Nat.toDigits_of_base_le (b := 10) (by decide) large
        rw [text] at split
        refine ⟨first, rest ++ [(n % 10).digitChar], split, nonzero, ?_⟩
        rw [← List.cons_append, ← split]
        exact digit

/-- Digits without an idle zero in front make a number of every tail that fits. -/
theorem isUnsignedNumber_append {first : Char} {rest : List Char} (tail : List Char)
    (digits : ∀ c ∈ first :: rest, c.isDigit = true) (lead : first ≠ '0' ∨ rest = [])
    (ends : tail.head?.all (!Char.isDigit ·) = true) (fits : isFractionTail tail = true)
    : isUnsignedNumber (first :: rest ++ tail) = true := by
  rw [List.forall_mem_cons] at digits
  have stop : tail.dropWhile Char.isDigit = tail := by
    cases tail with
    | nil => rfl
    | cons c later => simpa using ends
  have dropped : (rest ++ tail).dropWhile Char.isDigit = tail := by
    rw [List.dropWhile_append_of_pos digits.2, stop]
  rw [List.cons_append, isUnsignedNumber.eq_def]
  split
  next text same =>
    obtain ⟨rfl, rfl⟩ := List.cons.inj same
    rw [lead.resolve_left (by simp), List.nil_append]
    exact fits
  next c text _ same =>
    obtain ⟨rfl, rfl⟩ := List.cons.inj same
    rw [digits.1, dropped, fits]
    rfl
  next none => cases none

/-- A point needs a digit behind it, and may then be followed by an exponent. -/
theorem isFractionTail_point {fraction : List Char} (tail : List Char)
    (digits : ∀ c ∈ fraction, c.isDigit = true) (nonempty : fraction ≠ [])
    (ends : tail.head?.all (!Char.isDigit ·) = true) (fits : isTail tail = true)
    : isFractionTail ('.' :: (fraction ++ tail)) = true := by
  have stop : tail.takeWhile Char.isDigit = [] ∧ tail.dropWhile Char.isDigit = tail := by
    cases tail with
    | nil => exact ⟨rfl, rfl⟩
    | cons c later => simpa using ends
  rw [isFractionTail, List.takeWhile_append_of_pos digits, List.dropWhile_append_of_pos digits,
    stop.1, stop.2, fits, List.append_nil]
  simpa using nonempty

theorem isDigits_toDigits (n : Nat) : isDigits (Nat.toDigits 10 n) = true := by
  simp only [isDigits, Bool.and_eq_true, Bool.not_eq_true', List.isEmpty_eq_false_iff,
    List.all_eq_true]
  exact ⟨Nat.toDigits_ne_nil, fun c => Nat.isDigit_of_mem_toDigits (by decide) (by decide)⟩

/-- The digits of a natural are a number. -/
theorem isNumber_toDigits (n : Nat) : isNumber (Nat.toDigits 10 n) = true := by
  rcases Nat.eq_zero_or_pos n with rfl | positive
  · rfl
  · obtain ⟨first, rest, text, nonzero, digits⟩ := toDigits_opens positive
    have unsigned := isUnsignedNumber_append [] digits (.inl nonzero) rfl rfl
    rw [List.append_nil] at unsigned
    rw [text, isNumber]
    · exact unsigned
    · rintro later same
      obtain ⟨rfl, _⟩ := List.cons.inj same
      exact absurd (digits '-' List.mem_cons_self) (by decide)

/-- The literal of a count stands for the count. -/
theorem natural?_ofNat {n : Nat} (bound : n < countLimit) : natural? (.ofNat n) = some n := by
  have digits : (Nat.toDigits 10 n).all Char.isDigit = true := by
    have all := isDigits_toDigits n
    simp only [isDigits, Bool.and_eq_true] at all
    exact all.2
  simp only [ofNat, natural?, digits, if_true, Nat.ofDigitChars_ten_toDigits, bound]

/-- No number is a count that needs more than 64 bits. -/
theorem natural?_ofNat_iff {n : Nat} : natural? (.ofNat n) = some n ↔ n < countLimit := by
  refine ⟨fun read => ?_, natural?_ofNat⟩
  rw [ofNat, natural?] at read
  split at read
  · dsimp only at read
    split at read
    next bound => rwa [Option.some.inj read] at bound
    · cases read
  · cases read

-----------------------------------------------------------------------------------------
-- Doubles
-----------------------------------------------------------------------------------------

theorem isTail_exponent {sign : Char} (signed : sign = '+' ∨ sign = '-') (n : Nat)
    : isTail ('e' :: sign :: Nat.toDigits 10 n) = true := by
  rcases signed with rfl | rfl <;>
    simp [isTail, isExponent, isDigits_toDigits]

/-- Digits in exponent notation are a number. -/
theorem isUnsignedNumber_withExponent {first : Char} {rest : List Char}
    (digits : ∀ c ∈ first :: rest, c.isDigit = true) (exponent : Int)
    : isUnsignedNumber (withExponent (first :: rest) exponent) = true := by
  have sign : (if exponent < 0 then '-' else '+') = '+'
      ∨ (if exponent < 0 then '-' else '+') = '-' := by
    split <;> simp
  have tail := isTail_exponent sign exponent.natAbs
  have lead : ∀ c ∈ [first], c.isDigit = true := by
    simpa using digits first List.mem_cons_self
  cases rest with
  | nil => exact isUnsignedNumber_append _ lead (.inr rfl) rfl tail
  | cons second rest =>
      rw [List.forall_mem_cons] at digits
      have point := isFractionTail_point _ digits.2 (by simp) rfl tail
      have whole := isUnsignedNumber_append _ lead (.inr rfl) (by rfl) point
      exact whole

/-- Digits with a point among them are a number. -/
theorem isUnsignedNumber_pointAt {first : Char} {rest : List Char} (nonzero : first ≠ '0')
    (digits : ∀ c ∈ first :: rest, c.isDigit = true) (places : Int)
    : isUnsignedNumber (pointAt (first :: rest) places ".0") = true := by
  have zero (c : Char) (member : c ∈ ['0']) : c.isDigit = true :=
    isDigit_of_mem_replicate (n := 1) member
  rw [pointAt]
  split
  next before =>
    have fraction (c : Char)
        (member : c ∈ List.replicate (-places).toNat '0' ++ first :: rest)
        : c.isDigit = true :=
      (List.mem_append.mp member).elim isDigit_of_mem_replicate (digits c)
    have point := isFractionTail_point [] fraction (by simp) rfl rfl
    rw [List.append_nil] at point
    exact isUnsignedNumber_append _ zero (.inr rfl) rfl point
  next after =>
    split
    next beyond =>
      have all (c : Char)
          (member : c ∈ first :: (rest
            ++ List.replicate (places.toNat - (first :: rest).length) '0'))
          : c.isDigit = true := by
        rw [← List.cons_append] at member
        exact (List.mem_append.mp member).elim (digits c) isDigit_of_mem_replicate
      have point := isFractionTail_point [] zero (by simp) rfl rfl
      exact isUnsignedNumber_append _ all (.inl nonzero) rfl point
    next inside =>
      obtain ⟨before, count⟩ : ∃ before, places.toNat = before + 1 :=
        Nat.exists_eq_succ_of_ne_zero (by omega)
      rw [count, List.length_cons] at inside
      rw [count, List.take_succ_cons, List.drop_succ_cons]
      have whole (c : Char) (member : c ∈ first :: rest.take before) : c.isDigit = true :=
        digits c (List.mem_of_mem_take (i := before + 1) member)
      have fraction (c : Char) (member : c ∈ rest.drop before) : c.isDigit = true :=
        digits c (List.mem_cons_of_mem first (List.mem_of_mem_drop member))
      have some : rest.drop before ≠ [] := by
        rw [Ne, List.drop_eq_nil_iff]
        omega
      have point := isFractionTail_point [] fraction some rfl rfl
      rw [List.append_nil] at point
      exact isUnsignedNumber_append _ whole (.inl nonzero) rfl point

/-- The text of a positive decimal is a number. -/
theorem isUnsignedNumber_positive {decimal : Digits} (positive : 0 < decimal.coefficient)
    : isUnsignedNumber (Layout.data.positive decimal) = true := by
  obtain ⟨first, rest, text, nonzero, digits⟩ := toDigits_opens positive
  simp only [Layout.positive, text]
  split
  · exact isUnsignedNumber_pointAt nonzero digits _
  · exact isUnsignedNumber_withExponent digits _

/-- The text of a finite double is a number. -/
theorem isNumber_data_text {x : Float} (finite : magnitudeBits x < infinityBits)
    : isNumber (Layout.data.text x).toList = true := by
  have unsigned : isUnsignedNumber
      (if magnitudeBits x = 0 then '0' :: Layout.data.wholeEnding.toList
        else Layout.data.positive (shortest Layout.data.tie (magnitudeBits x))) = true := by
    split
    · decide
    next nonzero =>
      refine isUnsignedNumber_positive (Nat.pos_of_ne_zero fun none => nonzero ?_)
      rw [← nearest_shortest Layout.data.tie (Nat.pos_of_ne_zero nonzero) finite, none]
      rfl
  rw [Layout.text]
  simp only [Nat.not_lt.mpr (Nat.le_of_lt finite), Nat.ne_of_lt finite, if_false,
    String.toList_ofList]
  split
  · exact unsigned
  · obtain ⟨first, rest, text, digit, _⟩ := opens_of_isUnsignedNumber unsigned
    rw [isNumber.eq_def]
    split
    next later same =>
      rw [text] at same
      obtain ⟨rfl, _⟩ := List.cons.inj same
      cases digit
    · exact unsigned

end JoinLatency.Json

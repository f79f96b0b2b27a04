import JoinLatency.Decimal.Layout
import JoinLatency.Decimal.Literal
import JoinLatency.Proofs.Decimal.Doubles
import JoinLatency.Proofs.Decimal.Nearest
import JoinLatency.Text.Blank

/-! Plain texts read back. The plain text of a double is a literal of just this double, and it
has no blanks.
-/

namespace JoinLatency.Decimal

-----------------------------------------------------------------------------------------
-- Shortest decimals
-----------------------------------------------------------------------------------------

/-- The value of a decimal. -/
def Digits.value (digits : Digits) : ℚ :=
  digits.coefficient * 10 ^ digits.exponent

/-- A decimal that is found on a grid reads back. -/
theorem nearest_shortestOnGrid {tie : Tie} {bits : Nat} {exponent : Int} {digits : Digits}
    (h : shortestOnGrid tie bits exponent = some digits)
    : nearestDecimalBits digits.coefficient digits.exponent = bits := by
  simp only [shortestOnGrid, Option.map_eq_some_iff] at h
  obtain ⟨coefficient, found, rfl⟩ := h
  have reads := List.find?_some found
  exact beq_iff_eq.mp reads

/-- The digits of a decimal are the kept ones and the zeros that were dropped. -/
theorem Digits.exists_toDigits_eq (digits : Digits)
    : ∃ kept : List Char, ∃ dropped : Nat,
        Nat.toDigits 10 digits.coefficient = kept ++ List.replicate dropped '0'
        ∧ digits.normal = ⟨Nat.ofDigitChars 10 kept 0, digits.exponent + dropped⟩ := by
  let reversed := (Nat.toDigits 10 digits.coefficient).reverse
  let zeros := reversed.takeWhile (· == '0')
  let kept := reversed.dropWhile (· == '0')
  have split : zeros ++ kept = reversed := List.takeWhile_append_dropWhile
  have text : Nat.toDigits 10 digits.coefficient = kept.reverse ++ zeros.reverse := by
    rw [← List.reverse_append, split, List.reverse_reverse]
  have zero : zeros.reverse = List.replicate zeros.length '0' := by
    rw [List.eq_replicate_iff]
    refine ⟨List.length_reverse, fun c member => ?_⟩
    have leading := List.mem_takeWhile_imp (p := (· == '0')) (List.mem_reverse.mp member)
    exact beq_iff_eq.mp leading
  refine ⟨kept.reverse, zeros.length, by rw [text, zero], ?_⟩
  have count : (Nat.toDigits 10 digits.coefficient).length - kept.length = zeros.length := by
    rw [text, List.length_append, List.length_reverse, List.length_reverse]
    omega
  change (⟨_, digits.exponent
    + ((Nat.toDigits 10 digits.coefficient).length - kept.length : Nat)⟩ : Digits) = _
  rw [count]

/-- Dropping zeros keeps the value. -/
theorem Digits.value_normal (digits : Digits) : digits.normal.value = digits.value := by
  obtain ⟨kept, dropped, text, normal⟩ := digits.exists_toDigits_eq
  have whole : digits.coefficient = 10 ^ dropped * Nat.ofDigitChars 10 kept 0 := by
    rw [← Nat.ofDigitChars_replicate_zero, ← Nat.ofDigitChars_append, ← text,
      Nat.ofDigitChars_ten_toDigits]
  rw [value, value, normal, whole, zpow_add₀ (by norm_num)]
  push_cast
  rw [zpow_natCast]
  ring

/-- The shortest decimal of a magnitude reads back as the magnitude. -/
theorem nearest_shortest (tie : Tie) {bits : Nat} (positive : 0 < bits)
    (finite : bits < infinityBits)
    : nearestDecimalBits (shortest tie bits).coefficient (shortest tie bits).exponent
      = bits := by
  rw [shortest]
  refine (nearestDecimalBits_congr (Digits.value_normal _)).trans ?_
  generalize search : List.findSome? _ _ = hit
  cases hit with
  | none => exact nearestDecimalBits_exactDigits positive finite
  | some digits =>
      obtain ⟨n, member, found⟩ := List.exists_of_findSome?_eq_some search
      exact nearest_shortestOnGrid found

-----------------------------------------------------------------------------------------
-- Digits around a point
-----------------------------------------------------------------------------------------

theorem decimal?_whole {digits : List Char} (h : ∀ c ∈ digits, c.isDigit = true)
    (nonempty : digits ≠ [])
    : decimal? digits = some (Nat.ofDigitChars 10 digits 0, 0) := by
  have whole : digits.takeWhile Char.isDigit = digits := List.takeWhile_eq_self_iff.mpr h
  have rest : digits.dropWhile Char.isDigit = [] := List.dropWhile_eq_nil_iff.mpr h
  simp [decimal?, whole, rest, nonempty, exponentPart?]

theorem decimal?_point {whole fraction : List Char} (hw : ∀ c ∈ whole, c.isDigit = true)
    (hf : ∀ c ∈ fraction, c.isDigit = true) (nonempty : whole ≠ [])
    : decimal? (whole ++ '.' :: fraction)
      = some (Nat.ofDigitChars 10 (whole ++ fraction) 0, -(fraction.length : Int)) := by
  have point : Char.isDigit '.' = false := by decide
  have after : fraction.takeWhile Char.isDigit = fraction := List.takeWhile_eq_self_iff.mpr hf
  have rest : fraction.dropWhile Char.isDigit = [] := List.dropWhile_eq_nil_iff.mpr hf
  simp [decimal?, List.takeWhile_append_of_pos hw, List.dropWhile_append_of_pos hw, point, after,
    rest, nonempty, exponentPart?]

theorem isDigit_of_mem_replicate {n : Nat} {c : Char} (h : c ∈ List.replicate n '0')
    : c.isDigit = true := by
  rw [List.eq_of_mem_replicate h]
  decide

theorem isBlank_of_isDigit {c : Char} (h : c.isDigit = true) : Text.isBlank c = false := by
  simp only [Char.isDigit, Bool.and_eq_true, decide_eq_true_eq, ge_iff_le,
    UInt32.le_iff_toNat_le] at h
  change 48 ≤ c.toNat ∧ c.toNat ≤ 57 at h
  simp only [Text.isBlank, Bool.or_eq_false_iff, Bool.and_eq_false_iff, decide_eq_false_iff_not,
    beq_eq_false_iff_ne]
  omega

/-- A text of digits with at most one point among them, and the value that it stands for. -/
inductive Positional (value : ℚ) : List Char → Prop
  | whole {digits : List Char} (digit : ∀ c ∈ digits, c.isDigit = true) (nonempty : digits ≠ [])
    (same : (Nat.ofDigitChars 10 digits 0 : ℚ) = value)
    : Positional value digits
  | point {whole fraction : List Char} (digit : ∀ c ∈ whole, c.isDigit = true)
    (digit' : ∀ c ∈ fraction, c.isDigit = true) (nonempty : whole ≠ [])
    (same : (Nat.ofDigitChars 10 (whole ++ fraction) 0 : ℚ) * 10 ^ (-(fraction.length : Int))
      = value)
    : Positional value (whole ++ '.' :: fraction)

/-- A point among digits keeps their value. -/
theorem positional_pointAt {digits : List Char} (h : ∀ c ∈ digits, c.isDigit = true)
    (nonempty : digits ≠ []) (places : Int)
    : Positional (Nat.ofDigitChars 10 digits 0 * 10 ^ (places - digits.length))
        (pointAt digits places "") := by
  rw [pointAt]
  split
  next before =>
    have zero (c : Char) (member : c ∈ ['0']) : c.isDigit = true :=
      isDigit_of_mem_replicate (n := 1) member
    have zeros (c : Char) (member : c ∈ List.replicate (-places).toNat '0' ++ digits)
        : c.isDigit = true :=
      (List.mem_append.mp member).elim isDigit_of_mem_replicate (h c)
    refine .point zero zeros (by simp) ?_
    have exponent : -((List.replicate (-places).toNat '0' ++ digits).length : Int)
        = places - digits.length := by
      rw [List.length_append, List.length_replicate]
      omega
    rw [exponent, Nat.ofDigitChars_append, Nat.ofDigitChars_append,
      Nat.ofDigitChars_replicate_zero]
    simp [Nat.ofDigitChars_cons]
  next after =>
    split
    next beyond =>
      have all (c : Char)
          (member : c ∈ digits ++ List.replicate (places.toNat - digits.length) '0')
          : c.isDigit = true :=
        (List.mem_append.mp member).elim (h c) isDigit_of_mem_replicate
      have exponent : places - digits.length = ((places.toNat - digits.length : Nat) : Int) := by
        omega
      rw [String.toList_empty, List.append_nil]
      refine .whole all (by simp [nonempty]) ?_
      rw [Nat.ofDigitChars_append, Nat.ofDigitChars_replicate_zero, exponent, zpow_natCast]
      push_cast
      ring
    next inside =>
      have whole (c : Char) (member : c ∈ digits.take places.toNat) : c.isDigit = true :=
        h c (List.mem_of_mem_take member)
      have fraction (c : Char) (member : c ∈ digits.drop places.toNat) : c.isDigit = true :=
        h c (List.mem_of_mem_drop member)
      have positive : digits.take places.toNat ≠ [] := by
        rw [Ne, List.take_eq_nil_iff, not_or]
        exact ⟨by omega, nonempty⟩
      have exponent : -((digits.drop places.toNat).length : Int) = places - digits.length := by
        rw [List.length_drop]
        omega
      exact .point whole fraction positive (by rw [exponent, List.take_append_drop])

namespace Positional

variable {value : ℚ} {text : List Char}

/-- A positional text is read as a decimal of its value. -/
theorem exists_decimal? (h : Positional value text)
    : ∃ read : Digits,
        decimal? text = some (read.coefficient, read.exponent) ∧ read.value = value := by
  cases h with
  | whole digit nonempty same =>
      refine ⟨⟨Nat.ofDigitChars 10 text 0, 0⟩, decimal?_whole digit nonempty, ?_⟩
      rw [Digits.value, zpow_zero, mul_one, same]
  | point digit digit' nonempty same =>
      exact ⟨⟨_, _⟩, decimal?_point digit digit' nonempty, same⟩

theorem opens (h : Positional value text)
    : ∃ first rest, text = first :: rest ∧ first.isDigit = true := by
  cases h with
  | whole digit nonempty same =>
      obtain ⟨first, rest, rfl⟩ := List.exists_cons_of_ne_nil nonempty
      exact ⟨first, rest, rfl, digit first List.mem_cons_self⟩
  | point digit digit' nonempty same =>
      obtain ⟨first, rest, rfl⟩ := List.exists_cons_of_ne_nil nonempty
      exact ⟨first, _, rfl, digit first List.mem_cons_self⟩

theorem isBlank_of_mem (h : Positional value text) {c : Char} (member : c ∈ text)
    : Text.isBlank c = false := by
  cases h with
  | whole digit nonempty same => exact isBlank_of_isDigit (digit c member)
  | point digit digit' nonempty same =>
      rcases List.mem_append.mp member with member | member
      · exact isBlank_of_isDigit (digit c member)
      · rcases List.mem_cons.mp member with rfl | member
        · decide
        · exact isBlank_of_isDigit (digit' c member)

end Positional

-----------------------------------------------------------------------------------------
-- Literals
-----------------------------------------------------------------------------------------

theorem toLower_of_isDigit {c : Char} (h : c.isDigit = true) : c.toLower = c := by
  simp only [Char.isDigit, Bool.and_eq_true, decide_eq_true_eq] at h
  have low : ¬ (c.val ≥ 'A'.val ∧ c.val ≤ 'Z'.val) := by
    rintro ⟨above, below⟩
    exact absurd (UInt32.le_trans above h.2) (by decide)
  rw [Char.toLower, dif_neg low]

/-- A literal that opens with a digit is a number. -/
theorem unsignedLiteral?_of_digit {first : Char} {rest : List Char} (h : first.isDigit = true)
    : unsignedLiteral? (first :: rest)
      = (decimal? (first :: rest)).map fun (coefficient, exponent) =>
          nearestDecimalBits coefficient exponent := by
  -- lower case keeps digits, and no word opens with one
  have apart {word : String} (letter : (word.toList.head?.any Char.isDigit) = false)
      : (String.ofList ((first :: rest).map Char.toLower) == word) = false := by
    rw [beq_eq_false_iff_ne]
    rintro rfl
    simp [toLower_of_isDigit h, h] at letter
  simp only [unsignedLiteral?, apart (by decide : ("inf".toList.head?.any Char.isDigit) = false),
    apart (by decide : ("infinity".toList.head?.any Char.isDigit) = false),
    apart (by decide : ("nan".toList.head?.any Char.isDigit) = false), Bool.or_self,
    Bool.false_eq_true, if_false]

theorem splitSign_of_ne {first : Char} {rest : List Char} (minus : first ≠ '-')
    (plus : first ≠ '+')
    : splitSign (first :: rest) = (false, first :: rest) := by
  rw [splitSign]
  · simp [minus]
  · simp [plus]

/-- A sign before an unsigned literal is the sign of the double. -/
theorem literal_of_unsigned {first : Char} {rest : List Char} {bits : Nat} (negative : Bool)
    (minus : first ≠ '-') (plus : first ≠ '+')
    (h : unsignedLiteral? (first :: rest) = some bits)
    : literal (if negative then '-' :: first :: rest else first :: rest)
      = .ok (ofMagnitude negative bits) := by
  cases negative with
  | true => simp [literal, splitSign, h]
  | false => simp [literal, splitSign_of_ne minus plus, h]

/-- A sign before an unsigned literal that opens with a digit is the sign of the double. -/
theorem literal_of_digit {first : Char} {rest : List Char} {bits : Nat} (negative : Bool)
    (opening : first.isDigit = true) (h : unsignedLiteral? (first :: rest) = some bits)
    : literal (if negative then '-' :: first :: rest else first :: rest)
      = .ok (ofMagnitude negative bits) := by
  refine literal_of_unsigned negative ?_ ?_ h
  all_goals
    rintro rfl
    cases opening

theorem positional_positive (decimal : Digits)
    : Positional decimal.value (Layout.plain.positive decimal) := by
  let text : List Char := Nat.toDigits 10 decimal.coefficient
  have digit : ∀ c ∈ text, c.isDigit = true := fun _ =>
    Nat.isDigit_of_mem_toDigits (by decide) (by decide)
  have everywhere : Layout.plain.positional ((text.length : Int) - 1 + decimal.exponent) = true :=
    rfl
  have exponent : (text.length : Int) - 1 + decimal.exponent + 1 - text.length
      = decimal.exponent := by
    omega
  have placed := positional_pointAt digit Nat.toDigits_ne_nil
    ((text.length : Int) - 1 + decimal.exponent + 1)
  rw [exponent, Nat.ofDigitChars_ten_toDigits] at placed
  rw [Layout.positive, everywhere, if_pos rfl]
  exact placed

/-- A positional text of a decimal opens with a digit and is a literal of the magnitude nearest to
the decimal.
-/
theorem Positional.unsignedLiteral? {decimal : Digits} {text : List Char}
    (h : Positional decimal.value text)
    : ∃ first rest, text = first :: rest
        ∧ first.isDigit = true
        ∧ Decimal.unsignedLiteral? (first :: rest)
          = some (nearestDecimalBits decimal.coefficient decimal.exponent) := by
  obtain ⟨first, rest, rfl, opening⟩ := h.opens
  obtain ⟨read, found, same⟩ := h.exists_decimal?
  refine ⟨first, rest, rfl, opening, ?_⟩
  rw [unsignedLiteral?_of_digit opening, found]
  exact congrArg some (nearestDecimalBits_congr same)

/-- The text of a finite magnitude opens with a digit and is a literal of the magnitude. -/
theorem unsignedLiteral?_finite {bits : Nat} (finite : bits < infinityBits)
    : ∃ first rest,
        (if bits = 0 then '0' :: Layout.plain.wholeEnding.toList
          else Layout.plain.positive (shortest Layout.plain.tie bits)) = first :: rest
        ∧ first.isDigit = true
        ∧ unsignedLiteral? (first :: rest) = some bits := by
  split
  next zero => exact ⟨'0', [], rfl, by decide, zero ▸ rfl⟩
  next nonzero =>
    obtain ⟨first, rest, text, opening, read⟩ :=
      (positional_positive (shortest Layout.plain.tie bits)).unsignedLiteral?
    rw [nearest_shortest Layout.plain.tie (Nat.pos_of_ne_zero nonzero) finite] at read
    exact ⟨first, rest, text, opening, read⟩

/-- The plain text of a double is a literal of the double. -/
theorem literal_plain_text (x : Float) : literal (Layout.plain.text x).toList = .ok x := by
  have signed := ofMagnitude_magnitudeBits x
  rw [Layout.text]
  dsimp only
  split
  next undefined =>
    rw [eq_of_undefined undefined]
    rfl
  next defined =>
    split
    next infinite =>
      have read := literal_of_unsigned (isNegative x) (by decide) (by decide)
        (rfl : unsignedLiteral? ['i', 'n', 'f'] = some infinityBits)
      rw [← infinite, signed] at read
      rw [← read]
      cases isNegative x <;> rfl
    next limited =>
      have finite : magnitudeBits x < infinityBits := by omega
      obtain ⟨first, rest, text, opening, read⟩ := unsignedLiteral?_finite finite
      rw [String.toList_ofList, text, literal_of_digit (isNegative x) opening read, signed]

theorem isBlank_of_mem_finite {bits : Nat} {c : Char}
    (h : c ∈ (if bits = 0 then '0' :: Layout.plain.wholeEnding.toList
      else Layout.plain.positive (shortest Layout.plain.tie bits)))
    : Text.isBlank c = false := by
  split at h
  next zero =>
    obtain rfl := List.mem_singleton.mp h
    decide
  next nonzero => exact (positional_positive (shortest Layout.plain.tie bits)).isBlank_of_mem h

/-- The plain text of a double has no blanks. -/
theorem isBlank_of_mem_plain_text {x : Float} {c : Char}
    (h : c ∈ (Layout.plain.text x).toList)
    : Text.isBlank c = false := by
  have letters {text : String} (none : text.toList.all (!Text.isBlank ·) = true)
      (member : c ∈ text.toList)
      : Text.isBlank c = false := by
    simpa using List.all_eq_true.mp none c member
  rw [Layout.text] at h
  dsimp only at h
  split at h
  next undefined => exact letters (by decide) h
  next defined =>
    split at h
    next infinite =>
      refine letters ?_ h
      cases isNegative x <;> decide
    next finite =>
      rw [String.toList_ofList] at h
      split at h
      next negative =>
        rcases List.mem_cons.mp h with rfl | h
        · decide
        · exact isBlank_of_mem_finite h
      next positive => exact isBlank_of_mem_finite h

end JoinLatency.Decimal

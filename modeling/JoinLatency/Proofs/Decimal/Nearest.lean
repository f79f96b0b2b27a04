import JoinLatency.Decimal.Shortest
import Mathlib.Data.Int.Log
import Mathlib.Data.Rat.Floor
import Mathlib.Tactic.FieldSimp
import Mathlib.Tactic.Linarith
import Mathlib.Tactic.NormNum
import Mathlib.Tactic.Ring

/-! Nearest magnitudes. The magnitude nearest to a decimal depends on the value of the decimal
alone, and the one nearest to the exact value of a magnitude is the magnitude.
-/

namespace JoinLatency.Decimal

-----------------------------------------------------------------------------------------
-- Leading places
-----------------------------------------------------------------------------------------

theorem log_eq_of_bracket {base : Nat} {value : ℚ} {place : Int} (hb : 1 < base)
    (positive : 0 < value) (least : (base : ℚ) ^ place ≤ value)
    (most : value < (base : ℚ) ^ (place + 1))
    : Int.log base value = place := by
  have lower := (Int.zpow_le_iff_le_log hb positive).mp least
  have upper := (Int.lt_zpow_iff_log_lt hb positive).mp most
  omega

/-- The leading place of a natural times a power of the base. -/
theorem log_mul_zpow {base n place : Nat} (hb : 1 < base) (least : base ^ place ≤ n)
    (most : n < base ^ (place + 1)) (exponent : Int)
    : Int.log base ((n : ℚ) * base ^ exponent) = place + exponent := by
  have positive : (0 : ℚ) < base := Nat.cast_pos.mpr (by omega)
  have shift : (0 : ℚ) < base ^ exponent := zpow_pos positive exponent
  have some : 0 < n := Nat.lt_of_lt_of_le (Nat.pow_pos (by omega)) least
  have power (k : Nat)
      : (base : ℚ) ^ ((k : Int) + exponent) = (base ^ k : Nat) * base ^ exponent := by
    rw [zpow_add₀ positive.ne', zpow_natCast, Nat.cast_pow]
  refine log_eq_of_bracket hb (mul_pos (Nat.cast_pos.mpr some) shift) ?_ ?_
  · rw [power]
    exact mul_le_mul_of_nonneg_right (Nat.cast_le.mpr least) shift.le
  · rw [Int.add_right_comm, ← Nat.cast_succ, power]
    exact mul_lt_mul_of_pos_right (Nat.cast_lt.mpr most) shift

theorem zpow_eq_div {base : Nat} (some : base ≠ 0) (exponent : Int)
    : (base : ℚ) ^ exponent = (base : ℚ) ^ exponent.toNat / (base : ℚ) ^ (-exponent).toNat := by
  have nonzero : (base : ℚ) ≠ 0 := Nat.cast_ne_zero.mpr some
  rw [← zpow_natCast, ← zpow_natCast, ← zpow_sub₀ nonzero, Int.toNat_sub_toNat_neg]

/-- The leading binary place of a quotient. The places of its terms leave two choices, between
which the comparison decides.
-/
theorem binaryExponent_eq_log {num den : Nat} (hn : 0 < num) (hd : 0 < den)
    : binaryExponent num den = Int.log 2 ((num : ℚ) / den) := by
  have positive : (0 : ℚ) < num / den := div_pos (Nat.cast_pos.mpr hn) (Nat.cast_pos.mpr hd)
  have base : ((2 : Nat) : ℚ) ≠ 0 := by norm_num
  have nonneg (e : Int) : (0 : ℚ) ≤ ((2 : Nat) : ℚ) ^ e := zpow_nonneg (Nat.cast_nonneg 2) e
  let guess : Int := num.log2 - den.log2
  have below : (num : ℚ) / den < ((2 : Nat) : ℚ) ^ (guess + 1) := by
    have least : ((2 ^ den.log2 : Nat) : ℚ) ≤ den :=
      Nat.cast_le.mpr (Nat.log2_self_le (Nat.ne_of_gt hd))
    rw [div_lt_iff₀ (Nat.cast_pos.mpr hd)]
    calc (num : ℚ) < ((2 ^ (num.log2 + 1) : Nat) : ℚ) := Nat.cast_lt.mpr Nat.lt_log2_self
      _ = ((2 : Nat) : ℚ) ^ (guess + 1) * ((2 ^ den.log2 : Nat) : ℚ) := by
        rw [Nat.cast_pow, Nat.cast_pow, ← zpow_natCast, ← zpow_natCast, ← zpow_add₀ base]
        congr 1
        omega
      _ ≤ ((2 : Nat) : ℚ) ^ (guess + 1) * den := mul_le_mul_of_nonneg_left least (nonneg _)
  have above : ((2 : Nat) : ℚ) ^ (guess - 1) ≤ (num : ℚ) / den := by
    have most : (den : ℚ) ≤ ((2 ^ (den.log2 + 1) : Nat) : ℚ) :=
      Nat.cast_le.mpr (Nat.le_of_lt Nat.lt_log2_self)
    rw [le_div_iff₀ (Nat.cast_pos.mpr hd)]
    calc ((2 : Nat) : ℚ) ^ (guess - 1) * den
        ≤ ((2 : Nat) : ℚ) ^ (guess - 1) * ((2 ^ (den.log2 + 1) : Nat) : ℚ) :=
          mul_le_mul_of_nonneg_left most (nonneg _)
      _ = ((2 ^ num.log2 : Nat) : ℚ) := by
        rw [Nat.cast_pow, Nat.cast_pow, ← zpow_natCast, ← zpow_natCast, ← zpow_add₀ base]
        congr 1
        omega
      _ ≤ num := Nat.cast_le.mpr (Nat.log2_self_le (Nat.ne_of_gt hn))
  have test : den * Nat.pow 2 guess.toNat ≤ num * Nat.pow 2 (-guess).toNat
      ↔ ((2 : Nat) : ℚ) ^ guess ≤ (num : ℚ) / den := by
    rw [zpow_eq_div (by decide), div_le_div_iff₀ (by positivity) (Nat.cast_pos.mpr hd),
      mul_comm, ← Nat.cast_pow, ← Nat.cast_pow, ← Nat.cast_mul, ← Nat.cast_mul, Nat.cast_le]
    rfl
  rw [binaryExponent]
  split
  next reached =>
    exact (log_eq_of_bracket (by decide) positive (test.mp reached) below).symm
  next missed =>
    refine (log_eq_of_bracket (by decide) positive above ?_).symm
    rw [sub_add_cancel]
    exact not_le.mp (mt test.mpr missed)

/-- The leading decimal place of a decimal. -/
theorem digitCount_add {coefficient : Nat} (h : 0 < coefficient) (exponent : Int)
    : (digitCount coefficient : Int) + exponent
      = Int.log 10 ((coefficient : ℚ) * 10 ^ exponent) + 1 := by
  obtain ⟨place, count⟩ := Nat.exists_eq_succ_of_ne_zero
    (Nat.ne_of_gt (Nat.length_toDigits_pos (b := 10) (n := coefficient)))
  have least : 10 ^ place ≤ coefficient := by
    rcases Nat.eq_zero_or_pos place with rfl | some
    · exact h
    · rw [← Nat.not_lt, ← Nat.length_toDigits_le_iff (by decide) some]
      omega
  have most : coefficient < 10 ^ (place + 1) :=
    (Nat.length_toDigits_le_iff (by decide) (Nat.succ_pos place)).mp (Nat.le_of_eq count)
  have leading := log_mul_zpow (by decide) least most exponent
  push_cast at leading
  rw [leading, digitCount, if_neg (Nat.ne_of_gt h), count, Nat.cast_succ]
  omega

-----------------------------------------------------------------------------------------
-- Quotients of the same value
-----------------------------------------------------------------------------------------

/-- Rounding a quotient in higher terms gives the same natural. -/
theorem roundDiv_mul_mul (tie : Tie) (num den : Nat) {factor : Nat} (h : 0 < factor)
    : roundDiv tie (num * factor) (den * factor) = roundDiv tie num den := by
  have twice : 2 * (num % den * factor) = 2 * (num % den) * factor := by ring
  simp only [roundDiv, Nat.mul_div_mul_right _ _ h, Nat.mul_mod_mul_right, twice,
    Nat.mul_lt_mul_right h]

/-- The magnitude nearest to a quotient in higher terms is the same. -/
theorem nearestBits_mul_mul (num : Nat) {den factor : Nat} (hd : 0 < den) (hf : 0 < factor)
    : nearestBits (num * factor) (den * factor) = nearestBits num den := by
  rcases Nat.eq_zero_or_pos num with rfl | hn
  · simp [nearestBits]
  · have same : ((num * factor : Nat) : ℚ) / (den * factor : Nat) = num / den := by
      push_cast
      exact mul_div_mul_right _ _ (Nat.cast_ne_zero.mpr (Nat.ne_of_gt hf))
    have place : binaryExponent (num * factor) (den * factor) = binaryExponent num den := by
      rw [binaryExponent_eq_log (Nat.mul_pos hn hf) (Nat.mul_pos hd hf),
        binaryExponent_eq_log hn hd, same]
    have some : num * factor ≠ 0 := Nat.ne_of_gt (Nat.mul_pos hn hf)
    simp only [nearestBits, some, Nat.ne_of_gt hn, if_false, place,
      Nat.mul_right_comm _ factor, roundDiv_mul_mul _ _ _ hf]

theorem nearestBits_congr {num den num' den' : Nat} (hd : 0 < den) (hd' : 0 < den')
    (same : (num : ℚ) / den = num' / den')
    : nearestBits num den = nearestBits num' den' := by
  rw [div_eq_div_iff (Nat.cast_ne_zero.mpr (Nat.ne_of_gt hd))
    (Nat.cast_ne_zero.mpr (Nat.ne_of_gt hd'))] at same
  have crossed : num * den' = num' * den := by exact_mod_cast same
  rw [← nearestBits_mul_mul num hd hd', crossed, Nat.mul_comm den,
    nearestBits_mul_mul num' hd' hd]

theorem scaled_pos {base n : Nat} (hb : 0 < base) (exponent : Int)
    : 0 < (scaled base n exponent).2 :=
  Nat.pow_pos hb

theorem scaled_value {base : Nat} (some : base ≠ 0) (n : Nat) (exponent : Int)
    : ((scaled base n exponent).1 : ℚ) / (scaled base n exponent).2 = n * base ^ exponent := by
  rw [scaled, zpow_eq_div some, mul_div_assoc']
  push_cast [Nat.pow_eq]
  rfl

/-- Decimals of the same value have the same nearest magnitude. -/
theorem nearestDecimalBits_congr {coefficient coefficient' : Nat} {exponent exponent' : Int}
    (same : (coefficient : ℚ) * 10 ^ exponent = coefficient' * 10 ^ exponent')
    : nearestDecimalBits coefficient exponent = nearestDecimalBits coefficient' exponent' := by
  have power (e : Int) : (10 : ℚ) ^ e ≠ 0 := zpow_ne_zero e (by norm_num)
  rcases Nat.eq_zero_or_pos coefficient with rfl | positive
  · have zero : coefficient' = 0 := by simpa [power] using same
    simp [nearestDecimalBits, zero]
  · have some' : coefficient' ≠ 0 := by
      rintro rfl
      simp [power, Nat.ne_of_gt positive] at same
    have ratio : ((scaled 10 coefficient exponent).1 : ℚ) / (scaled 10 coefficient exponent).2
        = (scaled 10 coefficient' exponent').1 / (scaled 10 coefficient' exponent').2 := by
      rw [scaled_value (by decide), scaled_value (by decide)]
      exact_mod_cast same
    simp only [nearestDecimalBits, Nat.ne_of_gt positive, some', if_false,
      digitCount_add positive, digitCount_add (Nat.pos_of_ne_zero some'), same,
      nearestBits_congr (scaled_pos (by decide) _) (scaled_pos (by decide) _) ratio]

-----------------------------------------------------------------------------------------
-- Values of magnitudes
-----------------------------------------------------------------------------------------

/-- A finite magnitude consists of a mantissa and an exponent. The mantissa fills its bits unless
the exponent is the least one.
-/
structure Splits (bits mantissa : Nat) (exponent : Int) : Prop where
  fits : mantissa < 2 ^ 53
  least : -1074 ≤ exponent
  most : exponent ≤ 971
  full : exponent = -1074 ∨ 2 ^ 52 ≤ mantissa
  joined : (exponent + 1074).toNat * 2 ^ 52 + mantissa = bits

theorem splits_mantissaExponent {bits : Nat} (finite : bits < infinityBits)
    : Splits bits (mantissaExponent bits).1 (mantissaExponent bits).2 := by
  have fields := Nat.div_add_mod bits (2 ^ 52)
  have rest := Nat.mod_lt bits (Nat.two_pow_pos 52)
  have bound : bits < 0x7ff0000000000000 := finite
  rw [mantissaExponent]
  simp only [Nat.pow_eq]
  split
  next subnormal => constructor <;> dsimp only <;> omega
  next normal => constructor <;> dsimp only <;> omega

/-- The nearest magnitude of a mantissa and an exponent has just these. -/
theorem Splits.nearestBits {bits mantissa : Nat} {exponent : Int}
    (h : Splits bits mantissa exponent) (finite : bits < infinityBits)
    : Decimal.nearestBits (scaled 2 mantissa exponent).1 (scaled 2 mantissa exponent).2 = bits := by
  obtain ⟨fits, least, most, full, joined⟩ := h
  rcases Nat.eq_zero_or_pos mantissa with rfl | positive
  · have zero : bits = 0 := by omega
    simp [scaled, Decimal.nearestBits, zero]
  · have within : mantissa.log2 < 53 := (Nat.log2_lt (Nat.ne_of_gt positive)).mpr fits
    have filled : exponent = -1074 ∨ mantissa.log2 = 52 := full.imp_right fun above => by
      have reached : 52 ≤ mantissa.log2 := (Nat.le_log2 (Nat.ne_of_gt positive)).mpr above
      omega
    have num_pos : 0 < (scaled 2 mantissa exponent).1 :=
      Nat.mul_pos positive (Nat.pow_pos (by decide))
    have den_pos : 0 < (scaled 2 mantissa exponent).2 := scaled_pos (by decide) exponent
    have place : binaryExponent (scaled 2 mantissa exponent).1 (scaled 2 mantissa exponent).2
        = mantissa.log2 + exponent := by
      rw [binaryExponent_eq_log num_pos den_pos, scaled_value (by decide)]
      exact log_mul_zpow (by decide) (Nat.log2_self_le (Nat.ne_of_gt positive))
        Nat.lt_log2_self exponent
    have target : max (mantissa.log2 + exponent - 52) (-1074) = exponent := by omega
    have terms : (scaled 2 mantissa exponent).1 * Nat.pow 2 (-exponent).toNat
        = mantissa * ((scaled 2 mantissa exponent).2 * Nat.pow 2 exponent.toNat) := by
      simp only [scaled]
      ring
    have rounded : roundDiv .toEven
        (mantissa * ((scaled 2 mantissa exponent).2 * Nat.pow 2 exponent.toNat))
        ((scaled 2 mantissa exponent).2 * Nat.pow 2 exponent.toNat) = mantissa :=
      roundDiv_mul _ _ (Nat.mul_pos den_pos (Nat.two_pow_pos exponent.toNat))
    rw [Decimal.nearestBits, if_neg (Nat.ne_of_gt num_pos)]
    simp only [place, target, terms, rounded]
    rw [Nat.pow_eq, joined, Nat.min_eq_left (Nat.le_of_lt finite)]

/-- The leading decimal place of a magnitude is far from the limits of decimals. -/
theorem Splits.log_bounds {bits mantissa : Nat} {exponent : Int}
    (h : Splits bits mantissa exponent) (positive : 0 < mantissa)
    : -400 ≤ Int.log 10 ((mantissa : ℚ) * 2 ^ exponent)
      ∧ Int.log 10 ((mantissa : ℚ) * 2 ^ exponent) < 399 := by
  obtain ⟨fits, least, most, full, joined⟩ := h
  have power (e : Int) : (0 : ℚ) < 2 ^ e := zpow_pos (by norm_num) e
  have one : (1 : ℚ) ≤ mantissa := Nat.one_le_cast.mpr positive
  have above : (0 : ℚ) < mantissa * 2 ^ exponent := mul_pos (by linarith) (power exponent)
  -- three binary places are less than a decimal one
  have places (n : Nat) : (2 : ℚ) ^ (3 * n) ≤ 10 ^ n := by
    rw [pow_mul]
    exact pow_le_pow_left₀ (by norm_num) (by norm_num) n
  have lower (n : Nat) (h : -(3 * n : Int) ≤ exponent)
      : ((10 : Nat) : ℚ) ^ (-(n : Int)) ≤ mantissa * 2 ^ exponent := by
    calc ((10 : Nat) : ℚ) ^ (-(n : Int)) = (10 ^ n)⁻¹ := zpow_neg _ n
      _ ≤ (2 ^ (3 * n))⁻¹ := inv_anti₀ (pow_pos (by norm_num) _) (places n)
      _ = 2 ^ (-(3 * n : Int)) := by rw [zpow_neg]; exact_mod_cast rfl
      _ ≤ 2 ^ exponent := zpow_le_zpow_right₀ (by norm_num) h
      _ ≤ mantissa * 2 ^ exponent := le_mul_of_one_le_left (power exponent).le one
  have upper (n : Nat) (h : 53 + exponent ≤ 3 * n)
      : mantissa * 2 ^ exponent < ((10 : Nat) : ℚ) ^ (n : Int) := by
    calc (mantissa : ℚ) * 2 ^ exponent < ((2 ^ 53 : Nat) : ℚ) * 2 ^ exponent :=
          mul_lt_mul_of_pos_right (Nat.cast_lt.mpr fits) (power exponent)
      _ = 2 ^ (53 + exponent) := by rw [zpow_add₀ (by norm_num), Nat.cast_pow]; rfl
      _ ≤ 2 ^ (3 * n : Int) := zpow_le_zpow_right₀ (by norm_num) h
      _ ≤ ((10 : Nat) : ℚ) ^ (n : Int) := by exact_mod_cast places n
  have low := (Int.zpow_le_iff_le_log (by decide) above).mp (lower 400 (by omega))
  have high := (Int.lt_zpow_iff_log_lt (by decide) above).mp (upper 399 (by omega))
  exact ⟨low, high⟩

/-- The exact decimal of a magnitude has its value. -/
theorem exactDigits_value (bits : Nat)
    : ((exactDigits bits).coefficient : ℚ) * 10 ^ (exactDigits bits).exponent
      = (mantissaExponent bits).1 * 2 ^ (mantissaExponent bits).2 := by
  simp only [exactDigits]
  generalize (mantissaExponent bits).1 = mantissa
  generalize (mantissaExponent bits).2 = exponent
  have lower : min exponent 0 = -(((-exponent).toNat : Nat) : Int) := by omega
  have split : ((2 : Nat) : ℚ) ^ exponent = 2 ^ exponent.toNat / 2 ^ (-exponent).toNat :=
    zpow_eq_div (by decide) exponent
  have ten : (10 : ℚ) ^ (-exponent).toNat = 2 ^ (-exponent).toNat * 5 ^ (-exponent).toNat := by
    rw [← mul_pow]
    norm_num
  push_cast at split
  rw [lower, zpow_neg, zpow_natCast, ten, split]
  push_cast [Nat.pow_eq]
  field_simp

/-- The exact decimal of a magnitude reads back as the magnitude. -/
theorem nearestDecimalBits_exactDigits {bits : Nat} (positive : 0 < bits)
    (finite : bits < infinityBits)
    : nearestDecimalBits (exactDigits bits).coefficient (exactDigits bits).exponent = bits := by
  have split := splits_mantissaExponent finite
  have some : 0 < (mantissaExponent bits).1 := by
    obtain ⟨fits, least, most, full, joined⟩ := split
    omega
  have value := exactDigits_value bits
  have nonzero : (exactDigits bits).coefficient ≠ 0 := by
    intro zero
    have vanishes : ((mantissaExponent bits).1 : ℚ) * 2 ^ (mantissaExponent bits).2 = 0 := by
      rw [← value, zero, Nat.cast_zero, zero_mul]
    have power : (2 : ℚ) ^ (mantissaExponent bits).2 ≠ 0 := zpow_ne_zero _ (by norm_num)
    exact Nat.ne_of_gt some (Nat.cast_eq_zero.mp ((mul_eq_zero_iff_right power).mp vanishes))
  have leading := digitCount_add (Nat.pos_of_ne_zero nonzero) (exactDigits bits).exponent
  rw [value] at leading
  have bounds := split.log_bounds some
  have ratio : ((scaled 10 (exactDigits bits).coefficient (exactDigits bits).exponent).1 : ℚ)
        / (scaled 10 (exactDigits bits).coefficient (exactDigits bits).exponent).2
      = (scaled 2 (mantissaExponent bits).1 (mantissaExponent bits).2).1
        / (scaled 2 (mantissaExponent bits).1 (mantissaExponent bits).2).2 := by
    rw [scaled_value (by decide), scaled_value (by decide)]
    exact_mod_cast value
  rw [nearestDecimalBits, if_neg nonzero]
  simp only [leading]
  rw [if_neg (by omega), if_neg (by omega),
    nearestBits_congr (scaled_pos (by decide) _) (scaled_pos (by decide) _) ratio,
    split.nearestBits finite]

end JoinLatency.Decimal

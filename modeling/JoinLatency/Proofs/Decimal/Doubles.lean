import JoinLatency.Decimal.Binary64
import Mathlib

/-! Doubles and their bits. A double is determined by its sign and its magnitude, there is one
undefined double, and negative zero and one are neutral in sums and quotients.
-/

namespace JoinLatency.Decimal

open Float.Model Float.Model.UnpackedFloat

-----------------------------------------------------------------------------------------
-- Doubles
-----------------------------------------------------------------------------------------

/-- A double is what its bits stand for. -/
theorem pack_toModel (x : Float) : Float.ofModel (Float.Model.pack x.toModel.unpack) = x :=
  Float.ofBits_toBits x

/-- A double is determined by its sign and its magnitude. -/
theorem ofMagnitude_magnitudeBits (x : Float)
    : ofMagnitude (isNegative x) (magnitudeBits x) = x := by
  have bits : (if isNegative x then Nat.pow 2 63 else 0) + magnitudeBits x = x.toBits.toNat := by
    have bound := x.toBits.toNat_lt
    rw [isNegative, magnitudeBits, Nat.pow_eq]
    by_cases negative : 2 ^ 63 ≤ x.toBits.toNat
    · simp only [negative, decide_true, if_true]
      omega
    · simp only [negative, decide_false]
      simp
      omega
  rw [ofMagnitude, bits, UInt64.ofNat_toNat, Float.ofBits_toBits]

theorem toNat_unpackExponent (word : BitVec Format.binary64.numBits)
    : (unpackExponent word).toNat = word.toNat / 2 ^ 52 % 2 ^ 11 := by
  change word.toNat >>> 52 % 2 ^ 11 = _
  rw [Nat.shiftRight_eq_div_pow]

theorem toNat_unpackMantissa (word : BitVec Format.binary64.numBits)
    : (unpackMantissa word).toNat = word.toNat % 2 ^ 52 := by
  change word.toNat >>> 0 % 2 ^ 52 = _
  rw [Nat.shiftRight_zero]

/-- All undefined doubles are the same. -/
theorem eq_of_undefined {x : Float} (h : infinityBits < magnitudeBits x)
    : x = ofMagnitude false (infinityBits + Nat.pow 2 51) := by
  have bits : x.toBits = 0x7ff8000000000000 := by
    obtain ⟨⟨bits, valid⟩⟩ := x
    let word : BitVec Format.binary64.numBits := bits.toBitVec
    change 0x7ff0000000000000 < word.toNat % 2 ^ 63 at h
    have exponent : unpackExponent word = -1#_ := by
      refine BitVec.eq_of_toNat_eq ?_
      rw [toNat_unpackExponent]
      change _ = 2047
      omega
    -- without a mantissa the magnitude would be that of infinity
    have mantissa : unpackMantissa word ≠ 0#_ := by
      intro zero
      have none : word.toNat % 2 ^ 52 = 0 := by
        rw [← toNat_unpackMantissa, zero]
        rfl
      omega
    exact UInt64.eq_of_toBitVec_eq (valid.eq_packedNaN exponent mantissa)
  rw [← Float.ofBits_toBits x, bits]
  rfl

/-- Adding to negative zero changes nothing. -/
theorem negativeZero_add (x : Float) : ofMagnitude true 0 + x = x := by
  have zero : (ofMagnitude true 0).toModel.unpack = .zero .negative := rfl
  have sum : UnpackedFloat.add Format.binary64 (.zero .negative) x.toModel.unpack
      = x.toModel.unpack := by
    cases x.toModel.unpack with
    | zero sign => cases sign <;> rfl
    | notANumber => rfl
    | infinity sign => rfl
    | finite sign mantissa exponent positive => rfl
  calc ofMagnitude true 0 + x
      = Float.ofModel (Float.Model.pack
          (UnpackedFloat.add Format.binary64 (ofMagnitude true 0).toModel.unpack
            x.toModel.unpack)) := rfl
    _ = x := by rw [zero, sum, pack_toModel]

-----------------------------------------------------------------------------------------
-- Rounding
-----------------------------------------------------------------------------------------

/-- A mantissa and an exponent that rounding leaves as they are. The mantissa fills its bits
unless the exponent is the least one.
-/
structure Normalized (mantissa : Nat) (exponent : Int) : Prop where
  positive : 0 < mantissa
  fits : mantissa < 2 ^ 53
  least : -1074 ≤ exponent
  full : exponent = -1074 ∨ 2 ^ 52 ≤ mantissa

/-- The finite doubles are normalized. -/
theorem normalized_of_unpack {word : BitVec Format.binary64.numBits} {sign : Sign}
    {mantissa : Nat} {exponent : Int} {positive : 0 < mantissa}
    (h : UnpackedFloat.unpack Format.binary64 word = .finite sign mantissa exponent positive)
    : Normalized mantissa exponent := by
  have small : (unpackMantissa word).toNat < 2 ^ 52 := (unpackMantissa word).isLt
  have bias : (Format.binary64.exponentBias : Int)
      + Format.binary64.mantissaBitsWithoutImplicit = 1075 := rfl
  have hidden : (1#1 ++ unpackMantissa word).toNat = 2 ^ 52 + (unpackMantissa word).toNat := by
    rw [BitVec.toNat_append, ← Nat.shiftLeft_add_eq_or_of_lt (unpackMantissa word).isLt]
    rfl
  rw [UnpackedFloat.unpack] at h
  split at h
  next full => split at h <;> cases h
  next notFull =>
    split at h
    next none =>
      split at h
      next empty => cases h
      next nonzero =>
        obtain ⟨rfl, rfl, rfl⟩ := UnpackedFloat.finite.inj h
        have zero : (unpackExponent word).toNat = 0 := by rw [none]; rfl
        exact ⟨positive, by omega, by omega, .inl (by omega)⟩
    next some =>
      obtain ⟨rfl, rfl, rfl⟩ := UnpackedFloat.finite.inj h
      have above : 1 ≤ (unpackExponent word).toNat :=
        Nat.pos_of_ne_zero fun zero => some (BitVec.eq_of_toNat_eq zero)
      exact ⟨positive, by omega, by omega, .inr (by omega)⟩

theorem Normalized.log2 {mantissa : Nat} {exponent : Int} (h : Normalized mantissa exponent)
    : mantissa.log2 ≤ 52 ∧ (exponent = -1074 ∨ mantissa.log2 = 52) := by
  have below : mantissa.log2 < 53 := (Nat.log2_lt (Nat.ne_of_gt h.positive)).mpr h.fits
  refine ⟨by omega, h.full.imp_right fun full => ?_⟩
  have above : 52 ≤ mantissa.log2 := (Nat.le_log2 (Nat.ne_of_gt h.positive)).mpr full
  omega

theorem targetExponent_eq (total : Int)
    : Format.binary64.targetExponent total = max (total - 53) (-1074) := rfl

theorem log2_mul_pow {n : Nat} (h : 0 < n) (places : Nat)
    : (n * 2 ^ places).log2 = n.log2 + places := by
  induction places with
  | zero => rw [Nat.pow_zero, Nat.mul_one, Nat.add_zero]
  | succ places ih =>
      have some : n * 2 ^ places ≠ 0 :=
        Nat.mul_ne_zero (Nat.ne_of_gt h) (Nat.ne_of_gt (Nat.two_pow_pos places))
      rw [Nat.pow_succ', Nat.mul_left_comm, Nat.log2_two_mul some, ih, Nat.add_assoc]

/-- Shifting an exact mantissa back by the places that it was shifted leaves nothing behind, by
induction on the places.
-/
theorem shiftRight_exact (mantissa places : Nat)
    : (⟨mantissa * 2 ^ places, false, false⟩ : ExtendedMantissa) >>> places
      = ⟨mantissa, false, false⟩ := by
  induction places generalizing mantissa with
  | zero => simp [HShiftRight.hShiftRight, Nat.repeat]
  | succ places ih =>
      have inner := ih (mantissa * 2)
      rw [Nat.mul_assoc, ← Nat.pow_succ'] at inner
      change ExtendedMantissa.shiftRightOne
        ((⟨mantissa * 2 ^ (places + 1), false, false⟩ : ExtendedMantissa) >>> places) = _
      rw [inner]
      simp [ExtendedMantissa.shiftRightOne]

/-- Rounding a normalized mantissa that was shifted to the left shifts it back. -/
theorem Normalized.roundWithAccuracy {mantissa : Nat} {exponent : Int}
    (h : Normalized mantissa exponent) (sign : Sign) (places : Nat)
    : UnpackedFloat.roundWithAccuracy Format.binary64 sign (mantissa * 2 ^ places)
        (exponent - places) .exact
      = .finite sign mantissa exponent h.positive := by
  have shift (places : Nat)
      : shiftToTargetExponent Format.binary64 (mantissa * 2 ^ places) (exponent - places) .exact
        = (⟨mantissa, false, false⟩, exponent) := by
    have target : Format.binary64.targetExponent
        (totalExponent (mantissa * 2 ^ places) (exponent - places)) = exponent := by
      have bits := h.log2
      have least := h.least
      rw [targetExponent_eq, totalExponent, log2_mul_pow h.positive]
      omega
    have back : (exponent - (exponent - places)).toNat = places := by omega
    rw [shiftToTargetExponent, target, shiftToExponent, back]
    simp [ExtendedMantissa.ofMantissaAndAccuracy, shiftRight_exact]
  have again := shift 0
  simp only [Nat.pow_zero, Nat.mul_one, Int.natCast_zero, Int.sub_zero] at again
  rw [UnpackedFloat.roundWithAccuracy, shift]
  simp [ExtendedMantissa.roundedMantissa, ExtendedMantissa.accuracy,
    Accuracy.roundToNearestEven, again, Nat.ne_of_gt h.positive]

/-- The quotient of a normalized mantissa by one is exact. -/
theorem Normalized.divCore {mantissa : Nat} {exponent : Int} (h : Normalized mantissa exponent)
    : ∃ places : Nat,
        UnpackedFloat.divCore Format.binary64 mantissa exponent (2 ^ 52) (-52)
        = (mantissa * 2 ^ places, exponent - places, .exact) := by
  obtain ⟨places, least⟩ : ∃ places : Nat,
      min (exponent - -52) (Format.binary64.targetExponent
        (totalExponent mantissa exponent - totalExponent (2 ^ 52) (-52)))
      = exponent - places := by
    have unit : totalExponent (2 ^ 52) (-52) = 1 := rfl
    have bits := h.log2
    have least := h.least
    rw [unit, targetExponent_eq, totalExponent]
    exact ⟨(exponent - max (mantissa.log2 + exponent - 53) (-1074)).toNat, by omega⟩
  have shift : (exponent - -52 - (exponent - places)).toNat = places + 52 := by omega
  have whole : mantissa * 2 ^ (places + 52) = mantissa * 2 ^ places * 2 ^ 52 := by
    rw [Nat.pow_add, Nat.mul_assoc]
  refine ⟨places, ?_⟩
  simp only [UnpackedFloat.divCore, least, shift, Nat.shiftLeft_eq, whole,
    Nat.mul_div_cancel _ (Nat.two_pow_pos 52), Nat.mul_mod_left, accuracyOfFraction, if_true]

/-- Dividing by one changes nothing. -/
theorem div_one (x : Float) : x / Float.ofBits 0x3ff0000000000000 = x := by
  have one : (Float.ofBits 0x3ff0000000000000).toModel.unpack
      = .finite .positive (2 ^ 52) (-52) (by decide) := rfl
  have quotient : UnpackedFloat.div Format.binary64 x.toModel.unpack
        (.finite .positive (2 ^ 52) (-52) (by decide))
      = x.toModel.unpack := by
    cases value : x.toModel.unpack with
    | zero sign => cases sign <;> rfl
    | notANumber => rfl
    | infinity sign => cases sign <;> rfl
    | finite sign mantissa exponent positive =>
        have normalized := normalized_of_unpack value
        obtain ⟨places, core⟩ := normalized.divCore
        have kept : sign / Sign.positive = sign := by cases sign <;> rfl
        rw [UnpackedFloat.div, core, kept]
        exact normalized.roundWithAccuracy sign places
  calc x / Float.ofBits 0x3ff0000000000000
      = Float.ofModel (Float.Model.pack
          (UnpackedFloat.div Format.binary64 x.toModel.unpack
            (Float.ofBits 0x3ff0000000000000).toModel.unpack)) := rfl
    _ = x := by rw [one, quotient, pack_toModel]

end JoinLatency.Decimal

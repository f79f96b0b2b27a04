import JoinLatency.Decimal.Rounding

/-! Double-precision numbers as sign and magnitude bits. A finite magnitude is a natural times a
power of two, and every positive quotient has a nearest magnitude, with ties to the even
mantissa and an overflow to infinity.
-/

namespace JoinLatency.Decimal

/-- The magnitude bits of infinity; larger ones belong to NaN. -/
def infinityBits : Nat := 0x7ff0000000000000

/-- The 63 bits of a number without its sign. -/
def magnitudeBits (x : Float) : Nat :=
  x.toBits.toNat % Nat.pow 2 63

/-- Whether the sign bit is set. -/
def isNegative (x : Float) : Bool :=
  Nat.pow 2 63 ≤ x.toBits.toNat

/-- The number with a sign and magnitude bits. -/
def ofMagnitude (negative : Bool) (bits : Nat) : Float :=
  Float.ofBits (UInt64.ofNat ((if negative then Nat.pow 2 63 else 0) + bits))

/-- The mantissa and the exponent of two of a finite magnitude. The hidden bit is set unless
the exponent field is zero.
-/
def mantissaExponent (bits : Nat) : Nat × Int :=
  let field : Nat := bits / Nat.pow 2 52
  let fraction : Nat := bits % Nat.pow 2 52
  if field = 0 then (fraction, -1074) else (fraction + Nat.pow 2 52, (field : Int) - 1075)

/-- A natural times a power of `base`, as a numerator and a denominator. -/
def scaled (base : Nat) (n : Nat) (exponent : Int) : Nat × Nat :=
  (n * Nat.pow base exponent.toNat, Nat.pow base (-exponent).toNat)

/-- The value of a finite magnitude as a quotient of naturals. -/
def magnitudeRatio (bits : Nat) : Nat × Nat :=
  let (mantissa, exponent) := mantissaExponent bits
  scaled 2 mantissa exponent

/-- The exponent `b` with `2 ^ b ≤ num / den < 2 ^ (b + 1)`, for positive terms. -/
def binaryExponent (num den : Nat) : Int :=
  let guess := (num.log2 : Int) - den.log2
  if den * Nat.pow 2 guess.toNat ≤ num * Nat.pow 2 (-guess).toNat then guess else guess - 1

/-- The magnitude bits nearest to `num / den`, for a positive denominator. The mantissa has 53
bits unless the quotient is below the normal range; a mantissa rounded up to the next power of
two carries into the exponent field.
-/
def nearestBits (num den : Nat) : Nat :=
  if num = 0 then 0
  else
    let exponent := max (binaryExponent num den - 52) (-1074)
    let mantissa :=
      roundDiv .toEven (num * Nat.pow 2 (-exponent).toNat) (den * Nat.pow 2 exponent.toNat)
    min ((exponent + 1074).toNat * Nat.pow 2 52 + mantissa) infinityBits

/-- The number of decimal digits of a natural; zero has none. -/
def digitCount (n : Nat) : Nat :=
  if n = 0 then 0 else (Nat.toDigits 10 n).length

/-- The magnitude bits nearest to `coefficient * 10 ^ exponent`. Exponents beyond the range of
the format are decided without computing the power.
-/
def nearestDecimalBits (coefficient : Nat) (exponent : Int) : Nat :=
  if coefficient = 0 then 0
  else
    let leading := (digitCount coefficient : Int) + exponent
    if 400 < leading then infinityBits
    else if leading < -400 then 0
    else
      let (num, den) := scaled 10 coefficient exponent
      nearestBits num den

end JoinLatency.Decimal

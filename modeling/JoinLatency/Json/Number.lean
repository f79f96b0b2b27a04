import JoinLatency.Decimal.Layout
import JoinLatency.Decimal.Literal
import JoinLatency.Json.Basic

/-! Numbers of data texts. Counts are integer literals below 2^64. Doubles are read from the
leading digits that fit into 64 bits and one power of ten, in double arithmetic.
-/

namespace JoinLatency.Json

open JoinLatency.Decimal

/-- The least natural that is too large for a 64-bit count. -/
def countLimit : Nat := 18446744073709551616

/-- A count is an unsigned integer literal below the limit. -/
def natural? : Json → Option Nat
  | .number literal =>
      if literal.all Char.isDigit then
        let n := Nat.ofDigitChars 10 literal 0
        if n < countLimit then some n else none
      else none
  | _ => none

/-- A significand of at most 64 bits and the power of ten that scales it. -/
structure Scaled where
  significand : Nat := 0
  exponent : Int := 0
  full : Bool := false

/-- One more digit before the point. Once a digit does not fit, it and the later ones only
scale.
-/
def Scaled.pushWhole (scaled : Scaled) (c : Char) : Scaled :=
  let next := 10 * scaled.significand + (c.toNat - '0'.toNat)
  if scaled.full || countLimit ≤ next then
    { scaled with exponent := scaled.exponent + 1, full := true }
  else { scaled with significand := next }

/-- One more digit behind the point. Once a digit does not fit, it and the later ones are
dropped.
-/
def Scaled.pushFraction (scaled : Scaled) (c : Char) : Scaled :=
  let next := 10 * scaled.significand + (c.toNat - '0'.toNat)
  if scaled.full || countLimit ≤ next then { scaled with full := true }
  else { scaled with significand := next, exponent := scaled.exponent - 1 }

/-- The double nearest to a natural. -/
def doubleOfNat (n : Nat) : Float :=
  ofMagnitude false (nearestBits n 1)

/-- The largest power of ten that is a double. -/
def largestPower : Nat := 308

/-- The double nearest to a power of ten. -/
def doublePower (exponent : Nat) : Float :=
  ofMagnitude false (nearestDecimalBits 1 exponent)

/-- A double scaled by a power of ten. A power beyond the largest double is out of range, unless
the number is zero; a negative one is applied in steps until nothing is left.
-/
def scaleByPower (x : Float) (exponent : Int) : Option Float :=
  if exponent.natAbs ≤ largestPower then
    if 0 ≤ exponent then
      let product := x * doublePower exponent.natAbs
      if product.isInf then none else some product
    else some (x / doublePower exponent.natAbs)
  else if x == 0 then some x
  else if 0 ≤ exponent then none
  else scaleByPower (x / doublePower largestPower) (exponent + largestPower)
termination_by exponent.natAbs
decreasing_by simp only [largestPower] at *; omega

/-- The least natural that is too large for a written exponent. -/
def exponentLimit : Nat := 2147483648

/-- A written exponent adds to the scale, within the range of 32 bits. -/
def addExponent (scale : Int) (negative : Bool) (n : Nat) : Int :=
  max (-(exponentLimit : Int))
    (min ((exponentLimit : Int) - 1) (if negative then scale - n else scale + n))

/-- The double of an unsigned literal. An exponent that is itself out of range makes a number
zero or out of range.
-/
def unsignedDouble? (literal : List Char) : Option Float :=
  let whole := literal.takeWhile Char.isDigit
  let afterWhole := literal.dropWhile Char.isDigit
  let (fraction, tail) :=
    match afterWhole with
    | '.' :: rest => (rest.takeWhile Char.isDigit, rest.dropWhile Char.isDigit)
    | rest => ([], rest)
  let ofWhole := whole.foldl Scaled.pushWhole {}
  let scaled := fraction.foldl Scaled.pushFraction { ofWhole with full := false }
  match tail with
  | [] => scaleByPower (doubleOfNat scaled.significand) scaled.exponent
  | _ :: written =>
      let (negative, digits) := splitSign written
      let n := Nat.ofDigitChars 10 digits 0
      if n < exponentLimit then
        scaleByPower (doubleOfNat scaled.significand) (addExponent scaled.exponent negative n)
      else if scaled.significand != 0 && !negative then none
      else some 0

/-- The double that a number stands for. A minus sign turns zero into negative zero. -/
def float? : Json → Option Float
  | .number ('-' :: literal) => (unsignedDouble? literal).map (-·)
  | .number literal => unsignedDouble? literal
  | _ => none

/-- A double as a data value; infinite and undefined ones are null. -/
def ofFloat (x : Float) : Json :=
  if magnitudeBits x < infinityBits then .number (Layout.data.text x).toList else .null

end JoinLatency.Json

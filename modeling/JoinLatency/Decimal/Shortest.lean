import JoinLatency.Decimal.Binary64

/-! Shortest decimals of a positive finite magnitude: the fewest digits that read back as the
magnitude, and of those the nearest to its value. The search walks the grids of one to seventeen
leading digits and tests the two neighbours of the value on each.
-/

namespace JoinLatency.Decimal

/-- A positive decimal `coefficient * 10 ^ exponent`. -/
structure Digits where
  coefficient : Nat
  exponent : Int
  deriving DecidableEq, Repr

/-- The coefficient without trailing zeros, which move into the exponent. -/
def Digits.normal (digits : Digits) : Digits :=
  let kept := (Nat.toDigits 10 digits.coefficient).reverse.dropWhile (· == '0')
  let dropped := (Nat.toDigits 10 digits.coefficient).length - kept.length
  { coefficient := Nat.ofDigitChars 10 kept.reverse 0, exponent := digits.exponent + dropped }

/-- The exponent `e` with `10 ^ e ≤ num / den < 10 ^ (e + 1)`, for positive terms. -/
def decimalExponent (num den : Nat) : Int :=
  if den ≤ num then (digitCount (num / den) : Int) - 1
  else -(digitCount ((den - 1) / num) : Int)

/-- The decimals next to `num / den` on the grid of `10 ^ exponent`, below and above. The
comparison says whether the value is nearer to the lower one, halfway, or nearer to the upper.
-/
def gridNeighbours (num den : Nat) (exponent : Int) : Nat × Nat × Ordering :=
  let top := num * Nat.pow 10 (-exponent).toNat
  let unit := den * Nat.pow 10 exponent.toNat
  (top / unit, top / unit + 1, compare (2 * (top % unit)) unit)

/-- The nearer of the two neighbours on one grid that read back as `bits`, if one does. -/
def shortestOnGrid (tie : Tie) (bits : Nat) (exponent : Int) : Option Digits :=
  let (num, den) := magnitudeRatio bits
  let (below, above, side) := gridNeighbours num den exponent
  let upper := side == .gt || (side == .eq && tie.goesUp below)
  let candidates := if upper then [above, below] else [below, above]
  (candidates.find? fun n => nearestDecimalBits n exponent == bits).map (⟨·, exponent⟩)

/-- The exact decimal of a finite magnitude, with as many digits as it takes. -/
def exactDigits (bits : Nat) : Digits :=
  let (mantissa, exponent) := mantissaExponent bits
  { coefficient := mantissa * Nat.pow 2 exponent.toNat * Nat.pow 5 (-exponent).toNat
    exponent := min exponent 0 }

/-- The shortest decimal of a positive finite magnitude; the exact one would close a search
without a hit.
-/
def shortest (tie : Tie) (bits : Nat) : Digits :=
  let (num, den) := magnitudeRatio bits
  let leading := decimalExponent num den
  let hit := (List.range 17).findSome? fun (n : Nat) => shortestOnGrid tie bits (leading - n)
  (hit.getD (exactDigits bits)).normal

end JoinLatency.Decimal

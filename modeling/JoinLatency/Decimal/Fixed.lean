import JoinLatency.Decimal.Binary64

/-! Texts of doubles with a fixed number of decimal places. The exact value is rounded, a half
goes to the even neighbour, and a negative number keeps its sign when it rounds to zero.
-/

namespace JoinLatency.Decimal

/-- A natural count of units of `10 ^ -places`, written with that many places. -/
def placed (places : Nat) (units : Nat) : List Char :=
  let fraction := Nat.toDigits 10 (units % Nat.pow 10 places)
  let whole := Nat.toDigits 10 (units / Nat.pow 10 places)
  if places = 0 then whole
  else whole ++ '.' :: (List.replicate (places - fraction.length) '0' ++ fraction)

/-- The text of a double with a fixed number of places. -/
def fixed (places : Nat) (x : Float) : String :=
  let bits := magnitudeBits x
  let sign := if isNegative x then ['-'] else []
  if infinityBits < bits then "NaN"
  else if bits = infinityBits then String.ofList (sign ++ ['i', 'n', 'f'])
  else
    let (num, den) := magnitudeRatio bits
    String.ofList (sign ++ placed places (roundDiv .toEven (num * Nat.pow 10 places) den))

end JoinLatency.Decimal

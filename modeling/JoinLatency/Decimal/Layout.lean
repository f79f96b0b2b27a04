import JoinLatency.Decimal.Shortest

/-! Texts of doubles by their shortest decimals. A layout fixes which exponents are written
positionally, how whole numbers end and what stands for the values that are no numbers.
-/

namespace JoinLatency.Decimal

/-- The choices that a number format makes about shortest decimals. The exponent range bounds
the power of ten of the leading digit; outside of it the text is in exponent notation.
-/
structure Layout where
  tie : Tie
  positional : Int → Bool
  wholeEnding : String
  infinite : Bool → String
  undefined : String

/-- Plain texts are always positional and whole numbers have no point. -/
def Layout.plain : Layout where
  tie := .up
  positional := fun _ => true
  wholeEnding := ""
  infinite := fun negative => if negative then "-inf" else "inf"
  undefined := "NaN"

/-- Data texts are positional for the exponents from -5 to 15, whole numbers end in `.0`, and
there are no infinite or undefined numbers.
-/
def Layout.data : Layout where
  tie := .toEven
  positional := fun exponent => -5 ≤ exponent && exponent ≤ 15
  wholeEnding := ".0"
  infinite := fun _ => "null"
  undefined := "null"

/-- Digits with the point after the first `places` of them; a point at or before the first digit
follows a zero, and places without a digit hold zeros.
-/
def pointAt (digits : List Char) (places : Int) (wholeEnding : String) : List Char :=
  if places ≤ 0 then '0' :: '.' :: (List.replicate (-places).toNat '0' ++ digits)
  else if digits.length ≤ places.toNat then
    digits ++ List.replicate (places.toNat - digits.length) '0' ++ wholeEnding.toList
  else digits.take places.toNat ++ '.' :: digits.drop places.toNat

/-- Digits in exponent notation: one digit before the point, a sign for every exponent. -/
def withExponent (digits : List Char) (exponent : Int) : List Char :=
  let mantissa :=
    match digits with
    | [] => []
    | [digit] => [digit]
    | digit :: rest => digit :: '.' :: rest
  let sign := if exponent < 0 then '-' else '+'
  mantissa ++ 'e' :: sign :: Nat.toDigits 10 exponent.natAbs

/-- A positive decimal in a layout. -/
def Layout.positive (layout : Layout) (digits : Digits) : List Char :=
  let text := Nat.toDigits 10 digits.coefficient
  let exponent := (text.length : Int) - 1 + digits.exponent
  if layout.positional exponent then pointAt text (exponent + 1) layout.wholeEnding
  else withExponent text exponent

/-- The text of a double in a layout. Zero keeps its sign. -/
def Layout.text (layout : Layout) (x : Float) : String :=
  let bits := magnitudeBits x
  let negative := isNegative x
  if infinityBits < bits then layout.undefined
  else if bits = infinityBits then layout.infinite negative
  else
    let digits :=
      if bits = 0 then '0' :: layout.wholeEnding.toList
      else layout.positive (shortest layout.tie bits)
    String.ofList (if negative then '-' :: digits else digits)

end JoinLatency.Decimal

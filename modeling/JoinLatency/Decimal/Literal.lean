import JoinLatency.Decimal.Binary64

/-! Decimal literals and the doubles nearest to them. A literal is an optional sign before
`inf`, `infinity` or `nan` in any case, or before digits with an optional point and exponent.
-/

namespace JoinLatency.Decimal

/-- Why a text is no decimal literal. -/
inductive LiteralFault
  | empty
  | malformed
  deriving DecidableEq, Repr

/-- The wording of a literal fault. -/
def LiteralFault.message : LiteralFault → String
  | .empty => "cannot parse float from empty string"
  | .malformed => "invalid float literal"

/-- A sign before a literal, and what follows it. -/
def splitSign : List Char → Bool × List Char
  | '-' :: rest => (true, rest)
  | '+' :: rest => (false, rest)
  | text => (false, text)

/-- An exponent part: nothing, or a letter `e` before an optional sign and digits. -/
def exponentPart? : List Char → Option Int
  | [] => some 0
  | e :: rest =>
    let (negative, digits) := splitSign rest
    if (e == 'e' || e == 'E') && !digits.isEmpty && digits.all Char.isDigit then
      let n := Nat.ofDigitChars 10 digits 0
      some (if negative then -(n : Int) else n)
    else none

/-- Digits around an optional point and an optional exponent, as a coefficient and a power of
ten. At least one digit stands beside the point.
-/
def decimal? (text : List Char) : Option (Nat × Int) :=
  let whole := text.takeWhile Char.isDigit
  let afterWhole := text.dropWhile Char.isDigit
  let (fraction, tail) :=
    match afterWhole with
    | '.' :: rest => (rest.takeWhile Char.isDigit, rest.dropWhile Char.isDigit)
    | rest => ([], rest)
  if whole.isEmpty && fraction.isEmpty then none
  else
    (exponentPart? tail).map fun exponent =>
      (Nat.ofDigitChars 10 (whole ++ fraction) 0, exponent - fraction.length)

/-- The magnitude bits of an unsigned literal. -/
def unsignedLiteral? (text : List Char) : Option Nat :=
  let lower := String.ofList (text.map Char.toLower)
  if lower == "inf" || lower == "infinity" then some infinityBits
  else if lower == "nan" then some (infinityBits + Nat.pow 2 51)
  else (decimal? text).map fun (coefficient, exponent) => nearestDecimalBits coefficient exponent

/-- The double nearest to a literal. -/
def literal (text : List Char) : Except LiteralFault Float :=
  if text.isEmpty then .error .empty
  else
    let (negative, rest) := splitSign text
    match unsignedLiteral? rest with
    | some bits => .ok (ofMagnitude negative bits)
    | none => .error .malformed

end JoinLatency.Decimal

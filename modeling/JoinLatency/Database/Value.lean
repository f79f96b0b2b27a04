import JoinLatency.Database.Fault

/-! Values of columns. Integers have 64 bits and become reals when a sum, a difference or a
product leaves their range; null is the result of every operation on null.
-/

namespace JoinLatency.Database

/-- A value of a column. -/
inductive Value
  | null
  | integer (n : Int)
  | real (x : Float)
  | text (content : String)
  deriving Repr, Inhabited

/-- The operations of arithmetic. -/
inductive Arithmetic
  | sum
  | difference
  | product
  | quotient
  | remainder
  deriving DecidableEq, Repr

/-- The ways to compare two values. -/
inductive Comparison
  | equal
  | unequal
  | less
  | lessOrEqual
  | greater
  | greaterOrEqual
  deriving DecidableEq, Repr

/-- The least integer. -/
def leastInteger : Int := -9223372036854775808

/-- The greatest integer. -/
def greatestInteger : Int := 9223372036854775807

/-- Whether a comparison holds for an order. -/
def Comparison.holds (order : Ordering) : Comparison → Bool
  | .equal => order == .eq
  | .unequal => order != .eq
  | .less => order == .lt
  | .lessOrEqual => order != .gt
  | .greater => order == .gt
  | .greaterOrEqual => order != .lt

namespace Value

/-- A real, or null for no number. -/
def ofFloat (x : Float) : Value :=
  if x.isNaN then .null else .real x

/-- An integer that is in range, or the real nearest to it. -/
def ofInt (n : Int) : Value :=
  if leastInteger ≤ n && n ≤ greatestInteger then .integer n else ofFloat (Float.ofInt n)

/-- Truth values are one and zero. -/
def ofBool (b : Bool) : Value :=
  .integer (if b then 1 else 0)

/-- The whole number at the start of a text, or zero. -/
def wholeStart (text : List Char) : Int :=
  match text with
  | '-' :: rest => -(Nat.ofDigitChars 10 (rest.takeWhile Char.isDigit) 0 : Int)
  | _ => Nat.ofDigitChars 10 (text.takeWhile Char.isDigit) 0

/-- A value as an integer, if it counts as one; a text counts as the number at its start. -/
def integer? : Value → Option Int
  | .integer n => some n
  | .text content => some (wholeStart content.toList)
  | _ => none

/-- A value as a real. -/
def toFloat : Value → Float
  | .null => 0
  | .integer n => Float.ofInt n
  | .real x => x
  | .text content => Float.ofInt (wholeStart content.toList)

/-- Whether a value counts as true; null is neither true nor false. -/
def truth? : Value → Option Bool
  | .null => none
  | .real x => some (x != 0)
  | value => value.integer?.map (· != 0)

/-- The value of a truth value that may be unknown. -/
def ofTruth : Option Bool → Value
  | none => .null
  | some b => ofBool b

/-- Integer arithmetic. Quotients are cut off toward zero, and nothing is divided by zero. -/
def integers (m n : Int) : Arithmetic → Value
  | .sum => ofInt (m + n)
  | .difference => ofInt (m - n)
  | .product => ofInt (m * n)
  | .quotient => if n == 0 then .null else ofInt (Int.tdiv m n)
  | .remainder => if n == 0 then .null else ofInt (Int.tmod m n)

/-- Real arithmetic. A remainder is one of the whole parts. -/
def reals (x y : Float) : Arithmetic → Value
  | .sum => ofFloat (x + y)
  | .difference => ofFloat (x - y)
  | .product => ofFloat (x * y)
  | .quotient => if y == 0 then .null else ofFloat (x / y)
  | .remainder =>
      let divisor := y.toInt64.toInt
      if divisor == 0 then .null else .real (Float.ofInt (Int.tmod x.toInt64.toInt divisor))

/-- The result of an operation on two values. -/
def arithmetic (operation : Arithmetic) : Value → Value → Value
  | .null, _ | _, .null => .null
  | a, b =>
      match a.integer?, b.integer? with
      | some m, some n => integers m n operation
      | _, _ => reals a.toFloat b.toFloat operation

/-- The order of two reals. -/
def orderReals (x y : Float) : Ordering :=
  if x < y then .lt else if y < x then .gt else .eq

/-- The order of two values, which null has none of. Numbers come before texts. -/
def order? : Value → Value → Option Ordering
  | .null, _ | _, .null => none
  | .text a, .text b => some (compare a b)
  | .text _, _ => some .gt
  | _, .text _ => some .lt
  | .integer m, .integer n => some (compare m n)
  | a, b => some (orderReals a.toFloat b.toFloat)

/-- The result of a comparison. -/
def comparison (test : Comparison) (a b : Value) : Value :=
  ofTruth ((order? a b).map fun order => test.holds order)

/-- The absolute value. The least integer has none. -/
def absolute : Value → Except Fault Value
  | .null => .ok .null
  | .integer n => if n == leastInteger then .error .integerOverflow else .ok (.integer n.natAbs)
  | value => .ok (.real value.toFloat.abs)

end Value

end JoinLatency.Database

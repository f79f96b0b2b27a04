/-! Tokens of a data text. The lexer takes one character at a time and is in one of six modes;
only a number ends at the character after it.
-/

namespace JoinLatency.Json

/-- The parts that a data text consists of. -/
inductive Token
  | openArray
  | closeArray
  | openObject
  | closeObject
  | comma
  | colon
  | null
  | bool (value : Bool)
  | number (literal : List Char)
  | string (text : Option String)
  deriving DecidableEq, Repr

/-! ## Numbers -/

/-- A non-empty run of digits and nothing after it. -/
def isDigits (text : List Char) : Bool :=
  !text.isEmpty && text.all Char.isDigit

/-- What may follow the letter of an exponent: an optional sign and digits. -/
def isExponent : List Char → Bool
  | '+' :: digits => isDigits digits
  | '-' :: digits => isDigits digits
  | digits => isDigits digits

/-- What may follow the digits of a number: nothing or an exponent. -/
def isTail : List Char → Bool
  | [] => true
  | c :: rest => (c == 'e' || c == 'E') && isExponent rest

/-- What may follow the digits before the point: a point with digits, or an exponent. -/
def isFractionTail : List Char → Bool
  | '.' :: rest => !(rest.takeWhile Char.isDigit).isEmpty && isTail (rest.dropWhile Char.isDigit)
  | rest => isTail rest

/-- A number without a sign. Its first digit is zero only if it is the whole part. -/
def isUnsignedNumber : List Char → Bool
  | '0' :: rest => isFractionTail rest
  | c :: rest => c.isDigit && isFractionTail (rest.dropWhile Char.isDigit)
  | [] => false

/-- A number is an unsigned number behind at most one minus sign. -/
def isNumber : List Char → Bool
  | '-' :: rest => isUnsignedNumber rest
  | text => isUnsignedNumber text

/-- The characters that go on with a number. -/
def isNumberChar (c : Char) : Bool :=
  c.isDigit || c == '-' || c == '+' || c == '.' || c == 'e' || c == 'E'

/-! ## Strings -/

/-- The part of a string that has been read, in reverse, and an escaped high surrogate that
still awaits its low one. A surrogate without its partner leaves the string without a text.
-/
structure Partial where
  chars : Option (List Char) := some []
  high : Option Nat := none

namespace Partial

/-- The next character stands for itself. -/
def push (text : Partial) (c : Char) : Partial :=
  match text.high with
  | none => { chars := text.chars.map (c :: ·) }
  | some _ => { chars := none }

/-- The next escape names a 16-bit unit. -/
def pushUnit (text : Partial) (unit : Nat) : Partial :=
  match text.high with
  | none =>
      if 0xd800 ≤ unit && unit < 0xdc00 then { text with high := some unit }
      else if 0xdc00 ≤ unit && unit < 0xe000 then { chars := none }
      else text.push (Char.ofNat unit)
  | some high =>
      if 0xdc00 ≤ unit && unit < 0xe000 then
        let c := Char.ofNat (0x10000 + (high - 0xd800) * 0x400 + (unit - 0xdc00))
        { chars := text.chars.map (c :: ·) }
      else { chars := none }

/-- The string once its closing quote is read. -/
def close (text : Partial) : Option String :=
  match text.high with
  | none => text.chars.map fun chars => String.ofList chars.reverse
  | some _ => none

end Partial

/-- The character that a backslash and a letter stand for. -/
def unescape : Char → Option Char
  | '"' => some '"'
  | '\\' => some '\\'
  | '/' => some '/'
  | 'b' => some '\x08'
  | 'f' => some '\x0c'
  | 'n' => some '\n'
  | 'r' => some '\r'
  | 't' => some '\t'
  | _ => none

/-- The value of a hexadecimal digit in either case. -/
def hexDigit (c : Char) : Option Nat :=
  if c.isDigit then some (c.toNat - '0'.toNat)
  else if 'a' ≤ c && c ≤ 'f' then some (c.toNat - 'a'.toNat + 10)
  else if 'A' ≤ c && c ≤ 'F' then some (c.toNat - 'A'.toNat + 10)
  else none

/-! ## The lexer -/

/-- Where the lexer is: between tokens, inside a word with the letters still to come, inside a
number, inside a string, after a backslash, or in a unit escape with the digits still to come.
-/
inductive Mode
  | between
  | word (left : List Char) (token : Token)
  | number (text : List Char)
  | string (text : Partial)
  | escape (text : Partial)
  | unit (text : Partial) (left value : Nat)

namespace Mode

/-- A character between two tokens. -/
def start (c : Char) : Option (List Token × Mode) :=
  match c with
  | ' ' | '\n' | '\t' | '\r' => some ([], .between)
  | '[' => some ([.openArray], .between)
  | ']' => some ([.closeArray], .between)
  | '\x7b' => some ([.openObject], .between)
  | '\x7d' => some ([.closeObject], .between)
  | ',' => some ([.comma], .between)
  | ':' => some ([.colon], .between)
  | 'n' => some ([], .word ['u', 'l', 'l'] .null)
  | 't' => some ([], .word ['r', 'u', 'e'] (.bool true))
  | 'f' => some ([], .word ['a', 'l', 's', 'e'] (.bool false))
  | '"' => some ([], .string {})
  | c => if c.isDigit || c == '-' then some ([], .number [c]) else none

/-- The number that ends here, if it is one. -/
def endNumber (text : List Char) : Option Token :=
  if isNumber text.reverse then some (.number text.reverse) else none

/-- The tokens that one more character completes, and the mode after it. -/
def step (mode : Mode) (c : Char) : Option (List Token × Mode) :=
  match mode with
  | .between => start c
  | .word [] _ => none
  | .word [last] token => if c == last then some ([token], .between) else none
  | .word (next :: left) token => if c == next then some ([], .word left token) else none
  | .number text =>
      if isNumberChar c then some ([], .number (c :: text))
      else do
        let token ← endNumber text
        let (tokens, mode) ← start c
        return (token :: tokens, mode)
  | .string text =>
      if c == '"' then some ([.string text.close], .between)
      else if c == '\\' then some ([], .escape text)
      else if c.toNat < 0x20 then none
      else some ([], .string (text.push c))
  | .escape text =>
      if c == 'u' then some ([], .unit text 4 0)
      else (unescape c).map fun named => ([], .string (text.push named))
  | .unit text left value =>
      (hexDigit c).map fun digit =>
        let value := 16 * value + digit
        ([], if left ≤ 1 then .string (text.pushUnit value) else .unit text (left - 1) value)

/-- The tokens that the end of the text completes. -/
def finish : Mode → Option (List Token)
  | .between => some []
  | .number text => (endNumber text).map ([·])
  | _ => none

end Mode

/-- The tokens of a text read from a mode on. -/
def tokensFrom : Mode → List Char → Option (List Token)
  | mode, [] => mode.finish
  | mode, c :: rest =>
      match mode.step c with
      | none => none
      | some (tokens, next) => (tokensFrom next rest).map (tokens ++ ·)

/-- The tokens of a text. -/
def tokens (text : List Char) : Option (List Token) :=
  tokensFrom .between text

end JoinLatency.Json

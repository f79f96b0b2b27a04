import JoinLatency.Text.Unprintable

/-! Quoted form of a text inside a message: double quotes around it, backslash escapes for the
quote, the backslash and four control characters, and `\u` escapes for unprintable characters.
-/

namespace JoinLatency.Text

/-- A code point escape writes the number in lower-case hexadecimal between braces. -/
def codePointEscape (c : Char) : List Char :=
  '\\' :: 'u' :: '\x7b' :: (Nat.toDigits 16 c.toNat ++ ['\x7d'])

/-- One character in quoted form. An apostrophe stands for itself. -/
def quoteChar : Char → List Char
  | '\x00' => ['\\', '0']
  | '\t' => ['\\', 't']
  | '\n' => ['\\', 'n']
  | '\r' => ['\\', 'r']
  | '"' => ['\\', '"']
  | '\\' => ['\\', '\\']
  | c => if isUnprintable c then codePointEscape c else [c]

/-- A quoted text is its characters in quoted form between double quotes. -/
def quoted (text : String) : String :=
  String.ofList ('"' :: (text.toList.flatMap quoteChar ++ ['"']))

end JoinLatency.Text

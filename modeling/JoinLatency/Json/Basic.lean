/-! Data texts as trees. Numbers keep their literal, members keep their order and repetitions,
and one writer covers the compact and the indented style.
-/

namespace JoinLatency

/-- A data value. A string without a text is one whose escapes name no character. -/
inductive Json
  | null
  | bool (value : Bool)
  | number (literal : List Char)
  | string (text : Option String)
  | array (items : List Json)
  | object (members : List (Option String × Json))
  deriving Inhabited

namespace Json

/-- A string value. -/
def ofString (text : String) : Json :=
  .string (some text)

/-- A natural number value. -/
def ofNat (n : Nat) : Json :=
  .number (Nat.toDigits 10 n)

/-- An absent value is null. -/
def ofOption {α : Type} (encode : α → Json) : Option α → Json
  | none => .null
  | some value => encode value

/-- A list of values. -/
def ofList {α : Type} (encode : α → Json) (values : List α) : Json :=
  .array (values.map encode)

/-- A record with named members. -/
def record (members : List (String × Json)) : Json :=
  .object (members.map fun (name, value) => (some name, value))

/-! ## Writing -/

/-- How a text breaks lines at a depth, and what stands between a name and its value. -/
structure Style where
  lineBreak : Nat → List Char
  colon : List Char

/-- Everything on one line. -/
def Style.compact : Style where
  lineBreak := fun _ => []
  colon := [':']

/-- One item a line, indented by two spaces a level. -/
def Style.indented : Style where
  lineBreak := fun depth => '\n' :: List.replicate (2 * depth) ' '
  colon := [':', ' ']

/-- The last four hexadecimal digits of a control character. -/
def controlDigits (n : Nat) : List Char :=
  ['0', '0', Nat.digitChar (n / 16), Nat.digitChar (n % 16)]

/-- One character inside a string: quotes, backslashes and control characters are escaped. -/
def escapeChar : Char → List Char
  | '"' => ['\\', '"']
  | '\\' => ['\\', '\\']
  | '\x08' => ['\\', 'b']
  | '\x0c' => ['\\', 'f']
  | '\n' => ['\\', 'n']
  | '\r' => ['\\', 'r']
  | '\t' => ['\\', 't']
  | c => if c.toNat < 0x20 then '\\' :: 'u' :: controlDigits c.toNat else [c]

/-- A string between quotes; one that names no character is written as a lone surrogate. -/
def writeString : Option String → List Char
  | some text => '"' :: (text.toList.flatMap escapeChar ++ ['"'])
  | none => ['"', '\\', 'u', 'd', '8', '0', '0', '"']

mutual

/-- The text of a value at a depth. Empty lists and records have nothing between brackets. -/
def write (style : Style) (depth : Nat) : Json → List Char
  | .null => ['n', 'u', 'l', 'l']
  | .bool true => ['t', 'r', 'u', 'e']
  | .bool false => ['f', 'a', 'l', 's', 'e']
  | .number literal => literal
  | .string text => writeString text
  | .array [] => ['[', ']']
  | .array (item :: rest) =>
      '[' :: (style.lineBreak (depth + 1) ++ write style (depth + 1) item
        ++ writeItems style (depth + 1) rest ++ style.lineBreak depth ++ [']'])
  | .object [] => ['\x7b', '\x7d']
  | .object ((name, value) :: rest) =>
      '\x7b' :: (style.lineBreak (depth + 1) ++ writeString name ++ style.colon
        ++ write style (depth + 1) value ++ writeMembers style (depth + 1) rest
        ++ style.lineBreak depth ++ ['\x7d'])

/-- The items after the first, each behind a comma. -/
def writeItems (style : Style) (depth : Nat) : List Json → List Char
  | [] => []
  | item :: rest =>
      ',' :: (style.lineBreak depth ++ write style depth item ++ writeItems style depth rest)

/-- The members after the first, each behind a comma. -/
def writeMembers (style : Style) (depth : Nat) : List (Option String × Json) → List Char
  | [] => []
  | (name, value) :: rest =>
      ',' :: (style.lineBreak depth ++ writeString name ++ style.colon
        ++ write style depth value ++ writeMembers style depth rest)

end

/-- The text of a value on one line. -/
def compact (value : Json) : String :=
  String.ofList (value.write .compact 0)

/-- The text of a value with one item a line. -/
def indented (value : Json) : String :=
  String.ofList (value.write .indented 0)

end Json

end JoinLatency

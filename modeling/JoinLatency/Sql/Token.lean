import JoinLatency.Text.Alphabetic
import JoinLatency.Text.Blank

/-! Tokens of a query text. Words are compared in upper case, quoted names and literals only by
their kind. Blanks and comments separate tokens, and comments nest.
-/

namespace JoinLatency.Sql

/-- The parts of a query text: a plain word, a quoted name, a number, a string in plain quotes,
any other literal, or an operator or mark.
-/
inductive Token
  | word (upper : String)
  | name
  | number
  | text
  | literal
  | symbol (text : String)
  deriving DecidableEq, Repr, Inhabited

/-! ## Classes of characters -/

/-- A word starts with a letter of any script or an underscore. -/
def isWordStart (c : Char) : Bool :=
  Text.isAlphabetic c || c == '_'

/-- A word goes on with letters, digits, underscores and dollar signs. -/
def isWordRest (c : Char) : Bool :=
  isWordStart c || c.isDigit || c == '$'

/-- The characters that longer operators consist of. -/
def isOperatorChar (c : Char) : Bool :=
  ['+', '-', '*', '/', '<', '>', '=', '~', '!', '@', '#', '%', '^', '&', '|', '\x60', '?'].contains c

/-- The operators that a text may start with and that end after one character. -/
def isLoneOperator (c : Char) : Bool :=
  ['+', '*', '/', '^', '\x60'].contains c

/-! ## Quotes, comments and numbers -/

/-- What follows a quoted text, in which the quote is written twice; none if it does not end.
With escapes, a backslash takes the character after it along.
-/
def afterQuoted (quote : Char) (escapes : Bool) : List Char → Option (List Char)
  | [] => none
  | [c] => if c == quote then some [] else none
  | c :: d :: rest =>
      if c == quote then
        if d == quote then afterQuoted quote escapes rest else some (d :: rest)
      else if escapes && c == '\\' then afterQuoted quote escapes rest
      else afterQuoted quote escapes (d :: rest)

/-- What follows a comment, at a depth of nested comments; none if it does not end. -/
def afterComment : Nat → List Char → Option (List Char)
  | _, [] => none
  | _, [_] => none
  | depth, '*' :: '/' :: rest => if depth ≤ 1 then some rest else afterComment (depth - 1) rest
  | depth, '/' :: '*' :: rest => afterComment (depth + 1) rest
  | depth, _ :: d :: rest => afterComment depth (d :: rest)

/-- What follows the next occurrence of a mark. -/
def afterMark (mark : List Char) : List Char → Option (List Char)
  | [] => none
  | c :: rest =>
      if mark.isPrefixOf (c :: rest) then some ((c :: rest).drop mark.length)
      else afterMark mark rest

/-- What follows the exponent of a number, if it has one. -/
def afterExponent (text : List Char) : List Char :=
  match text with
  | e :: sign :: digit :: rest =>
      if e == 'e' || e == 'E' then
        if sign.isDigit then (digit :: rest).dropWhile Char.isDigit
        else if (sign == '+' || sign == '-') && digit.isDigit then rest.dropWhile Char.isDigit
        else text
      else text
  | [e, digit] => if (e == 'e' || e == 'E') && digit.isDigit then [] else text
  | _ => text

/-- What follows a number that starts with a digit or a point. -/
def afterNumber (text : List Char) : List Char :=
  match text with
  | '0' :: 'x' :: rest =>
      rest.dropWhile fun c => c.isDigit || ('a' ≤ c && c ≤ 'f') || ('A' ≤ c && c ≤ 'F')
  | _ =>
      let fraction :=
        match text.dropWhile Char.isDigit with
        | '.' :: rest => rest.dropWhile Char.isDigit
        | rest => rest
      match afterExponent fraction with
      | 'L' :: rest => rest
      | rest => rest

/-- A text between dollar marks, or a numbered parameter. -/
def afterDollar (text : List Char) : Option (List Char) :=
  let tag := text.takeWhile fun c => c.isAlphanum || c == '_'
  match text.drop tag.length with
  | '$' :: rest => afterMark ('$' :: (tag ++ ['$'])) rest
  | rest => some rest

/-! ## The lexer -/

/-- A symbol for a list of characters. -/
def mark (text : List Char) : Token :=
  .symbol (String.ofList text)

/-- An operator from its first character on: some end at once, some have a fixed second
character, and the others take all operator characters that follow.
-/
def lexOperator (c : Char) (rest : List Char) : Token × List Char :=
  match c, rest with
  | '=', '>' :: after => (mark ['=', '>'], after)
  | '=', '=' :: after => (mark ['=', '='], after)
  | '=', _ => (mark ['='], rest)
  | '!', '=' :: after => (mark ['!', '='], after)
  | _, _ =>
      if isLoneOperator c then (mark [c], rest)
      else (mark (c :: rest.takeWhile isOperatorChar), rest.dropWhile isOperatorChar)

/-- A word from its first character on. The letters `b`, `e`, `n`, `x` and the pair `u&` may open
a literal instead.
-/
def lexWord (c : Char) (rest : List Char) : Option (Token × List Char) :=
  match c.toUpper, rest with
  | 'E', '\'' :: quoted => (afterQuoted '\'' true quoted).map (.literal, ·)
  | 'N', '\'' :: quoted => (afterQuoted '\'' false quoted).map (.literal, ·)
  | 'X', '\'' :: quoted => (afterQuoted '\'' false quoted).map (.literal, ·)
  | 'U', '&' :: '\'' :: quoted => (afterQuoted '\'' false quoted).map (.literal, ·)
  | _, _ =>
      let text := c :: rest.takeWhile isWordRest
      some (.word (String.ofList (text.map Char.toUpper)), rest.dropWhile isWordRest)

/-- The token at the start of a text, if there is one and not a blank or a comment, and the text
after it; none if something there does not end.
-/
def lexOne (c : Char) (rest : List Char) : Option (Option Token × List Char) :=
  let token (result : Token × List Char) : Option Token × List Char := (some result.1, result.2)
  match c, rest with
  | '-', '-' :: comment => some (none, comment.dropWhile (· != '\n'))
  | '/', '*' :: comment => (afterComment 1 comment).map (none, ·)
  | '"', quoted => (afterQuoted '"' false quoted).map (some .name, ·)
  | '\'', quoted => (afterQuoted '\'' false quoted).map (some .text, ·)
  | '$', _ => (afterDollar rest).map (some .literal, ·)
  | ':', ':' :: after => some (some (mark [':', ':']), after)
  | ':', '=' :: after => some (some (mark [':', '=']), after)
  | _, _ =>
      if Text.isBlank c then some (none, rest)
      else if isWordStart c then (lexWord c rest).map token
      else if c.isDigit || (c == '.' && (rest.head?.map Char.isDigit).getD false) then
        some (some .number, afterNumber (c :: rest))
      else if isOperatorChar c then some (token (lexOperator c rest))
      else some (some (mark [c]), rest)

/-- The tokens of a text; none if a quote or a comment does not end. -/
def tokens (text : List Char) : Option (List Token) :=
  match text with
  | [] => some []
  | c :: rest =>
      match lexOne c rest with
      | none => none
      | some (token, after) =>
          if after.length ≤ rest.length then
            (tokens after).map (token.toList ++ ·)
          else none
termination_by text.length
decreasing_by simp only [List.length_cons]; omega

end JoinLatency.Sql

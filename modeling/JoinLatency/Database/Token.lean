import JoinLatency.Sql.Token

/-! Statements of a database script as tokens. Semicolons outside quotes and comments end a
statement, empty statements do not count, and a statement is not read before it is reached: what
is illegal in a later one does not spoil an earlier one.
-/

namespace JoinLatency.Database

/-- The parts of a statement. -/
inductive Token
  | word (text : String)
  | name (text : String)
  | text (content : String)
  | number (digits : List Char)
  | symbol (text : String)
  deriving DecidableEq, Repr, Inhabited

/-- Blanks between tokens. -/
def isSpace (c : Char) : Bool :=
  [' ', '\t', '\n', '\x0c', '\r', '\ufeff'].contains c

/-- A word starts with a letter, an underscore, or any character beyond ASCII. -/
def isWordStart (c : Char) : Bool :=
  c.isAlpha || c == '_' || 0x80 ≤ c.toNat

/-- A word goes on with digits and dollar signs as well. -/
def isWordRest (c : Char) : Bool :=
  isWordStart c || c.isDigit || c == '$'

/-- The content of a quoted text, in which the quote is written twice, and the number of its
characters with the closing quote; none if it does not end.
-/
def quoted? (quote : Char) : List Char → Option (List Char × Nat)
  | [] => none
  | [c] => if c == quote then some ([], 1) else none
  | c :: d :: rest =>
      if c == quote then
        if d == quote then
          (quoted? quote rest).map fun (content, n) => (quote :: content, n + 2)
        else some ([], 1)
      else (quoted? quote (d :: rest)).map fun (content, n) => (c :: content, n + 1)

/-- The number of characters of a comment with its end; a comment may also end with the text. -/
def commentLength : List Char → Nat
  | [] => 0
  | [_] => 1
  | c :: d :: rest => if c == '*' && d == '/' then 2 else commentLength (d :: rest) + 1

/-- The number that a text starts with. -/
def numberStart (text : List Char) : List Char :=
  let whole := text.dropWhile Char.isDigit
  let fraction :=
    match whole with
    | '.' :: rest => rest.dropWhile Char.isDigit
    | rest => rest
  text.take (text.length - (Sql.afterExponent fraction).length)

/-- The operators of two characters. -/
def pairs : List (List Char) :=
  [['=', '='], ['<', '='], ['<', '>'], ['<', '<'], ['>', '='], ['>', '>'], ['!', '='], ['|', '|']]

/-- The operators and marks of one character. -/
def marks : List Char :=
  ['(', ')', ';', '+', '-', '*', '/', '%', ',', '&', '~', '|', '<', '>', '=', '.']

/-- A number, which no word may touch. -/
def lexNumber (text : List Char) : Option (Option Token × Nat) :=
  let digits := numberStart text
  if ((text.drop digits.length).head?.map isWordRest).getD false then none
  else some (some (.number digits), digits.length - 1)

/-- An operator or a mark. -/
def lexSymbol (c : Char) (rest : List Char) : Option (Option Token × Nat) :=
  match rest with
  | d :: _ =>
      if pairs.contains [c, d] then some (some (.symbol (String.ofList [c, d])), 1)
      else if marks.contains c then some (some (.symbol (String.singleton c)), 0)
      else none
  | [] => if marks.contains c then some (some (.symbol (String.singleton c)), 0) else none

/-- A quoted name or text. -/
def lexQuoted (make : String → Token) (quote : Char) (rest : List Char)
    : Option (Option Token × Nat) :=
  (quoted? quote rest).map fun (content, n) => (some (make (String.ofList content)), n)

/-- The token at the start of a text, if there is one and not a blank or a comment, and the number
of characters that belong to it after its first; none if something there is illegal.
-/
def lexOne (c : Char) (rest : List Char) : Option (Option Token × Nat) :=
  match c, rest with
  | '-', '-' :: _ => some (none, (rest.takeWhile (· != '\n')).length)
  | '/', '*' :: d :: more => some (none, commentLength (d :: more) + 1)
  | '\'', _ => lexQuoted .text '\'' rest
  | '"', _ => lexQuoted .name '"' rest
  | '\x60', _ => lexQuoted .name '\x60' rest
  | '[', _ =>
      let content := rest.takeWhile (· != ']')
      if content.length < rest.length then
        some (some (.name (String.ofList content)), content.length + 1)
      else none
  | _, _ =>
      if isSpace c then some (none, 0)
      else if isWordStart c then
        let more := rest.takeWhile isWordRest
        some (some (.word (String.ofList (c :: more))), more.length)
      else if c.isDigit || (c == '.' && (rest.head?.map Char.isDigit).getD false) then
        lexNumber (c :: rest)
      else lexSymbol c rest

/-- The statements of a text after some tokens, latest first, of the current one. A statement with
something illegal is the last, as none.
-/
def statementsFrom (seen : List Token) (text : List Char) : List (Option (List Token)) :=
  match text with
  | [] => if seen.isEmpty then [] else [some seen.reverse]
  | c :: rest =>
      match lexOne c rest with
      | none => [none]
      | some (none, n) => statementsFrom seen (rest.drop n)
      | some (some token, n) =>
          if token == .symbol ";" then
            if seen.isEmpty then statementsFrom [] (rest.drop n)
            else some seen.reverse :: statementsFrom [] (rest.drop n)
          else statementsFrom (token :: seen) (rest.drop n)
termination_by text.length
decreasing_by all_goals simp only [List.length_cons, List.length_drop]; omega

/-- The statements of a script. -/
def statements (script : String) : List (Option (List Token)) :=
  statementsFrom [] script.toList

end JoinLatency.Database

import JoinLatency.Error

/-! Names and values that may be substituted into queries and paths. Names are identifiers,
values are non-empty tokens, and neither class holds a character that separates texts.
-/

namespace JoinLatency

/-- An identifier starts with an ASCII letter or an underscore. -/
def isIdentifierStart (c : Char) : Bool :=
  c.isAlpha || c == '_'

/-- An identifier goes on with ASCII letters, digits and underscores. -/
def isIdentifierRest (c : Char) : Bool :=
  c.isAlphanum || c == '_'

/-- A token consists of ASCII letters, digits, underscores and points. -/
def isTokenChar (c : Char) : Bool :=
  c.isAlphanum || c == '_' || c == '.'

/-- Identifiers, as lists of characters. -/
def isIdentifierText : List Char → Bool
  | [] => false
  | c :: rest => isIdentifierStart c && rest.all isIdentifierRest

/-- Tokens, as lists of characters. -/
def isTokenText (text : List Char) : Bool :=
  !text.isEmpty && text.all isTokenChar

/-- Whether a text is an identifier. -/
def isIdentifier (text : String) : Bool :=
  isIdentifierText text.toList

/-- Whether a text is a token. -/
def isToken (text : String) : Bool :=
  isTokenText text.toList

/-- A name is refused under the word for its kind. -/
def checkIdentifier (name : String) : Except Error Unit :=
  if isIdentifier name then .ok () else .error (.invalidParameter "identifier" name)

/-- A value is refused under the name it was given for. -/
def checkToken (name value : String) : Except Error Unit :=
  if isToken value then .ok () else .error (.invalidParameter name value)

end JoinLatency

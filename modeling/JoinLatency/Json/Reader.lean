import JoinLatency.Json.Basic
import JoinLatency.Json.Token

/-! Reading a data text: tokens drive a machine with a stack of the lists and records that are
still open. The text is a value when the machine ends behind one with an empty stack.
-/

namespace JoinLatency.Json

/-- A list or record whose next value is being read, with what it holds so far in reverse. -/
inductive Frame
  | array (items : List Json)
  | object (members : List (Option String × Json)) (name : Option String)

/-- What the machine stands before or after. -/
inductive Place
  | value
  | firstItem
  | firstName
  | name (members : List (Option String × Json))
  | colon (members : List (Option String × Json)) (name : Option String)
  | after (value : Json)

/-- The open frames, innermost first, and the place inside the innermost. -/
structure Machine where
  frames : List Frame
  place : Place

namespace Machine

/-- A token that starts a value. -/
def openValue (frames : List Frame) : Token → Option Machine
  | .null => some ⟨frames, .after .null⟩
  | .bool value => some ⟨frames, .after (.bool value)⟩
  | .number literal => some ⟨frames, .after (.number literal)⟩
  | .string text => some ⟨frames, .after (.string text)⟩
  | .openArray => some ⟨frames, .firstItem⟩
  | .openObject => some ⟨frames, .firstName⟩
  | _ => none

/-- A token behind a complete value. -/
def closeValue (frames : List Frame) (value : Json) (token : Token) : Option Machine :=
  match frames, token with
  | .array items :: rest, .comma => some ⟨.array (value :: items) :: rest, .value⟩
  | .array items :: rest, .closeArray =>
      some ⟨rest, .after (.array (value :: items).reverse)⟩
  | .object members name :: rest, .comma => some ⟨rest, .name ((name, value) :: members)⟩
  | .object members name :: rest, .closeObject =>
      some ⟨rest, .after (.object ((name, value) :: members).reverse)⟩
  | _, _ => none

/-- One move of the machine. -/
def step (machine : Machine) (token : Token) : Option Machine :=
  match machine.place, token with
  | .value, token => openValue machine.frames token
  | .firstItem, .closeArray => some ⟨machine.frames, .after (.array [])⟩
  | .firstItem, token => openValue (.array [] :: machine.frames) token
  | .firstName, .closeObject => some ⟨machine.frames, .after (.object [])⟩
  | .firstName, .string name => some ⟨machine.frames, .colon [] name⟩
  | .name members, .string name => some ⟨machine.frames, .colon members name⟩
  | .colon members name, .colon => some ⟨.object members name :: machine.frames, .value⟩
  | .after value, token => closeValue machine.frames value token
  | _, _ => none

/-- The value of a machine that has read a whole text. -/
def result? : Machine → Option Json
  | ⟨[], .after value⟩ => some value
  | _ => none

/-- The machine after a list of tokens. -/
def run (machine : Machine) : List Token → Option Machine
  | [] => some machine
  | token :: rest => (machine.step token).bind fun next => next.run rest

end Machine

/-- The value of a list of tokens. -/
def ofTokens? (tokens : List Token) : Option Json :=
  (Machine.run ⟨[], .value⟩ tokens).bind Machine.result?

/-- The value of a data text. -/
def read? (text : String) : Option Json :=
  (tokens text.toList).bind ofTokens?

end JoinLatency.Json

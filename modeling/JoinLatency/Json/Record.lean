import JoinLatency.Json.Number
import JoinLatency.Json.Reader

/-! Decoding of data values into records. A record is an object with known member names or a
list with one item a field; a choice without content is its name.
-/

namespace JoinLatency.Json

/-- The text of a string that has one. -/
def text? : Json → Option String
  | .string text => text
  | _ => none

/-- A list with every item decoded. -/
def list? {α : Type} (decode : Json → Option α) : Json → Option (List α)
  | .array items => items.mapM decode
  | _ => none

/-- Null, or a decoded value. -/
def optional? {α : Type} (decode : Json → Option α) : Json → Option (Option α)
  | .null => some none
  | value => (decode value).map some

/-- A list of exactly two items. -/
def pair? {α β : Type} (first : Json → Option α) (second : Json → Option β)
    : Json → Option (α × β)
  | .array [a, b] => return (← first a, ← second b)
  | _ => none

/-- What a record accepts besides its own fields. -/
structure Shape where
  names : List String
  foreignNames : Bool := true
  fewerItems : Bool := false

/-- The members of an object whose names are the shape's, once all its names are texts and the
foreign ones are admitted.
-/
def Shape.ownMembers (shape : Shape)
    : List (Option String × Json) → Option (List (String × Json))
  | [] => some []
  | (none, _) :: _ => none
  | (some name, value) :: rest =>
      if shape.names.contains name then (shape.ownMembers rest).map ((name, value) :: ·)
      else if shape.foreignNames then shape.ownMembers rest
      else none

/-- The values of the fields in order, absent where a record leaves one out. A field that is
given twice is refused.
-/
def Shape.fields? (shape : Shape) : Json → Option (List (Option Json))
  | .object members => do
      let own ← shape.ownMembers members
      if (own.map (·.1)).Nodup then some (shape.names.map fun name => own.lookup name)
      else none
  | .array items =>
      if items.length == shape.names.length
          || (shape.fewerItems && items.length < shape.names.length) then
        some (items.map some ++ List.replicate (shape.names.length - items.length) none)
      else none
  | _ => none

/-- A field that must be there. -/
def required? {α : Type} (decode : Json → Option α) (field : Option Json) : Option α :=
  field.bind decode

/-- A field that may be absent or null. -/
def nullable? {α : Type} (decode : Json → Option α) : Option Json → Option (Option α)
  | none => some none
  | some value => optional? decode value

/-- A choice by its name: a string, or an object with that one member holding null. -/
def choice? {α : Type} (choices : List (String × α)) : Json → Option α
  | .string (some name) => choices.lookup name
  | .object [(some name, .null)] => choices.lookup name
  | _ => none

end JoinLatency.Json

import JoinLatency.Json.Record
import JoinLatency.Variant.Space

/-! Variants and axes as data values. Reading does not check names or values.
-/

namespace JoinLatency

/-- A parameter is a pair of texts. -/
def Variant.paramToJson (param : String × String) : Json :=
  .array [.ofString param.1, .ofString param.2]

/-- A variant is a record of its parameters. -/
def Variant.toJson (variant : Variant) : Json :=
  .record [("params", .ofList paramToJson variant.params)]

/-- The variant of a record of parameters. -/
def Variant.ofJson? (value : Json) : Option Variant := do
  match ← (⟨["params"], true, false⟩ : Json.Shape).fields? value with
  | [params] =>
      return { params := ← Json.required? (Json.list? (Json.pair? Json.text? Json.text?)) params }
  | _ => none

/-- An axis is a record of its name and its values. -/
def Axis.toJson (axis : Axis) : Json :=
  .record [("name", .ofString axis.name), ("values", .ofList .ofString axis.values)]

/-- The axis of a record. -/
def Axis.ofJson? (value : Json) : Option Axis := do
  match ← (⟨["name", "values"], true, false⟩ : Json.Shape).fields? value with
  | [name, values] =>
      return {
        name := ← Json.required? Json.text? name
        values := ← Json.required? (Json.list? Json.text?) values
      }
  | _ => none

end JoinLatency

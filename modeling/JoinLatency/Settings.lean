import JoinLatency.Json.Record
import JoinLatency.Template

/-! Session settings are names with templates for values. A settings list is valid when its
values are tokens for a probe value, and its text for a variant holds tokens only.
-/

namespace JoinLatency

/-- A setting and the template of its value. -/
structure Setting where
  name : String
  value : String
  deriving DecidableEq, Repr, Inhabited

/-- A list of settings. -/
structure Settings where
  settings : List Setting := []
  deriving DecidableEq, Repr, Inhabited

namespace Setting

/-- The value that stands for every placeholder when a setting is checked. -/
def probe : String := "x"

/-- A setting is valid when its name is an identifier and its value under the probe a token. -/
def validate (setting : Setting) : Except Error Unit := do
  checkIdentifier setting.name
  let template ← Template.ofSource setting.value
  checkToken setting.name (← template.renderWith fun _ => some probe)

/-- The setting with its value for a variant, which has to be a token. -/
def render (variant : Variant) (setting : Setting) : Except Error Setting := do
  let template ← Template.ofSource setting.value
  let value ← template.render variant
  checkToken setting.name value
  return { setting with value }

/-- The placeholders of a value. -/
def placeholders (setting : Setting) : Except Error (List String) := do
  return (← Template.ofSource setting.value).placeholders

/-- The statement that applies a setting. -/
def statement (keyword : String) (setting : Setting) : String :=
  s!"{keyword} {setting.name} = '{setting.value}';"

/-- A setting is a record of its name and its value. -/
def toJson (setting : Setting) : Json :=
  .record [("name", .ofString setting.name), ("value", .ofString setting.value)]

/-- The setting of a record. -/
def ofJson? (value : Json) : Option Setting := do
  let shape : Json.Shape := { names := ["name", "value"] }
  match ← shape.fields? value with
  | [name, value] =>
      return { name := ← Json.required? Json.text? name, value := ← Json.required? Json.text? value }
  | _ => none

end Setting

namespace Settings

/-- The settings that leave a server only nested loops, on one worker, for half an hour. -/
def nestedLoopOnly : Settings where
  settings := [
    ⟨"enable_material", "off"⟩,
    ⟨"max_parallel_workers_per_gather", "0"⟩,
    ⟨"enable_hashjoin", "off"⟩,
    ⟨"enable_mergejoin", "off"⟩,
    ⟨"enable_indexonlyscan", "off"⟩,
    ⟨"enable_indexscan", "off"⟩,
    ⟨"enable_block", "off"⟩,
    ⟨"enable_bitmapscan", "off"⟩,
    ⟨"enable_fastjoin", "off"⟩,
    ⟨"enable_seqscan", "off"⟩,
    ⟨"enable_fliporder", "off"⟩,
    ⟨"enable_nestloop", "on"⟩,
    ⟨"work_mem", "64kB"⟩,
    ⟨"statement_timeout", "1800000"⟩
  ]

/-- Settings are checked in order, the first invalid one is reported. -/
def validate (settings : Settings) : Except Error Unit :=
  settings.settings.forM Setting.validate

/-- The settings of a list that is valid. -/
def ofList (settings : List Setting) : Except Error Settings := do
  let settings : Settings := { settings }
  settings.validate
  return settings

/-- The settings with their values for a variant. -/
def render (settings : Settings) (variant : Variant) : Except Error Settings := do
  return { settings := ← settings.settings.mapM (Setting.render variant) }

/-- The placeholders of all values in order. -/
def placeholders (settings : Settings) : Except Error (List String) := do
  return (← settings.settings.mapM Setting.placeholders).flatten

/-- The statements that apply the settings. -/
def statements (settings : Settings) (keyword : String) : List String :=
  settings.settings.map (Setting.statement keyword)

/-- Settings are a list of records. -/
def toJson (settings : Settings) : Json :=
  .ofList Setting.toJson settings.settings

/-- The settings of a list of records, which are not checked. -/
def ofJson? (value : Json) : Option Settings := do
  return { settings := ← Json.list? Setting.ofJson? value }

end Settings

end JoinLatency

import JoinLatency.Config.Basic

/-! Valid configurations: all parts are well formed, paths and settings use known placeholders
only, and settings and query have a text for every variant.
-/

namespace JoinLatency.Config

/-- The placeholders that paths and settings may use: the base and the axes. -/
def isKnown (space : ParamSpace) (name : String) : Bool :=
  name == baseName || space.axes.any (·.name == name)

/-- Grouping names are axes. -/
def checkGroups (config : Config) (space : ParamSpace) : Except Error Unit :=
  config.groupBy.forM fun name =>
    if space.axes.any (·.name == name) then .ok ()
    else .error (.invalidConfig (.groupAxisUnknown name))

/-- A detail path uses known placeholders. -/
def checkDetail (config : Config) (space : ParamSpace) : Except Error Unit := do
  let template ← config.detailTemplate
  match template.placeholders.find? fun name => !isKnown space name with
  | some name => throw (.invalidConfig (.detailPlaceholder name))
  | none => return

/-- A summary path uses the base and the grouping names. -/
def checkSummary (config : Config) : Except Error Unit := do
  let template ← config.summaryTemplate
  let foreign (name : String) : Bool := name != baseName && !config.groupBy.contains name
  match template.placeholders.find? foreign with
  | some name => throw (.invalidConfig (.summaryPlaceholder name))
  | none => return

/-- Settings use known placeholders. -/
def checkSettings (config : Config) (space : ParamSpace) : Except Error Unit := do
  match (← config.settings.placeholders).find? fun name => !isKnown space name with
  | some name => throw (.invalidConfig (.settingsPlaceholder name))
  | none => return

/-- Settings and query have a text for one variant. -/
def checkVariant (config : Config) (query : QueryTemplate) (variant : Variant)
    : Except Error Unit := do
  let _ ← config.settings.render variant
  let _ ← query.render variant
  return

/-- A configuration is checked part by part, its queries under a grammar; the first fault is
reported.
-/
def validate (config : Config) (grammar : Grammar) : Except Error Unit := do
  let _ ← config.timer
  config.settings.validate
  if config.repetitions = 0 then throw (.invalidConfig .noRepetitions)
  let space ← config.space
  config.checkGroups space
  config.checkDetail space
  config.checkSummary
  config.checkSettings space
  let query ← config.queryTemplate grammar
  space.variants.forM (config.checkVariant query)

end JoinLatency.Config

import JoinLatency.Config.Json
import JoinLatency.Proofs.Json.Records

/-! Configurations in data texts. A record of some of the fields of a configuration lays them over
the default, in whatever order they stand, and a record with a foreign or a repeated name is none.
-/

namespace JoinLatency

-----------------------------------------------------------------------------------------
-- Parts of a configuration
-----------------------------------------------------------------------------------------

theorem Setting.wellFormed_toJson (setting : Setting) : setting.toJson.WellFormed :=
  Json.wellFormed_record (by simp [Json.wellFormed_ofString])

theorem Setting.ofJson?_toJson (setting : Setting) : ofJson? setting.toJson = some setting :=
  rfl

theorem Settings.ofJson?_toJson (settings : Settings)
    : ofJson? settings.toJson = some settings := by
  rw [ofJson?, toJson, Json.list?_ofList fun setting _ => setting.ofJson?_toJson]
  rfl

theorem Axis.wellFormed_toJson (axis : Axis) : axis.toJson.WellFormed := by
  have values : (Json.ofList Json.ofString axis.values).WellFormed :=
    Json.wellFormed_ofList Json.wellFormed_ofString axis.values
  exact Json.wellFormed_record (by simp [Json.wellFormed_ofString, values])

theorem Axis.ofJson?_toJson (axis : Axis) : ofJson? axis.toJson = some axis := by
  have fields : (⟨["name", "values"], true, false⟩ : Json.Shape).fields? axis.toJson
      = some [some (.ofString axis.name), some (.ofList .ofString axis.values)] := rfl
  have values : Json.list? Json.text? (.ofList .ofString axis.values) = some axis.values :=
    Json.list?_ofList fun value _ => rfl
  simp [ofJson?, fields, Json.required?, values, Json.ofString, Json.text?]

theorem SummaryFormat.choice?_name (format : SummaryFormat)
    : Json.choice? names (.ofString format.name) = some format := by
  cases format <;> rfl

theorem MissingPolicy.choice?_name (policy : MissingPolicy)
    : Json.choice? names (.ofString policy.name) = some policy := by
  cases policy <;> rfl

-----------------------------------------------------------------------------------------
-- Fields of a configuration
-----------------------------------------------------------------------------------------

namespace Config

/-- The numbers of a configuration have a place in data texts: its counts have 64 bits, and its
doubles are read back.
-/
structure Representable (config : Config) : Prop where
  checkpoints : ∀ k ∈ config.checkpoints, k < Json.countLimit
  repetitions : config.repetitions < Json.countLimit
  progressInterval : config.progressInterval < Json.countLimit
  sigma : Json.ReadsBack config.sigma
  budgetSeconds : Json.ReadsBack config.budgetSeconds

/-- A configuration with some of its fields taken from another one. -/
def withFields (config source : Config) (fields : List Field) : Config where
  database := if .database ∈ fields then source.database else config.database
  label := if .label ∈ fields then source.label else config.label
  checkpoints := if .checkpoints ∈ fields then source.checkpoints else config.checkpoints
  sigma := if .sigma ∈ fields then source.sigma else config.sigma
  budgetSeconds := if .budgetSeconds ∈ fields then source.budgetSeconds else config.budgetSeconds
  repetitions := if .repetitions ∈ fields then source.repetitions else config.repetitions
  progressInterval :=
    if .progressInterval ∈ fields then source.progressInterval else config.progressInterval
  settings := if .settings ∈ fields then source.settings else config.settings
  query := if .query ∈ fields then source.query else config.query
  axes := if .axes ∈ fields then source.axes else config.axes
  groupBy := if .groupBy ∈ fields then source.groupBy else config.groupBy
  detailPath := if .detailPath ∈ fields then source.detailPath else config.detailPath
  summaryPath := if .summaryPath ∈ fields then source.summaryPath else config.summaryPath
  summaryFormat := if .summaryFormat ∈ fields then source.summaryFormat else config.summaryFormat
  missing := if .missing ∈ fields then source.missing else config.missing
  reportPath := if .reportPath ∈ fields then source.reportPath else config.reportPath

theorem withFields_nil (config source : Config) : config.withFields source [] = config := by
  simp [withFields]

/-- All fields of another configuration are the other configuration. -/
theorem withFields_all (config source : Config) : config.withFields source Field.all = source := by
  simp [withFields, Field.all]

/-- Fields that are taken one after the other are taken together. -/
theorem withFields_cons (config source : Config) (field : Field) (rest : List Field)
    : (config.withFields source [field]).withFields source rest
      = config.withFields source (field :: rest) := by
  have pick {α : Type} (other : Field) (new old : α)
      : (if other ∈ rest then new else if other ∈ [field] then new else old)
        = if other ∈ field :: rest then new else old := by
    by_cases later : other ∈ rest <;> by_cases now : other = field <;> simp [later, now]
  simp only [withFields, pick]

/-- The members of a record of some fields. -/
def members (config : Config) (fields : List Field) : List (String × Json) :=
  fields.map fun field => (field.name, field.encode config)

namespace Field

theorem ofName?_name (field : Field) : ofName? field.name = some field := by
  cases field <;> rfl

theorem name_injective : Function.Injective name := by
  intro left right same
  have found := left.ofName?_name
  rw [same, ofName?_name] at found
  exact (Option.some.inj found).symm

/-- What is written for a field is a value of the field. -/
theorem set?_encode {config : Config} (h : config.Representable) (base : Config) (field : Field)
    : field.set? base (field.encode config) = some (base.withFields config [field]) := by
  have checkpoints : Json.list? Json.natural? (.ofList .ofNat config.checkpoints)
      = some config.checkpoints :=
    Json.list?_ofList fun k member => Json.natural?_ofNat (h.checkpoints k member)
  have axes : Json.list? Axis.ofJson? (.ofList Axis.toJson config.axes) = some config.axes :=
    Json.list?_ofList fun axis _ => axis.ofJson?_toJson
  have groupBy : Json.list? Json.text? (.ofList .ofString config.groupBy) = some config.groupBy :=
    Json.list?_ofList fun name _ => rfl
  have text (content : String) : Json.text? (.ofString content) = some content := rfl
  have sigma : Json.float? (.ofFloat config.sigma) = some config.sigma := h.sigma
  have budget : Json.float? (.ofFloat config.budgetSeconds) = some config.budgetSeconds :=
    h.budgetSeconds
  cases field <;>
    simp [set?, encode, withFields, text, checkpoints, axes, groupBy, sigma, budget,
      Json.natural?_ofNat h.repetitions,
      Json.natural?_ofNat h.progressInterval, Settings.ofJson?_toJson,
      SummaryFormat.choice?_name, MissingPolicy.choice?_name, Json.optional?_text]

theorem wellFormed_encode (config : Config) (field : Field)
    : (field.encode config).WellFormed := by
  cases field with
  | checkpoints => exact Json.wellFormed_ofList Json.wellFormed_ofNat _
  | sigma | budgetSeconds => exact Json.wellFormed_ofFloat _
  | repetitions | progressInterval => exact Json.wellFormed_ofNat _
  | settings => exact Json.wellFormed_ofList Setting.wellFormed_toJson _
  | axes => exact Json.wellFormed_ofList Axis.wellFormed_toJson _
  | groupBy => exact Json.wellFormed_ofList Json.wellFormed_ofString _
  | reportPath => exact Json.wellFormed_ofOption Json.wellFormed_ofString _
  | database | label | query | detailPath | summaryPath | summaryFormat | missing =>
      exact Json.wellFormed_ofString _

/-- The fields with names are those that the members of a record are for. -/
theorem names_of_members {members : List (Option String × Json)} {values : List (Field × Json)}
    (h : members.mapM member? = some values)
    : members.map (·.1) = values.map fun value => some value.1.name := by
  induction members generalizing values with
  | nil =>
      obtain rfl : values = [] := by simpa using h.symm
      rfl
  | cons member rest ih =>
      obtain ⟨name, value⟩ := member
      simp only [List.mapM_cons, Option.bind_eq_bind, Option.bind_eq_some_iff, member?] at h
      obtain ⟨entry, ⟨text, rfl, field, found, made⟩, others, more, done⟩ := h
      obtain rfl := Option.some.inj made
      obtain rfl := Option.some.inj done
      have named : field.name = text := by simpa using List.find?_some found
      simp [ih more, named]

end Field

-----------------------------------------------------------------------------------------
-- Records of fields
-----------------------------------------------------------------------------------------

theorem mapM_member?_members (config : Config) (fields : List Field)
    : ((config.members fields).map fun (name, value) => (some name, value)).mapM member?
      = some (fields.map fun field => (field, field.encode config)) := by
  induction fields with
  | nil => rfl
  | cons field rest ih =>
      rw [members, List.map_map] at ih
      simp [members, member?, Field.ofName?_name, ih]

/-- Fields that are laid over a configuration are taken from their own one, by induction along
them.
-/
theorem overlay_encode {config : Config} (h : config.Representable) (base : Config)
    (fields : List Field)
    : base.overlay (fields.map fun field => (field, field.encode config))
      = some (base.withFields config fields) := by
  rw [overlay]
  induction fields generalizing base with
  | nil => exact congrArg some (withFields_nil base config).symm
  | cons field rest ih =>
      rw [List.map_cons, List.foldlM_cons]
      dsimp only
      rw [Field.set?_encode h]
      exact (ih _).trans (congrArg some (withFields_cons base config field rest))

theorem ofJson?_members {config : Config} (h : config.Representable) {fields : List Field}
    (once : fields.Nodup)
    : ofJson? (.record (config.members fields))
      = some (withFields {} config fields) := by
  have distinct : ((fields.map fun field => (field, field.encode config)).map (·.1)).Nodup := by
    rw [List.map_map]
    simpa [Function.comp_def] using once
  rw [Json.record, ofJson?, mapM_member?_members, Option.bind_eq_bind, Option.bind_some,
    if_pos distinct, overlay_encode h]

/-- A record with a foreign or a repeated name is no configuration. -/
theorem ofJson?_eq_none {members : List (String × Json)}
    (h : (∃ name ∈ members.map (·.1), ∀ field : Field, field.name ≠ name)
      ∨ ¬ (members.map (·.1)).Nodup)
    : ofJson? (.record members) = none := by
  rw [Json.record, ofJson?]
  cases read : (members.map fun (name, value) => (some name, value)).mapM member? with
  | none => rfl
  | some values =>
      have names : members.map (·.1) = (values.map (·.1)).map Field.name := by
        have same := Field.names_of_members read
        rw [List.map_map] at same
        refine List.map_injective_iff.mpr (Option.some_injective String) ?_
        simpa [Function.comp_def] using same
      refine if_neg fun distinct => ?_
      rw [names] at h
      rcases h with ⟨name, member, foreign⟩ | repeated
      · obtain ⟨field, _, same⟩ := List.mem_map.mp member
        exact foreign field same
      · exact repeated (distinct.map Field.name_injective)

/-- The text of a record is read as its value is. -/
theorem ofText_write {value : Json} (h : value.WellFormed) {style : Json.Style}
    (blank : style.IsBlank)
    : ofText (String.ofList (value.write style 0))
      = match ofJson? value with
        | some config => .ok config
        | none => .error .json := by
  cases parsed : ofJson? value with
  | none => simp only [ofText, Json.read?_write h blank, Option.bind_some, parsed]
  | some config => simp only [ofText, Json.read?_write h blank, Option.bind_some, parsed]

theorem wellFormed_members (config : Config) (fields : List Field)
    : ∀ member ∈ config.members fields, member.2.WellFormed := by
  intro member there
  obtain ⟨field, _, rfl⟩ := List.mem_map.mp there
  exact field.wellFormed_encode config

/-- A record of some fields of a configuration, each once and in any order, is read as the default
with these fields taken from the configuration: all fields give the configuration itself, and none
the default. With one more member anywhere, of a foreign name or of the name of one of the fields,
nothing is read.
-/
theorem ofText_overlay {config : Config} (representable : config.Representable)
    {style : Json.Style} (blank : style.IsBlank) {fields : List Field} (once : fields.Nodup)
    : let text (members : List (String × Json)) :=
        String.ofList ((Json.record members).write style 0)
      ofText (text (config.members fields)) = .ok (withFields {} config fields)
      ∧ ofText (String.ofList (config.toJson.write style 0)) = .ok config
      ∧ ofText (text []) = .ok {}
      ∧ ∀ (before after : List Field) (name : String) (value : Json),
          before ++ after = fields
          → value.WellFormed
          → (∀ field : Field, field.name ≠ name) ∨ (∃ field ∈ fields, field.name = name)
          → ofText (text (config.members before ++ (name, value) :: config.members after))
            = .error .json := by
  intro text
  have read {others : List Field} (distinct : others.Nodup)
      : ofText (text (config.members others)) = .ok (withFields {} config others) := by
    rw [ofText_write (Json.wellFormed_record (config.wellFormed_members others)) blank,
      ofJson?_members representable distinct]
  have all : Field.all.Nodup := by decide
  refine ⟨read once, (read all).trans ?_, (read List.nodup_nil).trans ?_, ?_⟩
  · rw [withFields_all]
  · rw [withFields_nil]
  · intro before after name value split shaped extra
    have whole : (Json.record (config.members before
        ++ (name, value) :: config.members after)).WellFormed := by
      refine Json.wellFormed_record ?_
      rw [List.forall_mem_append, List.forall_mem_cons]
      exact ⟨config.wellFormed_members before, shaped, config.wellFormed_members after⟩
    rw [ofText_write whole blank, ofJson?_eq_none]
    rcases extra with foreign | ⟨field, member, rfl⟩
    · exact .inl ⟨name, by simp, foreign⟩
    · refine .inr fun distinct => ?_
      rw [List.map_append, List.map_cons, List.nodup_middle, List.nodup_cons] at distinct
      refine distinct.1 ?_
      rw [← split] at member
      simpa [members, Field.name_injective.eq_iff] using member

/-- Two of the fields stand in another order than in the configuration, with characters to escape,
and one of them is then repeated with another value.
-/
theorem ofText_overlay_two_fields
    : ∃ config : Config,
        config.Representable
        ∧ ofText (Json.record (config.members [.sigma, .label])).indented
          = .ok { label := "a\"\\\n\x01", sigma := 0.5 }
        ∧ ofText config.toJson.indented = .ok config
        ∧ ofText (Json.record (config.members [.sigma] ++ ("label", .null)
              :: config.members [.label])).indented
          = .error .json := by
  let config : Config := {
    label := "a\"\\\n\x01"
    sigma := 0.5
    repetitions := 3
    summaryFormat := .verbose
    reportPath := some "report"
  }
  have representable : config.Representable := by
    constructor <;> decide +kernel
  obtain ⟨read, all, _, refused⟩ := ofText_overlay representable Json.Style.isBlank_indented
    (show [Field.sigma, .label].Nodup by decide)
  exact ⟨config, representable, read, all, refused [.sigma] [.label] "label" .null rfl .null
    (.inr ⟨.label, by decide, rfl⟩)⟩

end Config

end JoinLatency

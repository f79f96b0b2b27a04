import JoinLatency.Proofs.Config.Acceptance
import JoinLatency.Proofs.Database.Lexing
import JoinLatency.Sql.Statement

/-! Statements of settings. Names are checked when a configuration is, values after their
placeholders were filled, and neither class holds a quote, an equals sign or a semicolon: a
statement assigns one value to one name, and nothing follows it.
-/

namespace JoinLatency

-----------------------------------------------------------------------------------------
-- One statement
-----------------------------------------------------------------------------------------

/-- A statement assigns a token to a name. Besides its keyword it has two quotes, one equals sign
and one semicolon, which ends it; a database reads it as one statement of four tokens.
-/
structure Assigns (keyword name token statement : String) : Prop where
  name_identifier : isIdentifier name = true
  value_token : isToken token = true
  text : statement = keyword ++ " " ++ name ++ " = '" ++ token ++ "';"
  quotes : statement.toList.count '\'' = keyword.toList.count '\'' + 2
  equals : statement.toList.count '=' = keyword.toList.count '=' + 1
  semicolons : statement.toList.count ';' = keyword.toList.count ';' + 1
  last : statement.toList.getLast? = some ';'
  alone
    : isIdentifier keyword = true
      → Database.statements statement
        = [some [.word keyword, .word name, .symbol "=", .text token]]

/-- The characters of a statement. -/
theorem Setting.toList_statement (keyword : String) (setting : Setting)
    : (setting.statement keyword).toList
      = keyword.toList ++ ' ' :: (setting.name.toList ++ ' ' :: '=' :: ' ' :: '\''
          :: (setting.value.toList ++ '\'' :: ';' :: [])) := by
  have text : setting.statement keyword
      = keyword ++ " " ++ setting.name ++ " = '" ++ setting.value ++ "';" := rfl
  rw [text]
  simp

/-- A database reads the statement of a checked setting as one statement, since its words end at
blanks and its value at the closing quote.
-/
theorem statements_of_checked {keyword name token : String} (word : isIdentifier keyword = true)
    (identifier : isIdentifier name = true) (value : isToken token = true)
    : Database.statements (Setting.statement keyword ⟨name, token⟩)
      = [some [.word keyword, .word name, .symbol "=", .text token]] := by
  have blank (rest : List Char) : Database.EndsWord (' ' :: rest) :=
    Database.endsWord_cons (by decide) rest
  have plain := Database.plain_of_isTokenChar (isTokenChar_of_isToken value)
  have sign (rest : List Char)
      : Database.lexOne '=' (' ' :: rest) = some (some (.symbol "="), 0) := rfl
  rw [Database.statements, Setting.toList_statement, Database.statementsFrom_word word (blank _),
    Database.statementsFrom_space, Database.statementsFrom_word identifier (blank _),
    Database.statementsFrom_space, Database.statementsFrom_token (sign _) (by simp),
    List.drop_zero, Database.statementsFrom_space,
    Database.statementsFrom_quoted plain (by simp), Database.statementsFrom_semicolon]
  simp [Database.finished, Database.statementsFrom]

theorem assigns_of_checked {name token : String} (identifier : isIdentifier name = true)
    (value : isToken token = true) (keyword : String)
    : Assigns keyword name token (Setting.statement keyword ⟨name, token⟩) := by
  have nameChars := isTokenChar_of_isIdentifier identifier
  have tokenChars := isTokenChar_of_isToken value
  have count (c : Char) (foreign : isTokenChar c = false)
      : (Setting.statement keyword ⟨name, token⟩).toList.count c
        = keyword.toList.count c + [' ', ' ', '=', ' ', '\'', '\'', ';'].count c := by
    rw [Setting.toList_statement]
    simp only [List.count_append, List.count_cons, count_eq_zero_of_foreign nameChars foreign,
      count_eq_zero_of_foreign tokenChars foreign, List.count_nil]
    omega
  exact {
    name_identifier := identifier
    value_token := value
    text := rfl
    quotes := count '\'' (by decide)
    equals := count '=' (by decide)
    semicolons := count ';' (by decide)
    last := by simp [Setting.toList_statement, List.getLast?_cons]
    alone := fun word => statements_of_checked word identifier value
  }

-----------------------------------------------------------------------------------------
-- Accepted settings
-----------------------------------------------------------------------------------------

theorem Setting.name_of_validate {setting : Setting} (h : setting.validate = .ok ())
    : isIdentifier setting.name = true := by
  obtain ⟨_, checked, _⟩ := bind_eq_ok.mp h
  exact checkIdentifier_eq_ok.mp checked

/-- Filling the placeholders of a setting keeps its name and leaves a token. -/
theorem Setting.render_eq_ok {setting rendered : Setting} {variant : Variant}
    (h : setting.render variant = .ok rendered)
    : rendered.name = setting.name ∧ isToken rendered.value = true := by
  simp only [render, bind_eq_ok] at h
  obtain ⟨_, _, value, _, _, checked, made⟩ := h
  obtain rfl := Except.ok.inj made
  exact ⟨rfl, checkToken_eq_ok.mp checked⟩

theorem Settings.render_eq_ok {settings rendered : Settings} {variant : Variant}
    (h : settings.render variant = .ok rendered)
    : List.Forall₂ (fun setting filled => setting.render variant = .ok filled)
        settings.settings rendered.settings := by
  obtain ⟨filled, mapped, made⟩ := bind_eq_ok.mp h
  obtain rfl := Except.ok.inj made
  exact mapM_eq_ok.mp mapped

/-- Every setting of a valid configuration has an identifier for its name. -/
theorem Config.names_of_validate {grammar : Grammar} {config : Config}
    (h : config.validate grammar = .ok ())
    : ∀ setting ∈ config.settings.settings, isIdentifier setting.name = true := by
  simp only [validate, bind_eq_ok] at h
  obtain ⟨_, _, _, settings, _⟩ := h
  intro setting member
  exact Setting.name_of_validate (forM_eq_ok.mp settings setting member)

/-- A valid configuration has settings for every variant, and under every keyword each of them
becomes a statement that assigns a token to the name of the setting, and does nothing else.
-/
theorem Config.statements_assign {grammar : Grammar} {config : Config} {space : ParamSpace}
    (valid : config.validate grammar = .ok ()) (spanned : config.space = .ok space)
    {variant : Variant} (member : variant ∈ space.variants)
    : ∃ rendered,
        config.settings.render variant = .ok rendered
        ∧ ∀ keyword : String,
            List.Forall₂
              (fun setting statement => ∃ token, Assigns keyword setting.name token statement)
              config.settings.settings (rendered.statements keyword) := by
  obtain ⟨_, space', query, passed⟩ := Config.passed_of_validate valid
  obtain rfl := Except.ok.inj (spanned.symm.trans passed.space_eq)
  obtain ⟨⟨rendered, filled⟩, _⟩ :=
    Config.renders_of_checkVariant (passed.variants variant member)
  refine ⟨rendered, filled, fun keyword => ?_⟩
  have each := (List.forall₂_and_left _ _).mpr
    ⟨Config.names_of_validate valid, Settings.render_eq_ok filled⟩
  rw [Settings.statements, List.forall₂_map_right_iff]
  apply each.imp
  rintro setting ⟨name, token⟩ ⟨identifier, made⟩
  obtain ⟨rfl, value⟩ := Setting.render_eq_ok made
  exact ⟨token, assigns_of_checked identifier value keyword⟩

/-- A value that is put together from text and two placeholders, and a name that is never filled. -/
theorem Config.statements_assign_two_placeholders
    : ∃ (config : Config) (space : ParamSpace) (variant : Variant) (rendered : Settings),
        config.validate Sql.statements? = .ok ()
        ∧ config.space = .ok space
        ∧ variant ∈ space.variants
        ∧ config.settings.settings = [⟨"work_mem", "\x7bmem\x7d.\x7bunit\x7dkB"⟩, ⟨"_cache", "on"⟩]
        ∧ rendered.statements "SET" = ["SET work_mem = '64._kB';", "SET _cache = 'on';"]
        ∧ List.Forall₂
            (fun setting statement => ∃ token, Assigns "SET" setting.name token statement)
            config.settings.settings (rendered.statements "SET") := by
  let config : Config := {
    query := "select 1"
    axes := [⟨"mem", ["32", "64"]⟩, ⟨"unit", ["_"]⟩]
    settings := { settings := [⟨"work_mem", "\x7bmem\x7d.\x7bunit\x7dkB"⟩, ⟨"_cache", "on"⟩] }
  }
  let variant : Variant := ⟨[("mem", "64"), ("unit", "_")]⟩
  have valid : config.validate Sql.statements? = .ok () := toOption_eq_some.mp (by decide +kernel)
  have spanned : config.space = .ok ⟨config.axes⟩ := toOption_eq_some.mp (by decide +kernel)
  have member : variant ∈ (ParamSpace.mk config.axes).variants := by decide
  obtain ⟨rendered, filled, assigned⟩ := statements_assign valid spanned member
  have texts : (config.settings.render variant).toOption.map (·.statements "SET")
      = some ["SET work_mem = '64._kB';", "SET _cache = 'on';"] := by
    decide +kernel
  rw [filled] at texts
  exact ⟨config, _, variant, rendered, valid, spanned, member, rfl, Option.some.inj texts,
    assigned "SET"⟩

end JoinLatency

import JoinLatency.Proofs.Settings.Statements
import JoinLatency.Proofs.Template.Inverse

/-! The probe of settings is exact. Whether the text of a template is a token depends on its
literals alone, as long as tokens stand for its placeholders, so that one probe value decides for
all variants. A text that is a token has no placeholders left.
-/

namespace JoinLatency

-----------------------------------------------------------------------------------------
-- Tokens made by templates
-----------------------------------------------------------------------------------------

namespace Template

/-- A template makes tokens of tokens: it has a segment, and its literals consist of token
characters.
-/
structure MakesTokens (template : Template) : Prop where
  some : template.segments ≠ []
  literals
    : ∀ text, .literal text ∈ template.segments → ∀ c ∈ text.toList, isTokenChar c = true

variable {lookup : String → Option String} {source text : String} {segments : List Segment}

/-- A placeholder puts its value before the text of what follows it. -/
theorem renderSegments_placeholder {name : String} {rest : List Segment}
    (h : renderSegments source lookup (.placeholder name :: rest) = .ok text)
    : ∃ value later,
        lookup name = some value
        ∧ renderSegments source lookup rest = .ok later
        ∧ value ++ later = text := by
  rw [renderSegments] at h
  split at h
  next unknown => cases h
  next value known =>
    obtain ⟨later, found, same⟩ := map_eq_ok.mp h
    exact ⟨value, later, known, found, same⟩

/-- The characters of a text are those of the literals, and others of tokens, by induction along
the segments.
-/
theorem isTokenChar_of_renderSegments
    (tokens : ∀ name value, lookup name = some value → isToken value = true)
    (rendered : renderSegments source lookup segments = .ok text)
    : (∀ c ∈ text.toList, isTokenChar c = true)
      ↔ ∀ literal, .literal literal ∈ segments → ∀ c ∈ literal.toList, isTokenChar c = true := by
  induction segments generalizing text with
  | nil =>
      obtain rfl := Except.ok.inj rendered
      simp
  | cons segment rest ih =>
      cases segment with
      | literal literal =>
          obtain ⟨later, found, rfl⟩ := map_eq_ok.mp rendered
          rw [String.toList_append, List.forall_mem_append, ih found]
          simp [or_imp, forall_and]
      | placeholder name =>
          obtain ⟨value, later, known, found, rfl⟩ := renderSegments_placeholder rendered
          have own := isTokenChar_of_isToken (tokens name value known)
          rw [String.toList_append, List.forall_mem_append, ih found, and_iff_right own]
          simp

/-- A text of canonical segments is empty only without any, since the first one has some text. -/
theorem toList_eq_nil_of_renderSegments (canonical : Segment.Canonical segments)
    (tokens : ∀ name value, lookup name = some value → isToken value = true)
    (rendered : renderSegments source lookup segments = .ok text)
    : text.toList = [] ↔ segments = [] := by
  cases segments with
  | nil =>
      obtain rfl := Except.ok.inj rendered
      simp
  | cons segment rest =>
      have own := canonical.wellFormed segment List.mem_cons_self
      cases segment with
      | literal literal =>
          obtain ⟨later, found, rfl⟩ := map_eq_ok.mp rendered
          have filled : literal ≠ "" := own
          simp [filled]
      | placeholder name =>
          obtain ⟨value, later, known, found, rfl⟩ := renderSegments_placeholder rendered
          have token := tokens name value known
          rw [isToken, isTokenText, Bool.and_eq_true, Bool.not_eq_true',
            List.isEmpty_eq_false_iff] at token
          simp [String.toList_append, token.1]

/-- The text of a template is a token if and only if the template makes tokens. -/
theorem isToken_of_renderWith {template : Template} (read : ofSource source = .ok template)
    (tokens : ∀ name value, lookup name = some value → isToken value = true)
    (rendered : template.renderWith lookup = .ok text)
    : isToken text = true ↔ template.MakesTokens := by
  have canonical : Segment.Canonical template.segments := by
    rw [ofSource] at read
    split at read
    next segments found =>
      obtain rfl := Except.ok.inj read
      exact Segment.canonical_of_read found
    next fault lost => cases read
  have chars := isTokenChar_of_renderSegments tokens rendered
  have empty := toList_eq_nil_of_renderSegments canonical tokens rendered
  rw [isToken, isTokenText, Bool.and_eq_true, Bool.not_eq_true', List.isEmpty_eq_false_iff,
    List.all_eq_true, Ne, empty, chars]
  exact ⟨fun h => ⟨h.1, h.2⟩, fun h => ⟨h.some, h.literals⟩⟩

/-- A token is a template of itself, since it has no braces. -/
theorem ofSource_token {token : String} (h : isToken token = true)
    : ofSource token = .ok { source := token, segments := [.literal token] } := by
  have chars := isTokenChar_of_isToken h
  have plain : Segment.write (.literal token) = token.toList := by
    have single (c : Char) (member : c ∈ token.toList) : Segment.escapeChar c = [c] := by
      have own := chars c member
      refine Segment.escapeChar_of_ne ?_ ?_
      all_goals
        rintro rfl
        exact absurd own (by decide)
    rw [Segment.write, List.flatMap_congr single, List.flatMap_singleton']
  have filled : token ≠ "" := by
    rintro rfl
    cases h
  have canonical : Segment.Canonical [.literal token] :=
    ⟨by simpa [Segment.WellFormed] using filled, .singleton _⟩
  have read := Segment.read_write token [] canonical (.inl rfl)
  rw [List.flatMap_singleton, plain] at read
  rw [ofSource, read]
  rfl

end Template

-----------------------------------------------------------------------------------------
-- Values of variants
-----------------------------------------------------------------------------------------

/-- The values of accepted parameters are tokens, by induction along them. -/
theorem Variant.isToken_of_checkParams {seen : List String} {params : List (String × String)}
    (accepted : checkParams seen params = .ok ())
    : ∀ param ∈ params, isToken param.2 = true := by
  induction params generalizing seen with
  | nil => simp
  | cons param rest ih =>
      obtain ⟨name, value⟩ := param
      simp only [checkParams, bind_eq_ok] at accepted
      obtain ⟨_, _, _, checked, later⟩ := accepted
      split at later
      next again => cases later
      next fresh => exact List.forall_mem_cons.mpr ⟨checkToken_eq_ok.mp checked, ih later⟩

theorem Variant.isToken_of_get? {params : List (String × String)} {variant : Variant}
    (accepted : ofParams params = .ok variant) (name value : String)
    (h : variant.get? name = some value)
    : isToken value = true := by
  obtain ⟨_, checked, made⟩ := bind_eq_ok.mp accepted
  obtain rfl := Except.ok.inj made
  obtain ⟨before, after, split, _⟩ := List.lookup_eq_some_iff.mp h
  refine isToken_of_checkParams checked (name, value) ?_
  change params = _ at split
  rw [split]
  exact List.mem_append_right _ List.mem_cons_self

-----------------------------------------------------------------------------------------
-- One setting
-----------------------------------------------------------------------------------------

namespace Setting

variable {setting : Setting} {template : Template} {variant : Variant}

/-- A setting is valid if its name is an identifier and its template makes tokens, since the probe
is a token that stands for every placeholder.
-/
theorem validate_iff (read : Template.ofSource setting.value = .ok template)
    : setting.validate = .ok () ↔ isIdentifier setting.name = true ∧ template.MakesTokens := by
  have tokens (name value : String) (h : some probe = some value) : isToken value = true := by
    obtain rfl := Option.some.inj h
    decide
  obtain ⟨text, rendered⟩ : ∃ text, template.renderWith (fun _ => some probe) = .ok text :=
    Template.exists_renderWith fun _ _ => ⟨probe, rfl⟩
  have token := Template.isToken_of_renderWith read tokens rendered
  have steps
      : setting.validate
        = checkIdentifier setting.name >>= fun _ => checkToken setting.name text := by
    simp only [validate, read]
    change (checkIdentifier setting.name >>= fun _ => template.renderWith _ >>= _) = _
    rw [rendered]
    rfl
  rw [steps, bind_eq_ok, ← checkIdentifier_eq_ok, ← token, ← checkToken_eq_ok]
  exact ⟨fun ⟨_, named, checked⟩ => ⟨named, checked⟩, fun ⟨named, checked⟩ => ⟨(), named, checked⟩⟩

/-- A setting is filled with the text of its template if that is a token. -/
theorem render_of_text {text : String} (read : Template.ofSource setting.value = .ok template)
    (rendered : template.renderWith variant.get? = .ok text)
    : setting.render variant
      = (checkToken setting.name text).map fun _ => { setting with value := text } := by
  simp only [render, read]
  change template.renderWith variant.get? >>= _ = _
  rw [rendered]
  rfl

/-- A setting has a value for a variant that defines its placeholders if its template makes
tokens.
-/
theorem exists_render_iff (read : Template.ofSource setting.value = .ok template)
    (defined : ∀ name ∈ template.placeholders, ∃ value, variant.get? name = some value)
    (tokens : ∀ name value, variant.get? name = some value → isToken value = true)
    : (∃ filled, setting.render variant = .ok filled) ↔ template.MakesTokens := by
  obtain ⟨text, rendered⟩ := Template.exists_renderWith defined
  have token := Template.isToken_of_renderWith read tokens rendered
  have checks : checkToken setting.name text = .ok () ↔ template.MakesTokens :=
    checkToken_eq_ok.trans token
  rw [render_of_text read rendered, ← checks]
  simp only [map_eq_ok]
  exact ⟨fun ⟨_, _, checked, _⟩ => checked, fun checked => ⟨_, _, checked, rfl⟩⟩

/-- A setting whose value is a token is its own rendering for every variant. -/
theorem render_of_token (h : isToken setting.value = true) (variant : Variant)
    : setting.render variant = .ok setting := by
  have alone : Template.renderWith ⟨setting.value, [.literal setting.value]⟩ variant.get?
      = .ok setting.value := by
    simp [Template.renderWith, Template.renderSegments, Except.map]
  rw [render_of_text (Template.ofSource_token h) alone, checkToken_eq_ok.mpr h]
  rfl

end Setting

-----------------------------------------------------------------------------------------
-- Lists of settings
-----------------------------------------------------------------------------------------

namespace Settings

/-- A variant defines the placeholders of some settings if it has a value for each of them. -/
def DefinedBy (settings : Settings) (variant : Variant) : Prop :=
  ∀ names, settings.placeholders = .ok names →
    ∀ name ∈ names, ∃ value, variant.get? name = some value

variable {settings : Settings} {variant : Variant} {params : List (String × String)}

/-- A variant that defines the placeholders of some settings defines those of each of them. -/
theorem DefinedBy.setting (h : settings.DefinedBy variant)
    (reads
      : ∀ setting ∈ settings.settings, ∃ template, Template.ofSource setting.value = .ok template)
    {setting : Setting} (member : setting ∈ settings.settings) {template : Template}
    (read : Template.ofSource setting.value = .ok template)
    : ∀ name ∈ template.placeholders, ∃ value, variant.get? name = some value := by
  have each (setting : Setting) (member : setting ∈ settings.settings)
      : ∃ names, setting.placeholders = .ok names := by
    obtain ⟨template, read⟩ := reads setting member
    exact ⟨template.placeholders, by rw [Setting.placeholders, read]; rfl⟩
  obtain ⟨lists, all⟩ := exists_mapM_eq_ok.mpr each
  have whole : settings.placeholders = .ok lists.flatten := by
    rw [placeholders, all]
    rfl
  obtain ⟨names, listed, own⟩ := exists_mem_of_mapM all member
  rw [Setting.placeholders, read] at own
  obtain rfl := Except.ok.inj own
  intro name used
  exact h lists.flatten whole name (List.mem_flatten.mpr ⟨_, listed, used⟩)

/-- Some settings can be filled for a variant if the template of each makes tokens, whatever the
values of the variant are.
-/
theorem exists_render_iff (accepted : Variant.ofParams params = .ok variant)
    (defined : settings.DefinedBy variant)
    : (∃ rendered, settings.render variant = .ok rendered)
      ↔ ∀ setting ∈ settings.settings, ∃ template,
          Template.ofSource setting.value = .ok template ∧ template.MakesTokens := by
  have tokens := Variant.isToken_of_get? accepted
  have all : (∃ rendered, settings.render variant = .ok rendered)
      ↔ ∀ setting ∈ settings.settings, ∃ filled, setting.render variant = .ok filled := by
    rw [← exists_mapM_eq_ok]
    simp only [render, bind_eq_ok]
    exact ⟨fun ⟨_, filled, mapped, _⟩ => ⟨filled, mapped⟩,
      fun ⟨filled, mapped⟩ => ⟨_, filled, mapped, rfl⟩⟩
  rw [all]
  constructor
  · intro fills setting member
    have reads (setting : Setting) (member : setting ∈ settings.settings)
        : ∃ template, Template.ofSource setting.value = .ok template := by
      obtain ⟨filled, made⟩ := fills setting member
      obtain ⟨template, read, _⟩ := bind_eq_ok.mp made
      exact ⟨template, read⟩
    obtain ⟨template, read⟩ := reads setting member
    have own := defined.setting reads member read
    exact ⟨template, read, (Setting.exists_render_iff read own tokens).mp (fills setting member)⟩
  · intro makes setting member
    have reads (setting : Setting) (member : setting ∈ settings.settings)
        : ∃ template, Template.ofSource setting.value = .ok template :=
      (makes setting member).imp fun _ => And.left
    obtain ⟨template, read, own⟩ := makes setting member
    exact (Setting.exists_render_iff read (defined.setting reads member read) tokens).mpr own

theorem validate_iff
    : settings.validate = .ok ()
      ↔ ∀ setting ∈ settings.settings,
          isIdentifier setting.name = true
          ∧ ∃ template, Template.ofSource setting.value = .ok template ∧ template.MakesTokens := by
  rw [validate, forM_eq_ok]
  refine forall₂_congr fun setting member => ?_
  constructor
  · intro valid
    obtain ⟨_, _, later⟩ := bind_eq_ok.mp valid
    obtain ⟨template, read, _⟩ := bind_eq_ok.mp later
    obtain ⟨named, makes⟩ := (Setting.validate_iff read).mp valid
    exact ⟨named, template, read, makes⟩
  · rintro ⟨named, template, read, makes⟩
    exact (Setting.validate_iff read).mpr ⟨named, makes⟩

/-- Settings that are filled keep their names in order, and have tokens for values. -/
theorem names_of_render {rendered : Settings} (h : settings.render variant = .ok rendered)
    : rendered.settings.map (·.name) = settings.settings.map (·.name) := by
  have each := render_eq_ok h
  rw [← List.forall₂_eq_eq_eq, List.forall₂_map_left_iff, List.forall₂_map_right_iff]
  exact each.flip.imp fun filled setting made => (Setting.render_eq_ok made).1

/-- Filling settings again changes nothing, since a token has no placeholders. -/
theorem render_of_render {rendered : Settings} (h : settings.render variant = .ok rendered)
    (other : Variant)
    : rendered.render other = .ok rendered := by
  have each := render_eq_ok h
  have again : rendered.settings.mapM (Setting.render other) = .ok rendered.settings := by
    rw [mapM_eq_ok]
    generalize settings.settings = source, rendered.settings = filled at each ⊢
    induction each with
    | nil => exact .nil
    | cons own _ ih => exact .cons (Setting.render_of_token (Setting.render_eq_ok own).2 other) ih
  rw [render, again]
  rfl

/-- The probe decides for all accepted variants that define the placeholders: settings are valid
if and only if their names are identifiers and they can be filled, and whether they can be filled
does not depend on the values of the variant. Settings that were filled have the same names in the
same order, and no variant changes them any more.
-/
theorem probe_decides (settings : Settings) (accepted : Variant.ofParams params = .ok variant)
    (defined : settings.DefinedBy variant)
    : (settings.validate = .ok ()
        ↔ (∀ setting ∈ settings.settings, isIdentifier setting.name = true)
          ∧ ∃ rendered, settings.render variant = .ok rendered)
      ∧ (∀ (params : List (String × String)) (other : Variant),
          Variant.ofParams params = .ok other →
          settings.DefinedBy other →
          ((∃ rendered, settings.render variant = .ok rendered)
            ↔ ∃ rendered, settings.render other = .ok rendered))
      ∧ ∀ (filler : Variant) (rendered : Settings),
          settings.render filler = .ok rendered →
          rendered.settings.map (·.name) = settings.settings.map (·.name)
          ∧ ∀ other, rendered.render other = .ok rendered := by
  refine ⟨?_, ?_, ?_⟩
  · rw [exists_render_iff accepted defined, validate_iff]
    exact forall₂_and
  · intro params other accepted' defined'
    rw [exists_render_iff accepted defined, exists_render_iff accepted' defined']
  · intro filler rendered filled
    exact ⟨names_of_render filled, render_of_render filled⟩

/-- Two placeholders side by side, and one before a literal. -/
theorem probe_decides_adjacent
    : ∃ (settings : Settings) (variant : Variant) (rendered : Settings),
        Variant.ofParams variant.params = .ok variant
        ∧ settings.DefinedBy variant
        ∧ settings.validate = .ok ()
        ∧ settings.render variant = .ok rendered
        ∧ rendered.settings = [⟨"work_mem", "64kB"⟩, ⟨"_seed", "a.9"⟩]
        ∧ ∀ other, rendered.render other = .ok rendered := by
  let settings : Settings := {
    settings := [⟨"work_mem", "\x7bmem\x7dkB"⟩, ⟨"_seed", "\x7bleft\x7d\x7bright\x7d"⟩]
  }
  let variant : Variant := ⟨[("mem", "64"), ("left", "a."), ("right", "9")]⟩
  have accepted : Variant.ofParams variant.params = .ok variant :=
    toOption_eq_some.mp (by decide +kernel)
  have used : settings.placeholders = .ok ["mem", "left", "right"] :=
    toOption_eq_some.mp (by decide +kernel)
  have defined : settings.DefinedBy variant := by
    intro names read
    obtain rfl := Except.ok.inj (used.symm.trans read)
    simp only [List.forall_mem_cons, List.not_mem_nil, false_implies, implies_true, and_true]
    exact ⟨⟨"64", rfl⟩, ⟨"a.", rfl⟩, ⟨"9", rfl⟩⟩
  obtain ⟨probed, _, kept⟩ := probe_decides settings accepted defined
  have valid : settings.validate = .ok () := toOption_eq_some.mp (by decide +kernel)
  obtain ⟨_, rendered, filled⟩ := probed.mp valid
  have values : (settings.render variant).toOption
      = some ⟨[⟨"work_mem", "64kB"⟩, ⟨"_seed", "a.9"⟩]⟩ := by
    decide +kernel
  obtain rfl := Option.some.inj ((toOption_eq_some.mpr filled).symm.trans values)
  exact ⟨settings, variant, _, accepted, defined, valid, filled, rfl, (kept variant _ filled).2⟩

end Settings

end JoinLatency

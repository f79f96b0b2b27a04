import JoinLatency.Proofs.Outcome
import JoinLatency.Sweep.Run

/-! What an accepted configuration promises to its sweep. Every part was checked, and a variant of
the space has a value for every axis, so that its query, its settings and its paths have texts.
-/

namespace JoinLatency

-----------------------------------------------------------------------------------------
-- Variants of a space
-----------------------------------------------------------------------------------------

/-- A choice has a value for each axis, by induction along the axes. -/
theorem ParamSpace.names_of_choice {axes : List Axis} {params : List (String × String)}
    (member : params ∈ choices axes)
    : params.map (·.1) = axes.map (·.name) := by
  induction axes generalizing params with
  | nil =>
      obtain rfl := List.mem_singleton.mp member
      rfl
  | cons axis rest ih =>
      obtain ⟨value, _, more⟩ := List.mem_flatMap.mp member
      obtain ⟨others, later, rfl⟩ := List.mem_map.mp more
      simp [ih later]

theorem ParamSpace.names_of_mem {space : ParamSpace} {variant : Variant}
    (member : variant ∈ space.variants)
    : variant.params.map (·.1) = space.axes.map (·.name) := by
  obtain ⟨params, choice, rfl⟩ := List.mem_map.mp member
  exact names_of_choice choice

theorem Variant.exists_get? {variant : Variant} {name : String}
    (member : name ∈ variant.params.map (·.1))
    : ∃ value, variant.get? name = some value := by
  obtain ⟨params⟩ := variant
  rw [get?]
  induction params with
  | nil => cases member
  | cons param rest ih =>
      by_cases same : name = param.1
      · exact ⟨param.2, by rw [List.lookup_cons, beq_iff_eq.mpr same]⟩
      · obtain ⟨value, found⟩ := ih ((List.mem_cons.mp member).resolve_left same)
        exact ⟨value, by rw [List.lookup_cons, beq_eq_false_iff_ne.mpr same, found]⟩

/-- A group has the values of its variants for the names that it is made of, by induction along
them. A name that is repeated comes with the same value.
-/
theorem Variant.get?_project {variant : Variant} {names : List String} {name value : String}
    (member : name ∈ names) (h : variant.get? name = some value)
    : (variant.project names).get? name = some value := by
  rw [project, get?]
  induction names with
  | nil => cases member
  | cons first rest ih =>
      by_cases same : name = first
      · subst same
        simp [h]
      · have later := ih ((List.mem_cons.mp member).resolve_left same)
        cases other : variant.get? first with
        | none => simpa [other] using later
        | some value' =>
            simpa [other, List.lookup_cons, beq_eq_false_iff_ne.mpr same] using later

/-- A variant of a space has a value for every axis. -/
theorem ParamSpace.exists_get? {space : ParamSpace} {variant : Variant}
    (member : variant ∈ space.variants) {axis : Axis} (there : axis ∈ space.axes)
    : ∃ value, variant.get? axis.name = some value := by
  apply Variant.exists_get?
  rw [names_of_mem member]
  exact List.mem_map_of_mem there

/-- A template has a text where its placeholders have values, by induction along its segments. -/
theorem Template.exists_renderWith {template : Template} {lookup : String → Option String}
    (known : ∀ name ∈ template.placeholders, ∃ value, lookup name = some value)
    : ∃ text, template.renderWith lookup = .ok text := by
  obtain ⟨source, segments⟩ := template
  simp only [placeholders, renderWith] at known ⊢
  induction segments with
  | nil => exact ⟨"", rfl⟩
  | cons segment rest ih =>
      cases segment with
      | literal text =>
          obtain ⟨later, rendered⟩ := ih (by simpa [Segment.name?] using known)
          exact ⟨text ++ later, by rw [renderSegments, rendered, Except.map]⟩
      | placeholder name =>
          have names : (Segment.placeholder name :: rest).filterMap Segment.name?
              = name :: rest.filterMap Segment.name? := rfl
          rw [names, List.forall_mem_cons] at known
          obtain ⟨value, here⟩ := known.1
          obtain ⟨later, rendered⟩ := ih known.2
          exact ⟨value ++ later, by simp only [renderSegments, here, rendered, Except.map]⟩

-----------------------------------------------------------------------------------------
-- Accepted configurations
-----------------------------------------------------------------------------------------

namespace Config

/-- The checks that a valid configuration has passed, and the parts that it is made of. -/
structure Passed (config : Config) (grammar : Grammar) (timer : Timer Float) (space : ParamSpace)
    (query : QueryTemplate) : Prop where
  timer_eq : config.timer = .ok timer
  space_eq : config.space = .ok space
  query_eq : config.queryTemplate grammar = .ok query
  repetitions : config.repetitions ≠ 0
  groups : config.checkGroups space = .ok ()
  detail : config.checkDetail space = .ok ()
  summary : config.checkSummary = .ok ()
  variants : ∀ variant ∈ space.variants, config.checkVariant query variant = .ok ()

theorem passed_of_validate {config : Config} {grammar : Grammar}
    (h : config.validate grammar = .ok ())
    : ∃ timer space query, config.Passed grammar timer space query := by
  simp only [validate, bind_eq_ok] at h
  obtain ⟨timer, ht, _, _, checks⟩ := h
  split at checks
  · simp only [bind_eq_ok] at checks
    obtain ⟨_, refused, _⟩ := checks
    cases refused
  next repetitions =>
    simp only [bind_eq_ok] at checks
    obtain ⟨space, hs, _, groups, _, detail, _, summary, _, _, query, hq, variants⟩ := checks
    exact ⟨timer, space, query, ht, hs, hq, repetitions, groups, detail, summary,
      forM_eq_ok.mp variants⟩

theorem axes_of_checkGroups {config : Config} {space : ParamSpace}
    (h : config.checkGroups space = .ok ()) {name : String} (member : name ∈ config.groupBy)
    : ∃ axis ∈ space.axes, axis.name = name := by
  have checked := forM_eq_ok.mp h name member
  split at checked
  next found => simpa [List.any_eq_true] using found
  · cases checked

theorem known_of_checkDetail {config : Config} {space : ParamSpace}
    (h : config.checkDetail space = .ok ())
    : ∃ template,
        config.detailTemplate = .ok template
        ∧ ∀ name ∈ template.placeholders, isKnown space name = true := by
  obtain ⟨template, detail, checked⟩ := bind_eq_ok.mp h
  refine ⟨template, detail, fun name member => ?_⟩
  split at checked
  · cases checked
  next unknown => simpa using List.find?_eq_none.mp unknown name member

theorem known_of_checkSummary {config : Config} (h : config.checkSummary = .ok ())
    : ∃ template,
        config.summaryTemplate = .ok template
        ∧ ∀ name ∈ template.placeholders, name = baseName ∨ name ∈ config.groupBy := by
  obtain ⟨template, summary, checked⟩ := bind_eq_ok.mp h
  refine ⟨template, summary, fun name member => ?_⟩
  dsimp only at checked
  split at checked
  · cases checked
  next foreign =>
    have known := List.find?_eq_none.mp foreign name member
    by_cases base : name = baseName
    · exact .inl base
    · exact .inr (by simpa [base] using known)

theorem renders_of_checkVariant {config : Config} {query : QueryTemplate} {variant : Variant}
    (h : config.checkVariant query variant = .ok ())
    : (∃ settings, config.settings.render variant = .ok settings)
      ∧ ∃ sql, query.render variant = .ok sql := by
  simp only [checkVariant, bind_eq_ok] at h
  obtain ⟨settings, hs, sql, hq, _⟩ := h
  exact ⟨⟨settings, hs⟩, sql, hq⟩

end Config

/-- What is known of a sweep whose configuration was accepted. -/
structure Sweep.Accepted (sweep : Sweep) : Prop where
  repetitions : sweep.config.repetitions ≠ 0
  groups : ∀ name ∈ sweep.config.groupBy, ∃ axis ∈ sweep.space.axes, axis.name = name
  detail : ∀ name ∈ sweep.detail.placeholders, Config.isKnown sweep.space name = true
  summary
    : ∀ name ∈ sweep.summary.placeholders,
        name = Config.baseName ∨ name ∈ sweep.config.groupBy
  settings
    : ∀ variant ∈ sweep.space.variants,
        ∃ settings, sweep.config.settings.render variant = .ok settings
  query : ∀ variant ∈ sweep.space.variants, ∃ sql, sweep.query.render variant = .ok sql

/-- A valid configuration has a sweep. -/
theorem Sweep.exists_of_validate {grammar : Grammar} {config : Config}
    (h : config.validate grammar = .ok ())
    : ∃ sweep, Sweep.ofConfig grammar config = .ok sweep ∧ sweep.config = config := by
  obtain ⟨timer, space, query, passed⟩ := Config.passed_of_validate h
  obtain ⟨detail, hd, _⟩ := Config.known_of_checkDetail passed.detail
  obtain ⟨summary, hs, _⟩ := Config.known_of_checkSummary passed.summary
  refine ⟨⟨config, timer, space, query, detail, summary⟩, ?_, rfl⟩
  simp only [Sweep.ofConfig, h, passed.timer_eq, passed.space_eq, passed.query_eq, hd, hs]
  rfl

theorem Sweep.accepted_of_config {grammar : Grammar} {config : Config} {sweep : Sweep}
    (h : Sweep.ofConfig grammar config = .ok sweep)
    : sweep.Accepted := by
  simp only [Sweep.ofConfig, bind_eq_ok] at h
  obtain ⟨_, valid, timer, _, space, hs, query, hq, detail, hd, summary, hm, made⟩ := h
  obtain rfl := Except.ok.inj made
  obtain ⟨_, space', query', passed⟩ := Config.passed_of_validate valid
  obtain ⟨detail', hd', known⟩ := Config.known_of_checkDetail passed.detail
  obtain ⟨summary', hm', grouped⟩ := Config.known_of_checkSummary passed.summary
  obtain rfl := Except.ok.inj (hs.symm.trans passed.space_eq)
  obtain rfl := Except.ok.inj (hq.symm.trans passed.query_eq)
  obtain rfl := Except.ok.inj (hd.symm.trans hd')
  obtain rfl := Except.ok.inj (hm.symm.trans hm')
  have renders (variant : Variant) (member : variant ∈ space.variants) :=
    Config.renders_of_checkVariant (passed.variants variant member)
  exact {
    repetitions := passed.repetitions
    groups := fun name member => Config.axes_of_checkGroups passed.groups member
    detail := known
    summary := grouped
    settings := fun variant member => (renders variant member).1
    query := fun variant member => (renders variant member).2
  }

/-- A name has a value in a path if it stands for the base or is a parameter. -/
theorem exists_pathValue (base : String) {variant : Variant} {name : String}
    (known : name = Config.baseName ∨ ∃ value, variant.get? name = some value)
    : ∃ value, pathValue base variant name = some value := by
  rw [pathValue]
  split
  · exact ⟨base, rfl⟩
  next other => exact known.resolve_left fun same => other (beq_iff_eq.mpr same)

/-- A job of a variant has the texts of its query, its settings and the path of its log. -/
structure Sweep.IsJobOf (sweep : Sweep) (base : String) (variant : Variant) (job : Sweep.Job)
    : Prop where
  query : sweep.query.render variant = .ok job.sql
  settings : sweep.config.settings.render variant = .ok job.settings
  path : sweep.detail.renderWith (pathValue base variant) = .ok job.path

/-- Every variant of an accepted sweep has a job. -/
theorem Sweep.Accepted.exists_job {sweep : Sweep} (h : sweep.Accepted) (base : String)
    {variant : Variant} (member : variant ∈ sweep.space.variants)
    : ∃ job, sweep.IsJobOf base variant job := by
  obtain ⟨sql, query⟩ := h.query variant member
  obtain ⟨settings, rendered⟩ := h.settings variant member
  have values (name : String) (used : name ∈ sweep.detail.placeholders)
      : ∃ value, pathValue base variant name = some value := by
    have known := h.detail name used
    simp only [Config.isKnown, Bool.or_eq_true, List.any_eq_true, beq_iff_eq] at known
    refine exists_pathValue base (known.imp_right ?_)
    rintro ⟨axis, there, rfl⟩
    exact ParamSpace.exists_get? member there
  obtain ⟨path, named⟩ := Template.exists_renderWith values
  exact ⟨⟨sql, settings, path⟩, query, rendered, named⟩

/-- The path of a summary has a text for the group of every variant. -/
theorem Sweep.Accepted.exists_summaryPath {sweep : Sweep} (h : sweep.Accepted) (base : String)
    {variant : Variant} (member : variant ∈ sweep.space.variants)
    : ∃ path, sweep.summary.renderWith (pathValue base (sweep.groupOf variant)) = .ok path := by
  refine Template.exists_renderWith fun name used => ?_
  refine exists_pathValue base ((h.summary name used).imp_right fun grouped => ?_)
  obtain ⟨axis, there, rfl⟩ := h.groups name grouped
  obtain ⟨value, mine⟩ := ParamSpace.exists_get? member there
  exact ⟨value, Variant.get?_project grouped mine⟩

theorem Sweep.IsJobOf.job_eq {sweep : Sweep} {base : String} {variant : Variant}
    {job : Sweep.Job} (h : sweep.IsJobOf base variant job)
    : sweep.job variant base job.sql = .ok job := by
  simp [Sweep.job, h.settings, h.path, bind, Except.bind, pure, Except.pure]

/-- A variant with a job runs it. -/
theorem Sweep.runVariant_of_job {S C D W : Type} [RowSource C] [Session S C] [Sink W]
    [Storage D W] {sweep : Sweep} {base : String} {variant : Variant} {job : Sweep.Job}
    (h : sweep.IsJobOf base variant job) (bench : Bench S D)
    : sweep.runVariant base variant bench = sweep.runJob job bench := by
  simp only [runVariant, h.query, h.job_eq]

end JoinLatency

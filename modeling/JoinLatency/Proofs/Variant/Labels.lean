import JoinLatency.Proofs.Sweep.Partition
import JoinLatency.Proofs.Variant.Space
import JoinLatency.Proofs.Variant.Token

/-! Labels of variants. No checked name holds an equals sign and no checked value a comma, so that
a label is taken apart at its separators in one way only, and the labels in a report tell its
variants and its groups apart.
-/

namespace JoinLatency

namespace Variant

-----------------------------------------------------------------------------------------
-- Variants that were admitted
-----------------------------------------------------------------------------------------

/-- A variant that was accepted, or the group of such a variant under any names. -/
inductive Admitted : Variant → Prop
  | accepted {params : List (String × String)} {variant : Variant}
    (h : ofParams params = .ok variant)
    : Admitted variant
  | projected {params : List (String × String)} {variant : Variant}
    (h : ofParams params = .ok variant) (names : List String)
    : Admitted (variant.project names)

/-- All names of a variant are identifiers and all its values are tokens. -/
def Checked (variant : Variant) : Prop :=
  ∀ param ∈ variant.params, isIdentifier param.1 = true ∧ isToken param.2 = true

/-- Accepted parameters were checked one by one, by induction along them. -/
theorem checked_of_checkParams {seen : List String} {params : List (String × String)}
    (h : checkParams seen params = .ok ())
    : Checked ⟨params⟩ := by
  induction params generalizing seen with
  | nil => exact List.forall_mem_nil _
  | cons param rest ih =>
      obtain ⟨name, value⟩ := param
      simp only [checkParams, bind_eq_ok] at h
      obtain ⟨_, identifier, _, token, later⟩ := h
      split at later
      · cases later
      · exact List.forall_mem_cons.mpr
          ⟨⟨checkIdentifier_eq_ok.mp identifier, checkToken_eq_ok.mp token⟩, ih later⟩

/-- The value of a name stands with it among the parameters, by induction along them. -/
theorem mem_of_get? {variant : Variant} {name value : String} (h : variant.get? name = some value)
    : (name, value) ∈ variant.params := by
  obtain ⟨params⟩ := variant
  rw [get?] at h
  induction params with
  | nil => cases h
  | cons param rest ih =>
      obtain ⟨other, content⟩ := param
      rw [List.lookup_cons] at h
      split at h
      next same =>
        obtain rfl := Option.some.inj h
        rw [beq_iff_eq.mp same]
        exact List.mem_cons_self
      next => exact List.mem_cons_of_mem _ (ih h)

/-- A group has parameters of its variants only. -/
theorem Checked.project {variant : Variant} (h : variant.Checked) (names : List String)
    : (variant.project names).Checked := by
  intro param member
  obtain ⟨name, _, found⟩ := List.mem_filterMap.mp member
  obtain ⟨value, present, rfl⟩ := Option.map_eq_some_iff.mp found
  exact h _ (mem_of_get? present)

theorem checked_of_ofParams {params : List (String × String)} {variant : Variant}
    (h : ofParams params = .ok variant)
    : variant.Checked := by
  obtain ⟨_, checked, made⟩ := bind_eq_ok.mp h
  obtain rfl := Except.ok.inj made
  exact checked_of_checkParams checked

theorem Admitted.checked {variant : Variant} (h : variant.Admitted) : variant.Checked := by
  cases h with
  | accepted accepted => exact checked_of_ofParams accepted
  | projected accepted names => exact (checked_of_ofParams accepted).project names

-----------------------------------------------------------------------------------------
-- Labels
-----------------------------------------------------------------------------------------

/-- Parameters in a text in which each of them, the last one too, is closed by a separator. -/
def closedText (params : List (String × String)) : List Char :=
  params.flatMap fun param => param.1.toList ++ '=' :: (param.2.toList ++ [',', ' '])

/-- Parts between separators are the parts that a separator closes, less the last one, by induction
along the parts.
-/
theorem intercalate_append {α : Type} (separator : List α) {parts : List (List α)}
    (some : parts ≠ [])
    : separator.intercalate parts ++ separator = parts.flatMap (· ++ separator) := by
  induction parts with
  | nil => exact absurd rfl some
  | cons part rest ih =>
      cases rest with
      | nil => simp
      | cons next rest =>
          have later := ih (List.cons_ne_nil next rest)
          rw [List.flatMap_cons, ← later, List.intercalate_cons_cons, List.append_assoc,
            List.append_assoc]

/-- A label lacks nothing but the last separator. -/
theorem label_append {variant : Variant} (some : variant.params ≠ [])
    : variant.label.toList ++ [',', ' '] = closedText variant.params := by
  have filled : variant.isEmpty = false := by simpa [isEmpty] using some
  have separator : ", ".toList = [',', ' '] := rfl
  rw [label, filled, if_neg (by decide), String.toList_intercalate, separator,
    intercalate_append _ (by simpa using some), List.map_map, List.flatMap_map]
  refine List.flatMap_congr fun param _ => ?_
  simp [paramLabel]

theorem label_of_empty {variant : Variant} (none : variant.params = [])
    : variant.label = "(default)" := by
  rw [label, isEmpty, none]
  rfl

/-- The label of parameters holds an equals sign, and so is not that of a variant without any. -/
theorem label_eq_default_iff {variant : Variant}
    : variant.label = "(default)" ↔ variant.params = [] := by
  refine ⟨fun same => ?_, label_of_empty⟩
  by_contra some
  obtain ⟨param, rest, split⟩ := List.exists_cons_of_ne_nil some
  have sign : '=' ∈ closedText variant.params := by simp [closedText, split]
  rw [← label_append some, same] at sign
  exact absurd sign (by decide)

/-- What separates the parts of a label occurs neither in the names nor in the values. -/
theorem Checked.foreign {variant : Variant} (h : variant.Checked) {param : String × String}
    (member : param ∈ variant.params)
    : '=' ∉ param.1.toList ∧ ',' ∉ param.2.toList := by
  obtain ⟨name, value⟩ := h param member
  constructor
  · intro sign
    exact absurd (isTokenChar_of_isIdentifier name '=' sign) (by decide)
  · intro comma
    exact absurd (isTokenChar_of_isToken value ',' comma) (by decide)

/-- Texts with the same separator part at its first occurrence alike, by induction along what is
before it.
-/
theorem eq_of_append_cons {α : Type} {separator : α} {left right after other : List α}
    (hl : separator ∉ left) (hr : separator ∉ right)
    (same : left ++ separator :: after = right ++ separator :: other)
    : left = right ∧ after = other := by
  induction left generalizing right with
  | nil =>
      cases right with
      | nil => exact ⟨rfl, (List.cons.inj same).2⟩
      | cons first rest => exact absurd ((List.cons.inj same).1 ▸ List.mem_cons_self) hr
  | cons first rest ih =>
      cases right with
      | nil => exact absurd ((List.cons.inj same).1 ▸ List.mem_cons_self) hl
      | cons own others =>
          obtain ⟨rfl, later⟩ := List.cons.inj same
          rw [List.mem_cons, not_or] at hl hr
          obtain ⟨rfl, tails⟩ := ih hl.2 hr.2 later
          exact ⟨rfl, tails⟩

/-- Two closed texts of checked parameters are peeled pair by pair: up to the first equals sign
both have the same name, and from there up to the first comma the same value.
-/
theorem closedText_injective {left right : List (String × String)} (hl : Checked ⟨left⟩)
    (hr : Checked ⟨right⟩) (same : closedText left = closedText right)
    : left = right := by
  induction left generalizing right with
  | nil =>
      cases right with
      | nil => rfl
      | cons param rest => simp [closedText] at same
  | cons param rest ih =>
      cases right with
      | nil => simp [closedText] at same
      | cons other others =>
          obtain ⟨ownName, ownValue⟩ := hl.foreign List.mem_cons_self
          obtain ⟨otherName, otherValue⟩ := hr.foreign List.mem_cons_self
          simp only [closedText, List.flatMap_cons, List.append_assoc, List.cons_append,
            List.nil_append] at same
          obtain ⟨names, tails⟩ := eq_of_append_cons ownName otherName same
          obtain ⟨values, later⟩ := eq_of_append_cons ownValue otherValue tails
          have first : param = other :=
            Prod.ext (String.toList_injective names) (String.toList_injective values)
          have more : rest = others :=
            ih (List.forall_mem_cons.mp hl).2 (List.forall_mem_cons.mp hr).2
              (List.cons.inj later).2
          rw [first, more]

/-- Checked variants with the same label are the same. -/
theorem Checked.eq_of_label {left right : Variant} (hl : left.Checked) (hr : right.Checked)
    (same : left.label = right.label)
    : left = right := by
  have params : left.params = right.params := by
    by_cases none : left.params = []
    · rw [label_of_empty none] at same
      rw [none, label_eq_default_iff.mp same.symm]
    · have some : right.params ≠ [] := by
        rw [Ne, ← label_eq_default_iff, ← same, label_eq_default_iff]
        exact none
      refine closedText_injective hl hr ?_
      rw [← label_append none, ← label_append some, same]
  cases left
  cases right
  exact congrArg mk params

/-- Labels of checked variants repeat if and only if the variants do. -/
theorem nodup_labels_iff {variants : List Variant} (h : ∀ variant ∈ variants, variant.Checked)
    : (variants.map label).Nodup ↔ variants.Nodup := by
  refine ⟨List.Nodup.of_map label, fun distinct => ?_⟩
  exact distinct.map_on fun left hl right hr same => (h left hl).eq_of_label (h right hr) same

end Variant

-----------------------------------------------------------------------------------------
-- Labels in reports
-----------------------------------------------------------------------------------------

namespace Sweep

variable {grammar : Grammar} {config : Config} {sweep : Sweep}

theorem space_of_config (h : Sweep.ofConfig grammar config = .ok sweep)
    : ParamSpace.ofAxes config.axes = .ok sweep.space := by
  simp only [Sweep.ofConfig, bind_eq_ok] at h
  obtain ⟨_, _, timer, _, space, spanned, query, _, detail, _, summary, _, made⟩ := h
  obtain rfl := Except.ok.inj made
  exact spanned

/-- Summaries are labelled by the distinct groups. -/
theorem Concludes.groups {S C D W : Type} [RowSource C] [Session S C] [Sink W] [Storage D W]
    {detailBase summaryBase : String} {bench middle last : Bench S D}
    {runs : List (Variant × VariantRun)} {report : Report}
    (h : sweep.Concludes detailBase summaryBase bench runs middle report last)
    : report.summaries.map (·.group)
      = (distinct (sweep.space.variants.map sweep.groupOf)).map Variant.label := by
  have labels := congrArg (List.map (·.1)) h.summaries_content
  rw [List.map_map, List.map_map] at labels
  exact labels

/-- Variants that were accepted, and groups of such variants, are the same if they have the same
label, and no variant with parameters has the label of the one without any. So the summaries in a
report have different labels, and its variants have if and only if no axis repeats a value. Only
the clock of a session that is not steady ends a sweep before its report.
-/
theorem labels_identify (S D : Type) {C W : Type} [RowSource C] [Session S C] [Sink W] [Storage D W]
    : (∀ left right : Variant,
          left.Admitted → right.Admitted → left.label = right.label → left = right)
      ∧ (∀ variant : Variant, variant.label = "(default)" ↔ variant.params = [])
      ∧ ∀ (grammar : Grammar) (config : Config) (sweep : Sweep),
          Sweep.ofConfig grammar config = .ok sweep →
          (∀ variant ∈ sweep.space.variants,
            variant.Admitted ∧ (sweep.groupOf variant).Admitted)
          ∧ ∀ (detailBase summaryBase : String) (bench : Bench S D),
              (∀ error, (sweep.run detailBase summaryBase bench).1 = .error error →
                error = .clockOverflow ∧ ¬ Session.Steady S)
              ∧ ∀ report last, sweep.run detailBase summaryBase bench = (.ok report, last) →
                  (report.summaries.map (·.group)).Nodup
                  ∧ ((report.variants.map (·.variant)).Nodup
                    ↔ ∀ axis ∈ config.axes, axis.values.Nodup) := by
  refine ⟨fun left right hl hr same => hl.checked.eq_of_label hr.checked same,
    fun variant => Variant.label_eq_default_iff, fun grammar config sweep accepted => ?_⟩
  have promised := Sweep.accepted_of_config accepted
  have spanned := space_of_config accepted
  have admitted (variant : Variant) (member : variant ∈ sweep.space.variants)
      : variant.Admitted ∧ (sweep.groupOf variant).Admitted := by
    have own := ParamSpace.ofParams_of_mem spanned member
    exact ⟨.accepted own, .projected own sweep.config.groupBy⟩
  refine ⟨admitted, fun detailBase summaryBase bench =>
    ⟨fun error failed => promised.overflow_of_steady failed, fun report last ran => ?_⟩⟩
  obtain ⟨runs, middle, concludes⟩ := concludes_of_run ran
  constructor
  · have firsts := firstOccurrences_distinct (sweep.space.variants.map sweep.groupOf)
    rw [concludes.groups, Variant.nodup_labels_iff]
    · exact firsts.nodup
    · intro group member
      obtain ⟨variant, there, rfl⟩ := List.mem_map.mp ((firsts.mem_iff group).mp member)
      exact (admitted variant there).2.checked
  · rw [concludes.toReports.labels, Variant.nodup_labels_iff, ParamSpace.nodup_variants_iff spanned]
    exact fun variant member => (admitted variant member).1.checked

/-- A group with the label of an accepted variant is that variant, and a sweep with a repeated value
has two groups with a summary each.
-/
theorem labels_identify_repeated_value
    : ∃ (whole alone : Variant) (config : Config) (sweep : Sweep)
        (bench last : Bench SyntheticSession Files) (report : Report),
        Variant.ofParams [("size", "0.1"), ("skew", "1_5")] = .ok whole
        ∧ Variant.ofParams [("skew", "1_5")] = .ok alone
        ∧ (whole.project ["skew", "none"]).label = "skew=1_5"
        ∧ alone.label = "skew=1_5"
        ∧ whole.project ["skew", "none"] = alone
        ∧ Sweep.ofConfig Sql.statements? config = .ok sweep
        ∧ sweep.run "detail" "summary" bench = (.ok report, last)
        ∧ report.summaries.map (·.group) = ["g=0", "g=1"]
        ∧ (report.summaries.map (·.group)).Nodup
        ∧ ¬ (report.variants.map (·.variant)).Nodup := by
  let whole : Variant := ⟨[("size", "0.1"), ("skew", "1_5")]⟩
  let alone : Variant := ⟨[("skew", "1_5")]⟩
  let config : Config := {
    checkpoints := [2]
    query := "select * from t{g}_{h}"
    axes := [⟨"g", ["0", "1"]⟩, ⟨"h", ["0", "0"]⟩]
    groupBy := ["g"]
    settings := {}
  }
  let session : SyntheticSession := { rows := 2, delay := .ofParts 1 0 }
  let bench : Bench SyntheticSession Files := { session, files := {}, epoch := ⟨0, 0⟩ }
  have madeWhole : Variant.ofParams whole.params = .ok whole :=
    toOption_eq_some.mp (by decide +kernel)
  have madeAlone : Variant.ofParams alone.params = .ok alone :=
    toOption_eq_some.mp (by decide +kernel)
  have label : (whole.project ["skew", "none"]).label = "skew=1_5" := by decide +kernel
  have label' : alone.label = "skew=1_5" := by decide +kernel
  obtain ⟨sweep, accepted, report, there, groups⟩ := Sweep.exists_of_config config
    (fun sweep => ∃ report ∈ (sweep.run "detail" "summary" bench).1.toOption,
      report.summaries.map (·.group) = ["g=0", "g=1"])
    (by decide +kernel)
  obtain ⟨same, _, reports⟩ := labels_identify SyntheticSession Files
  obtain ⟨_, reported⟩ := (reports _ config sweep accepted).2 "detail" "summary" bench
  obtain ⟨summaries, variants⟩ := reported report _ (run_of_mem there)
  refine ⟨whole, alone, config, sweep, bench, _, report, madeWhole, madeAlone, label, label', ?_,
    accepted, run_of_mem there, groups, summaries, ?_⟩
  · exact same _ _ (.projected madeWhole _) (.accepted madeAlone) (label.trans label'.symm)
  · rw [variants]
    decide

end Sweep

end JoinLatency

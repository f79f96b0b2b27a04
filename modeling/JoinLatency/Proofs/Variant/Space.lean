import JoinLatency.Proofs.Config.Acceptance
import Mathlib

/-! Points of a parameter space. The index of a point is a number whose digits are the places of
its values, the digit of the first axis leading. Every point passes the checks of a variant.
-/

namespace JoinLatency

namespace ParamSpace

-----------------------------------------------------------------------------------------
-- Points in their order
-----------------------------------------------------------------------------------------

/-- The choices of some axes pair the values of the first one with the choices of the others. -/
theorem choices_cons (axis : Axis) (rest : List Axis)
    : choices (axis :: rest)
      = (axis.values ×ˢ choices rest).map fun pair => (axis.name, pair.1) :: pair.2 := by
  simp only [choices, SProd.sprod, List.product, List.map_flatMap, List.map_map, Function.comp_def]

theorem size_cons (axis : Axis) (rest : List Axis)
    : size ⟨axis :: rest⟩ = axis.values.length * size ⟨rest⟩ :=
  rfl

theorem length_choices (axes : List Axis) : (choices axes).length = size ⟨axes⟩ := by
  induction axes with
  | nil => rfl
  | cons axis rest ih =>
      rw [choices_cons, List.length_map, List.length_product, ih, size_cons]

/-- The points between two values of an axis are those of the axes after it, so that its values
take turns within the size of a space.
-/
theorem dvd_size {axes : List Axis} {place : Nat} {axis : Axis} (there : axes[place]? = some axis)
    : size ⟨axes.drop (place + 1)⟩ * axis.values.length ∣ size ⟨axes⟩ := by
  induction axes generalizing place with
  | nil => cases there
  | cons first rest ih =>
      cases place with
      | zero =>
          obtain rfl := Option.some.inj there
          exact ⟨1, by rw [Nat.mul_one, size_cons, Nat.mul_comm]; rfl⟩
      | succ place => exact Nat.dvd_trans (ih there) (Nat.dvd_mul_left _ _)

/-- Pairs are ordered by their left parts, by induction along these. -/
theorem getElem?_product {α β : Type} {left : List α} {right : List β} {index : Nat} {first : α}
    {second : β} (outer : left[index / right.length]? = some first)
    (inner : right[index % right.length]? = some second)
    : (left ×ˢ right)[index]? = some (first, second) := by
  induction left generalizing index with
  | nil => cases outer
  | cons head rest ih =>
      rw [List.product_cons]
      by_cases early : index < right.length
      · rw [Nat.div_eq_of_lt early] at outer
        rw [Nat.mod_eq_of_lt early] at inner
        obtain rfl := Option.some.inj outer
        rw [List.getElem?_append_left (by simpa using early), List.getElem?_map, inner]
        rfl
      · have positive : 0 < right.length := by
          by_contra none
          simp [List.length_eq_zero_iff.mp (Nat.eq_zero_of_not_pos none)] at inner
        have late : right.length ≤ index := Nat.le_of_not_lt early
        rw [Nat.div_eq_sub_div positive late] at outer
        rw [Nat.mod_eq_sub_mod late] at inner
        rw [List.getElem?_append_right (by simpa using late), List.length_map]
        exact ih outer inner

/-- The parameters of the point at an index: each axis has a parameter, and its value is the one
at a digit of the index.
-/
structure IsPoint (axes : List Axis) (index : Nat) (params : List (String × String)) : Prop where
  length : params.length = axes.length
  param
    : ∀ place axis, axes[place]? = some axis →
        ∃ value,
          axis.values[index / size ⟨axes.drop (place + 1)⟩ % axis.values.length]? = some value
          ∧ params[place]? = some (axis.name, value)

/-- A leading axis has the leading digit, and the digits of the others are those of the rest. -/
theorem IsPoint.cons {axis : Axis} {rest : List Axis} {index : Nat} {value : String}
    {params : List (String × String)}
    (first : axis.values[index / size ⟨rest⟩]? = some value)
    (others : IsPoint rest (index % size ⟨rest⟩) params)
    : IsPoint (axis :: rest) index ((axis.name, value) :: params) := by
  constructor
  · rw [List.length_cons, List.length_cons, others.length]
  · intro place later there
    cases place with
    | zero =>
        obtain rfl := Option.some.inj there
        obtain ⟨bound, _⟩ := List.getElem?_eq_some_iff.mp first
        refine ⟨value, ?_, rfl⟩
        rw [List.drop_succ_cons, List.drop_zero, Nat.mod_eq_of_lt bound]
        exact first
    | succ place =>
        obtain ⟨other, digit, here⟩ := others.param place later there
        have there : rest[place]? = some later := there
        obtain ⟨turns, whole⟩ := dvd_size there
        refine ⟨other, ?_, here⟩
        rw [whole, Nat.mul_assoc, Nat.mod_mul_right_div_self,
          Nat.mod_mod_of_dvd _ (Nat.dvd_mul_right _ _)] at digit
        exact digit

/-- Every index below the size has its point, by induction along the axes. -/
theorem exists_point {axes : List Axis} {index : Nat} (bound : index < size ⟨axes⟩)
    : ∃ params, (choices axes)[index]? = some params ∧ IsPoint axes index params := by
  induction axes generalizing index with
  | nil =>
      obtain rfl := Nat.lt_one_iff.mp bound
      exact ⟨[], rfl, rfl, by simp⟩
  | cons axis rest ih =>
      rw [size_cons] at bound
      have positive : 0 < size ⟨rest⟩ := Nat.pos_of_mul_pos_left (Nat.zero_lt_of_lt bound)
      have outer : index / size ⟨rest⟩ < axis.values.length :=
        (Nat.div_lt_iff_lt_mul positive).mpr bound
      obtain ⟨params, inner, point⟩ := ih (Nat.mod_lt index positive)
      have first := List.getElem?_eq_getElem outer
      refine ⟨_, ?_, point.cons first⟩
      rw [choices_cons, List.getElem?_map, getElem?_product
        (by rw [length_choices]; exact first) (by rw [length_choices]; exact inner)]
      rfl

/-- The points are also built from the left, where each axis extends the choices of the axes
before it.
-/
def extend (chosen : List (List (String × String))) (axis : Axis)
    : List (List (String × String)) :=
  chosen.flatMap fun params => axis.values.map fun value => params ++ [(axis.name, value)]

/-- Axes extend every choice so far by each of their own choices, by induction along them. -/
theorem foldl_extend (axes : List Axis) (chosen : List (List (String × String)))
    : axes.foldl extend chosen
      = chosen.flatMap fun params => (choices axes).map (params ++ ·) := by
  induction axes generalizing chosen with
  | nil => simp [choices]
  | cons axis rest ih =>
      rw [List.foldl_cons, ih, extend]
      simp only [choices, List.flatMap_assoc, List.flatMap_map, List.map_flatMap, List.map_map,
        Function.comp_def, List.append_assoc, List.singleton_append]

theorem variants_eq_foldl (space : ParamSpace)
    : space.variants = (space.axes.foldl extend [[]]).map Variant.mk := by
  rw [foldl_extend]
  simp [variants]

-----------------------------------------------------------------------------------------
-- Choices of values
-----------------------------------------------------------------------------------------

/-- Choices differ if no axis repeats a value, by induction along the axes. -/
theorem nodup_choices {axes : List Axis} (distinct : ∀ axis ∈ axes, axis.values.Nodup)
    : (choices axes).Nodup := by
  induction axes with
  | nil => exact List.nodup_singleton []
  | cons axis rest ih =>
      obtain ⟨first, others⟩ := List.forall_mem_cons.mp distinct
      rw [choices_cons]
      refine (first.product (ih others)).map ?_
      intro left right same
      simp only [List.cons.injEq, Prod.mk.injEq, true_and] at same
      exact Prod.ext same.1 same.2

/-- Axes with values have a choice, by induction along them. -/
theorem exists_choice {axes : List Axis} (some : ∀ axis ∈ axes, axis.values ≠ [])
    : ∃ params, params ∈ choices axes := by
  induction axes with
  | nil => exact ⟨[], List.mem_singleton_self []⟩
  | cons axis rest ih =>
      obtain ⟨here, others⟩ := List.forall_mem_cons.mp some
      obtain ⟨value, member⟩ := List.exists_mem_of_ne_nil _ here
      obtain ⟨params, later⟩ := ih others
      exact ⟨_, List.mem_flatMap.mpr ⟨value, member, List.mem_map_of_mem later⟩⟩

/-- Choices of axes with values differ if and only if no axis repeats a value: two choices that
begin with the same value of an axis share the choices of the axes after it.
-/
theorem nodup_choices_iff {axes : List Axis} (some : ∀ axis ∈ axes, axis.values ≠ [])
    : (choices axes).Nodup ↔ ∀ axis ∈ axes, axis.values.Nodup := by
  refine ⟨fun distinct => ?_, nodup_choices⟩
  induction axes with
  | nil => exact List.forall_mem_nil _
  | cons axis rest ih =>
      obtain ⟨here, others⟩ := List.forall_mem_cons.mp some
      rw [choices, List.nodup_flatMap] at distinct
      obtain ⟨inner, apart⟩ := distinct
      refine List.forall_mem_cons.mpr ⟨?_, ih others ?_⟩
      · refine apart.imp ?_
        rintro value _ disjoint rfl
        obtain ⟨params, member⟩ := exists_choice others
        have there := List.mem_map_of_mem (f := ((axis.name, value) :: ·)) member
        exact disjoint there there
      · obtain ⟨value, member⟩ := List.exists_mem_of_ne_nil _ here
        exact (inner value member).of_map _

/-- A value for each axis makes a choice, by induction along the axes. -/
theorem mem_choices {axes : List Axis} {values : List String}
    (chosen : List.Forall₂ (fun value axis => value ∈ axis.values) values axes)
    : (axes.map (·.name)).zip values ∈ choices axes := by
  induction chosen with
  | nil => exact List.mem_singleton_self []
  | cons here _ ih =>
      rw [choices_cons, List.map_cons, List.zip_cons_cons]
      exact List.mem_map.mpr ⟨_, List.mem_product.mpr ⟨here, ih⟩, rfl⟩

-----------------------------------------------------------------------------------------
-- Accepted axes
-----------------------------------------------------------------------------------------

theorem checkValues_eq_ok {name : String} {values : List String}
    : checkValues name values = .ok () ↔ ∀ value ∈ values, checkToken name value = .ok () := by
  induction values with
  | nil => simp [checkValues]
  | cons value rest ih =>
      rw [checkValues, bind_eq_ok, ih, List.forall_mem_cons]
      exact ⟨fun ⟨_, first, later⟩ => ⟨first, later⟩, fun h => ⟨(), h⟩⟩

/-- What is known of the first axis when axes are accepted after some names. -/
structure AcceptedAfter (seen : List String) (axis : Axis) : Prop where
  identifier : checkIdentifier axis.name = .ok ()
  fresh : seen.contains axis.name = false
  some : axis.values.isEmpty = false
  tokens : ∀ value ∈ axis.values, checkToken axis.name value = .ok ()

theorem checkAxes_cons {seen : List String} {axis : Axis} {rest : List Axis}
    (accepted : checkAxes seen (axis :: rest) = .ok ())
    : AcceptedAfter seen axis ∧ checkAxes (axis.name :: seen) rest = .ok () := by
  simp only [checkAxes, bind_eq_ok] at accepted
  obtain ⟨_, identifier, checks⟩ := accepted
  split at checks
  · obtain ⟨_, repeated, _⟩ := bind_eq_ok.mp checks
    cases repeated
  next fresh =>
    split at checks
    · obtain ⟨_, none, _⟩ := bind_eq_ok.mp checks
      cases none
    next some =>
      obtain ⟨_, tokens, others⟩ := bind_eq_ok.mp checks
      exact ⟨⟨identifier, Bool.eq_false_iff.mpr fresh, Bool.eq_false_iff.mpr some,
        checkValues_eq_ok.mp tokens⟩, others⟩

/-- Accepted axes have values, by induction along them. -/
theorem values_of_checkAxes {seen : List String} {axes : List Axis}
    (accepted : checkAxes seen axes = .ok ())
    : ∀ axis ∈ axes, axis.values ≠ [] := by
  induction axes generalizing seen with
  | nil => exact List.forall_mem_nil _
  | cons axis rest ih =>
      obtain ⟨first, others⟩ := checkAxes_cons accepted
      exact List.forall_mem_cons.mpr ⟨List.isEmpty_eq_false_iff.mp first.some, ih others⟩

/-- The checks of accepted axes are those of their choices, by induction along the axes. -/
theorem checkParams_of_choice {seen : List String} {axes : List Axis}
    {params : List (String × String)} (accepted : checkAxes seen axes = .ok ())
    (member : params ∈ choices axes)
    : Variant.checkParams seen params = .ok () := by
  induction axes generalizing seen params with
  | nil =>
      obtain rfl := List.mem_singleton.mp member
      rfl
  | cons axis rest ih =>
      obtain ⟨first, others⟩ := checkAxes_cons accepted
      rw [choices_cons] at member
      obtain ⟨⟨value, later⟩, paired, rfl⟩ := List.mem_map.mp member
      obtain ⟨here, more⟩ := List.mem_product.mp paired
      rw [Variant.checkParams, first.identifier, first.tokens value here, first.fresh]
      exact ih others more

/-- Every variant of a space is accepted as it stands. -/
theorem ofParams_of_mem {axes : List Axis} {space : ParamSpace}
    (accepted : ofAxes axes = .ok space) {variant : Variant} (member : variant ∈ space.variants)
    : Variant.ofParams variant.params = .ok variant := by
  obtain ⟨_, checked, made⟩ := bind_eq_ok.mp accepted
  obtain rfl := Except.ok.inj made
  obtain ⟨params, choice, rfl⟩ := List.mem_map.mp member
  rw [Variant.ofParams, checkParams_of_choice checked choice]
  rfl

/-- Accepted axes make different variants if and only if none of them repeats a value. -/
theorem nodup_variants_iff {axes : List Axis} {space : ParamSpace}
    (accepted : ofAxes axes = .ok space)
    : space.variants.Nodup ↔ ∀ axis ∈ axes, axis.values.Nodup := by
  obtain ⟨_, checked, made⟩ := bind_eq_ok.mp accepted
  obtain rfl := Except.ok.inj made
  have injective : Function.Injective Variant.mk := fun _ _ same => Variant.mk.inj same
  rw [variants, List.nodup_map_iff injective, nodup_choices_iff (values_of_checkAxes checked)]

/-- The points of accepted axes are what one point without parameters is extended to, axis by axis,
and as many as the product of their lengths. They are ordered as numbers, the first axis outermost,
and each of them is an accepted variant. If no axis repeats a value, every choice of one value for
each axis is the choice of exactly one of them.
-/
theorem variants_of_axes {axes : List Axis} {space : ParamSpace}
    (accepted : ofAxes axes = .ok space)
    : space.variants = (axes.foldl extend [[]]).map Variant.mk
      ∧ space.variants.length = space.size
      ∧ space.size = (axes.map (·.values.length)).prod
      ∧ (∀ index < space.size,
          ∃ variant, space.variants[index]? = some variant ∧ IsPoint axes index variant.params)
      ∧ (∀ variant ∈ space.variants, Variant.ofParams variant.params = .ok variant)
      ∧ ((∀ axis ∈ axes, axis.values.Nodup) →
          ∀ values, List.Forall₂ (fun value axis => value ∈ axis.values) values axes →
            space.variants.count ⟨(axes.map (·.name)).zip values⟩ = 1) := by
  obtain ⟨_, checked, made⟩ := bind_eq_ok.mp accepted
  obtain rfl := Except.ok.inj made
  have injective : Function.Injective Variant.mk := fun _ _ same => Variant.mk.inj same
  refine ⟨variants_eq_foldl _, ?_, List.prod_eq_foldr.symm, fun index bound => ?_,
    fun variant member => ?_, fun distinct values chosen => ?_⟩
  · rw [variants, List.length_map, length_choices]
  · obtain ⟨params, here, point⟩ := exists_point bound
    exact ⟨⟨params⟩, by rw [variants, List.getElem?_map, here]; rfl, point⟩
  · obtain ⟨params, choice, rfl⟩ := List.mem_map.mp member
    rw [Variant.ofParams, checkParams_of_choice checked choice]
    rfl
  · exact List.count_eq_one_of_mem ((nodup_choices distinct).map injective)
      (List.mem_map_of_mem (mem_choices chosen))

/-- Of two sizes with three skews each, the point at four has the second size and skew. -/
theorem variants_of_axes_two
    : let axes : List Axis := [⟨"size", ["0.1", "1"]⟩, ⟨"skew", ["1_0", "1_2", "1_5"]⟩]
      ∃ space,
        ofAxes axes = .ok space
        ∧ space.variants.length = 6
        ∧ space.variants[4]? = some ⟨[("size", "1"), ("skew", "1_2")]⟩
        ∧ space.variants.count ⟨[("size", "0.1"), ("skew", "1_5")]⟩ = 1 := by
  intro axes
  have accepted : ofAxes axes = .ok ⟨axes⟩ := toOption_eq_some.mp (by decide +kernel)
  obtain ⟨_, length, size, points, _, once⟩ := variants_of_axes accepted
  refine ⟨⟨axes⟩, accepted, length.trans size, ?_, ?_⟩
  · obtain ⟨⟨params⟩, here, point⟩ := points 4 (by decide)
    obtain ⟨first, firstDigit, firstParam⟩ := point.param 0 _ rfl
    obtain ⟨second, secondDigit, secondParam⟩ := point.param 1 _ rfl
    have leading : 4 / ParamSpace.size ⟨axes.tail⟩ % 2 = 1 := by decide
    have last : 4 / ParamSpace.size ⟨axes.drop 2⟩ % 3 = 1 := by decide
    obtain rfl : "1" = first := by simpa [leading] using firstDigit
    obtain rfl : "1_2" = second := by simpa [last] using secondDigit
    rw [here]
    have two : params.length = 2 := point.length
    match params, two with
    | [_, _], _ =>
        obtain rfl := Option.some.inj firstParam
        obtain rfl := Option.some.inj secondParam
        rfl
  · exact once (by decide) ["0.1", "1_5"] (by simp [axes])

end ParamSpace

end JoinLatency

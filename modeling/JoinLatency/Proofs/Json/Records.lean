import JoinLatency.Json.Record
import JoinLatency.Proofs.Json.Reading

/-! Records of data values. What is put together from parts is decoded part by part, and a record
holds a field if and only if it has a member of its name or an item in its place.
-/

namespace JoinLatency.Json

open JoinLatency.Decimal

-----------------------------------------------------------------------------------------
-- Values that are written
-----------------------------------------------------------------------------------------

/-- A double is read back from its text, which it has only if it is finite. -/
def ReadsBack (x : Float) : Prop :=
  float? (.ofFloat x) = some x

instance (x : Float) : Decidable (ReadsBack x) :=
  inferInstanceAs (Decidable (float? (.ofFloat x) = some x))

/-- A double is read back if it is finite and its number text stands for it. -/
theorem readsBack_iff {x : Float}
    : ReadsBack x
      ↔ magnitudeBits x < infinityBits
        ∧ float? (.number (Layout.data.text x).toList) = some x := by
  rw [ReadsBack, ofFloat]
  split
  next finite => exact (and_iff_right finite).symm
  next infinite => exact iff_of_false nofun fun h => infinite h.1

theorem wellFormed_ofString (text : String) : (ofString text).WellFormed :=
  .string text

theorem wellFormed_ofNat (n : Nat) : (ofNat n).WellFormed :=
  .number (isNumber_toDigits n)

theorem wellFormed_ofFloat (x : Float) : (ofFloat x).WellFormed := by
  rw [ofFloat]
  split
  next finite => exact .number (isNumber_data_text finite)
  · exact .null

theorem wellFormed_ofOption {α : Type} {encode : α → Json} (h : ∀ value, (encode value).WellFormed)
    (value : Option α)
    : (ofOption encode value).WellFormed := by
  cases value with
  | none => exact .null
  | some value => exact h value

theorem wellFormed_ofList {α : Type} {encode : α → Json} (h : ∀ value, (encode value).WellFormed)
    (values : List α)
    : (ofList encode values).WellFormed := by
  refine .array fun item member => ?_
  obtain ⟨value, _, rfl⟩ := List.mem_map.mp member
  exact h value

theorem wellFormed_record {members : List (String × Json)}
    (h : ∀ member ∈ members, member.2.WellFormed)
    : (record members).WellFormed := by
  refine .object fun member there => ?_
  obtain ⟨named, known, rfl⟩ := List.mem_map.mp there
  exact h named known

/-- Items that are decoded one by one are decoded as a list. -/
theorem list?_ofList {α : Type} {encode : α → Json} {decode : Json → Option α} {values : List α}
    (h : ∀ value ∈ values, decode (encode value) = some value)
    : list? decode (ofList encode values) = some values := by
  rw [ofList, list?]
  induction values with
  | nil => rfl
  | cons value rest ih =>
      rw [List.forall_mem_cons] at h
      simp [h.1, ih h.2]

/-- A list is decoded from its items only if each of them is, by induction along them. -/
theorem list?_ofList_iff {α : Type} {encode : α → Json} {decode : Json → Option α}
    {values : List α}
    : list? decode (ofList encode values) = some values
      ↔ ∀ value ∈ values, decode (encode value) = some value := by
  refine ⟨fun read => ?_, list?_ofList⟩
  rw [ofList, list?] at read
  induction values with
  | nil => exact List.forall_mem_nil _
  | cons value rest ih =>
      rw [List.map_cons, List.mapM_cons] at read
      obtain ⟨first, own, read⟩ := Option.bind_eq_some_iff.mp read
      obtain ⟨others, later, read⟩ := Option.bind_eq_some_iff.mp read
      obtain ⟨rfl, rfl⟩ := List.cons.inj (Option.some.inj read)
      exact List.forall_mem_cons.mpr ⟨own, ih later⟩

/-- A list that is decoded has no items if and only if it has none as a value. -/
theorem eq_nil_of_list? {α : Type} {decode : Json → Option α} {json : Json} {values : List α}
    (h : list? decode json = some values)
    : values = [] ↔ json = .array [] := by
  match json with
  | .array [] =>
      obtain rfl := Option.some.inj h
      exact iff_of_true rfl rfl
  | .array (item :: rest) =>
      rw [list?, List.mapM_cons] at h
      obtain ⟨value, _, h⟩ := Option.bind_eq_some_iff.mp h
      obtain ⟨others, _, h⟩ := Option.bind_eq_some_iff.mp h
      obtain rfl := Option.some.inj h
      simp
  | .null | .bool _ | .number _ | .string _ | .object _ => cases h

theorem optional?_text (text : Option String)
    : optional? text? (ofOption ofString text) = some text := by
  cases text <;> rfl

-----------------------------------------------------------------------------------------
-- Fields of a record
-----------------------------------------------------------------------------------------

/-- The value of a key in a list of distinct keys is the one that stands with it. -/
theorem lookup_iff_mem {own : List (String × Json)} (distinct : (own.map (·.1)).Nodup)
    {name : String} {value : Json}
    : own.lookup name = some value ↔ (name, value) ∈ own := by
  induction own with
  | nil => simp
  | cons member rest ih =>
      obtain ⟨other, content⟩ := member
      rw [List.map_cons, List.nodup_cons] at distinct
      by_cases same : name = other
      · subst same
        have absent : (name, value) ∉ rest := fun there =>
          distinct.1 (List.mem_map.mpr ⟨_, there, rfl⟩)
        simp [absent, eq_comm]
      · rw [List.lookup_cons, beq_eq_false_iff_ne.mpr same]
        simp [ih distinct.2, same]

namespace Shape

variable {shape : Shape} {members : List (Option String × Json)} {own : List (String × Json)}

/-- The own members of a record are its members with the names of the shape, by induction along
them.
-/
theorem mem_ownMembers (h : shape.ownMembers members = some own) {name : String}
    (known : name ∈ shape.names) (value : Json)
    : (name, value) ∈ own ↔ (some name, value) ∈ members := by
  fun_induction ownMembers shape members generalizing own with
  | case1 =>
      obtain rfl := Option.some.inj h
      simp
  | case2 => cases h
  | case3 other content rest listed ih =>
      obtain ⟨later, found, rfl⟩ := Option.map_eq_some_iff.mp h
      simp [ih found]
  | case4 other content rest foreign admitted ih =>
      have apart : name ≠ other := by
        rintro rfl
        exact foreign (by simpa using known)
      simp [ih h, apart]
  | case5 => cases h

/-- The first field of a record has the value of the member of its name, or of the first item. -/
theorem first_of_fields {name : String} {names : List String} (named : shape.names = name :: names)
    {json content : Json} {fields : List (Option Json)}
    (h : shape.fields? json = some (some content :: fields))
    : (∃ members, json = .object members ∧ ∀ value, (some name, value) ∈ members ↔ value = content)
      ∨ ∃ items, json = .array (content :: items) := by
  match json with
  | .object members =>
      obtain ⟨own, found, h⟩ := Option.bind_eq_some_iff.mp h
      split at h
      next distinct =>
        rw [named] at h
        have held : own.lookup name = some content :=
          (List.cons_eq_cons.mp (Option.some.inj h)).1
        refine .inl ⟨members, rfl, fun value => ?_⟩
        rw [← mem_ownMembers found (by simp [named]), ← lookup_iff_mem distinct, held,
          Option.some.injEq, eq_comm]
      next repeated => cases h
  | .array items =>
      rw [fields?] at h
      split at h
      next fits =>
        cases items with
        | nil => simp [named, List.replicate_succ] at h
        | cons item rest =>
            have first : some item = some content := (List.cons_eq_cons.mp (Option.some.inj h)).1
            exact .inr ⟨rest, by rw [Option.some.inj first]⟩
      next other => cases h
  | .null | .bool _ | .number _ | .string _ => cases h

end Shape

end JoinLatency.Json

import Mathlib.Data.List.Forall2

/-! Outcomes of one step after another. A chain of steps has a value when all of them have one.
-/

namespace JoinLatency

variable {ε α β : Type}

theorem bind_eq_ok {first : Except ε α} {second : α → Except ε β} {value : β}
    : first >>= second = .ok value ↔ ∃ middle, first = .ok middle ∧ second middle = .ok value := by
  cases first with
  | error fault => simp [bind, Except.bind]
  | ok middle => simp [bind, Except.bind]

theorem map_eq_ok {first : Except ε α} {f : α → β} {value : β}
    : first.map f = .ok value ↔ ∃ middle, first = .ok middle ∧ f middle = value := by
  cases first with
  | error fault => simp [Except.map]
  | ok middle => simp [Except.map]

theorem toOption_eq_some {outcome : Except ε α} {value : α}
    : outcome.toOption = some value ↔ outcome = .ok value := by
  cases outcome <;> simp [Except.toOption]

/-- A list passes a check if all its elements do, by induction along it. -/
theorem forM_eq_ok {check : α → Except ε Unit} {values : List α}
    : values.forM check = .ok () ↔ ∀ value ∈ values, check value = .ok () := by
  induction values with
  | nil => simp [pure, Except.pure]
  | cons value rest ih =>
      rw [List.forall_mem_cons, ← ih]
      exact bind_eq_ok.trans ⟨fun ⟨_, first, later⟩ => ⟨first, later⟩, fun h => ⟨(), h⟩⟩

/-- A list is mapped when each of its elements is, by induction along it. -/
theorem mapM_eq_ok {f : α → Except ε β} {values : List α} {results : List β}
    : values.mapM f = .ok results
      ↔ List.Forall₂ (fun value result => f value = .ok result) values results := by
  induction values generalizing results with
  | nil =>
      rw [List.forall₂_nil_left_iff]
      exact ⟨fun h => (Except.ok.inj h).symm, fun h => h ▸ rfl⟩
  | cons value rest ih =>
      simp only [List.mapM_cons, bind_eq_ok, ih, List.forall₂_cons_left_iff]
      constructor
      · rintro ⟨result, first, others, later, made⟩
        exact ⟨result, others, first, later, (Except.ok.inj made).symm⟩
      · rintro ⟨result, others, first, later, rfl⟩
        exact ⟨result, first, others, later, rfl⟩

/-- An element of a list that is mapped has its result among the others, by induction along them. -/
theorem exists_mem_of_mapM {f : α → Except ε β} {values : List α} {results : List β}
    (h : values.mapM f = .ok results) {value : α} (member : value ∈ values)
    : ∃ result ∈ results, f value = .ok result := by
  have each := mapM_eq_ok.mp h
  clear h
  induction each with
  | nil => cases member
  | @cons first result rest others own _ ih =>
      rcases List.mem_cons.mp member with rfl | later
      · exact ⟨result, List.mem_cons_self, own⟩
      · obtain ⟨found, there, same⟩ := ih later
        exact ⟨found, List.mem_cons_of_mem _ there, same⟩

theorem exists_mapM_eq_ok {f : α → Except ε β} {values : List α}
    : (∃ results, values.mapM f = .ok results) ↔ ∀ value ∈ values, ∃ result, f value = .ok result := by
  refine ⟨fun ⟨results, h⟩ value member => ?_, fun each => ?_⟩
  · obtain ⟨result, _, own⟩ := exists_mem_of_mapM h member
    exact ⟨result, own⟩
  · simp only [mapM_eq_ok]
    induction values with
    | nil => exact ⟨[], .nil⟩
    | cons value rest ih =>
        obtain ⟨own, others⟩ := List.forall_mem_cons.mp each
        obtain ⟨result, first⟩ := own
        obtain ⟨results, later⟩ := ih others
        exact ⟨result :: results, .cons first later⟩

end JoinLatency

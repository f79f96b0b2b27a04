/-! Tables hold one value a key, in the order in which the keys were first used.
-/

namespace JoinLatency

/-- Entries of distinct keys, oldest first. -/
structure Table (α β : Type) where
  entries : List (α × β) := []
  deriving DecidableEq, Repr, Inhabited

namespace Table

variable {α β : Type} [DecidableEq α]

/-- The value of a key in a list of entries. -/
def find? (key : α) : List (α × β) → Option β
  | [] => none
  | (other, value) :: rest => if other = key then some value else find? key rest

/-- The entries after one value was changed; a new key starts from `fresh` at the end. -/
def change (key : α) (fresh : β) (f : β → β) : List (α × β) → List (α × β)
  | [] => [(key, f fresh)]
  | (other, value) :: rest =>
      if other = key then (other, f value) :: rest else (other, value) :: change key fresh f rest

/-- The value of a key. -/
def get? (table : Table α β) (key : α) : Option β :=
  find? key table.entries

/-- The table after the value of a key was changed, or set from `fresh` if it is new. -/
def update (table : Table α β) (key : α) (fresh : β) (f : β → β) : Table α β where
  entries := change key fresh f table.entries

/-- The keys in the order of their first use. -/
def keys (table : Table α β) : List α :=
  table.entries.map (·.1)

theorem find?_change (key other : α) (fresh : β) (f : β → β) (entries : List (α × β))
    : find? other (change key fresh f entries)
        = if key = other then some (f ((find? key entries).getD fresh))
          else find? other entries := by
  induction entries with
  | nil => by_cases h : key = other <;> simp [change, find?, h]
  | cons entry rest ih =>
      obtain ⟨name, value⟩ := entry
      by_cases hk : name = key
      · subst hk
        by_cases ho : name = other <;> simp [change, find?, ho]
      · by_cases ho : name = other
        · subst ho
          have hk' : ¬ key = name := fun h => hk h.symm
          simp [change, find?, hk, hk']
        · simp [change, find?, hk, ho, ih]

/-- An update touches its own key only. -/
theorem get?_update (table : Table α β) (key other : α) (fresh : β) (f : β → β)
    : (table.update key fresh f).get? other
        = if key = other then some (f ((table.get? key).getD fresh))
          else table.get? other :=
  find?_change key other fresh f table.entries

/-- A key that is new goes to the end of the keys, a known one stays where it is. -/
theorem keys_update (table : Table α β) (key : α) (fresh : β) (f : β → β)
    : (table.update key fresh f).keys
        = if key ∈ table.keys then table.keys else table.keys ++ [key] := by
  obtain ⟨entries⟩ := table
  simp only [keys, update]
  induction entries with
  | nil => simp [change]
  | cons entry rest ih =>
      obtain ⟨name, value⟩ := entry
      by_cases hk : name = key
      · simp [change, hk]
      · have hk' : ¬ key = name := fun h => hk h.symm
        by_cases hm : key ∈ rest.map (·.1)
        · simp_all [change]
        · simp_all [change]

end Table

end JoinLatency

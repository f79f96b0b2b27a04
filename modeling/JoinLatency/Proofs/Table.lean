import JoinLatency.Table
import Mathlib.Data.List.Basic

/-! Tables after many updates. A value is made from the items that have its key, new keys come in
the order of their items, and the entries are the keys with their values.
-/

namespace JoinLatency

variable {α β ι : Type} [DecidableEq α]

/-- A list holds every element of another one once, in the order of the first occurrences. -/
structure FirstOccurrences (all firsts : List α) : Prop where
  nodup : firsts.Nodup
  mem_iff (value : α) : value ∈ firsts ↔ value ∈ all
  order : firsts.Pairwise fun left right => all.idxOf left < all.idxOf right

/-- One more element is one more first occurrence, unless it has occurred. -/
theorem FirstOccurrences.concat {all firsts : List α} (h : FirstOccurrences all firsts) (value : α)
    : FirstOccurrences (all ++ [value])
        (if value ∈ firsts then firsts else firsts ++ [value]) := by
  have kept : firsts.Pairwise fun left right =>
      (all ++ [value]).idxOf left < (all ++ [value]).idxOf right := by
    refine h.order.imp_of_mem fun leftMember rightMember before => ?_
    rwa [List.idxOf_append_of_mem ((h.mem_iff _).mp leftMember),
      List.idxOf_append_of_mem ((h.mem_iff _).mp rightMember)]
  split
  next known =>
    refine ⟨h.nodup, fun other => ?_, kept⟩
    rw [List.mem_append, List.mem_singleton, h.mem_iff]
    exact ⟨.inl, fun either => either.elim id fun same => (h.mem_iff other).mp (same ▸ known)⟩
  next new =>
    have unseen : value ∉ all := mt (h.mem_iff value).mpr new
    refine ⟨List.nodup_append.mpr ⟨h.nodup, by simp, ?_⟩, fun other => ?_, ?_⟩
    · rintro other member last added rfl
      exact new (List.mem_singleton.mp added ▸ member)
    · rw [List.mem_append, List.mem_append, h.mem_iff]
    · refine List.pairwise_append.mpr ⟨kept, List.pairwise_singleton _ _, ?_⟩
      intro left member right last
      obtain rfl := List.mem_singleton.mp last
      have seen := (h.mem_iff left).mp member
      rw [List.idxOf_append_of_mem seen, List.idxOf_append_of_notMem unseen]
      exact Nat.lt_add_right _ (List.idxOf_lt_length_of_mem seen)

namespace Table

/-- The table after one update for each of some items. -/
def updateAll (keyOf : ι → α) (fresh : β) (f : ι → β → β) (table : Table α β) (items : List ι)
    : Table α β :=
  items.foldl (fun table item => table.update (keyOf item) fresh (f item)) table

variable (keyOf : ι → α) (fresh : β) (f : ι → β → β)

theorem updateAll_cons (table : Table α β) (item : ι) (rest : List ι)
    : table.updateAll keyOf fresh f (item :: rest)
      = (table.update (keyOf item) fresh (f item)).updateAll keyOf fresh f rest := rfl

theorem updateAll_append (table : Table α β) (items others : List ι)
    : table.updateAll keyOf fresh f (items ++ others)
      = (table.updateAll keyOf fresh f items).updateAll keyOf fresh f others :=
  List.foldl_append

/-- The value of a key is changed by the items that have this key, by induction along the items.
-/
theorem get?_updateAll (table : Table α β) (items : List ι) (key : α)
    : (table.updateAll keyOf fresh f items).get? key
      = if (items.filter (keyOf · = key)).isEmpty then table.get? key
        else
          some ((items.filter (keyOf · = key)).foldl (fun value item => f item value)
            ((table.get? key).getD fresh)) := by
  induction items generalizing table with
  | nil => simp [updateAll]
  | cons item rest ih =>
      rw [updateAll_cons, ih, get?_update]
      by_cases same : keyOf item = key
      · cases own : rest.filter (keyOf · = key) <;> simp [same, own]
      · simp [same]

/-- The keys after some updates are the first occurrences of all keys so far, by induction along
the items.
-/
theorem firstOccurrences_updateAll {table : Table α β} {all : List α}
    (h : FirstOccurrences all table.keys) (items : List ι)
    : FirstOccurrences (all ++ items.map keyOf) (table.updateAll keyOf fresh f items).keys := by
  induction items generalizing table all with
  | nil => rwa [List.map_nil, List.append_nil]
  | cons item rest ih =>
      rw [updateAll_cons, List.map_cons, List.append_cons]
      refine ih ?_
      rw [keys_update]
      exact h.concat (keyOf item)

theorem keys_updateAll_of_mem {table : Table α β} {items : List ι}
    (known : ∀ item ∈ items, keyOf item ∈ table.keys)
    : (table.updateAll keyOf fresh f items).keys = table.keys := by
  induction items generalizing table with
  | nil => rfl
  | cons item rest ih =>
      have same : (table.update (keyOf item) fresh (f item)).keys = table.keys := by
        rw [keys_update, if_pos (known item List.mem_cons_self)]
      rw [updateAll_cons, ih, same]
      intro other member
      rw [same]
      exact known other (List.mem_cons_of_mem item member)

/-- A key that is new gets the entry after those that there are. -/
theorem entries_update_of_new {table : Table α β} {key : α} (new : key ∉ table.keys) (fresh : β)
    (f : β → β)
    : (table.update key fresh f).entries = table.entries ++ [(key, f fresh)] := by
  obtain ⟨entries⟩ := table
  simp only [keys, update] at new ⊢
  induction entries with
  | nil => rfl
  | cons entry rest ih =>
      rw [List.map_cons, List.mem_cons, not_or] at new
      rw [change, if_neg fun same => new.1 same.symm, ih new.2, List.cons_append]

/-- Items with new keys, no two the same, get an entry each, by induction along them. -/
theorem entries_updateAll_of_nodup {table : Table α β} {items : List ι}
    (distinct : (table.keys ++ items.map keyOf).Nodup)
    : (table.updateAll keyOf fresh f items).entries
      = table.entries ++ items.map fun item => (keyOf item, f item fresh) := by
  induction items generalizing table with
  | nil => simp [updateAll]
  | cons item rest ih =>
      have new : keyOf item ∉ table.keys := fun member =>
        (List.nodup_append.mp distinct).2.2 _ member _ List.mem_cons_self rfl
      have added := entries_update_of_new new fresh (f item)
      have later : (table.update (keyOf item) fresh (f item)).keys = table.keys ++ [keyOf item] := by
        rw [keys, added, List.map_append]
        rfl
      rw [List.map_cons, List.append_cons, ← later] at distinct
      rw [updateAll_cons, ih distinct, added, List.map_cons, ← List.append_cons]

theorem keys_updateAll_of_nodup {table : Table α β} {items : List ι}
    (distinct : (table.keys ++ items.map keyOf).Nodup)
    : (table.updateAll keyOf fresh f items).keys = table.keys ++ items.map keyOf := by
  rw [keys, entries_updateAll_of_nodup keyOf fresh f distinct, List.map_append, List.map_map]
  rfl

/-- Items whose keys begin an order of all keys extend keys that begin the same order, since the
shorter of the two beginnings adds nothing to the longer one.
-/
theorem keys_updateAll_of_prefix {table : Table α β} {items : List ι} {order : List α}
    (distinct : order.Nodup) (hk : table.keys <+: order) (hi : items.map keyOf <+: order)
    : (table.updateAll keyOf fresh f items).keys <+: order
      ∧ ∀ key,
          key ∈ (table.updateAll keyOf fresh f items).keys
          ↔ key ∈ table.keys ∨ key ∈ items.map keyOf := by
  rcases List.prefix_or_prefix_of_prefix hi hk with shorter | longer
  · have known (item : ι) (member : item ∈ items) : keyOf item ∈ table.keys :=
      shorter.subset (List.mem_map_of_mem member)
    rw [keys_updateAll_of_mem keyOf fresh f known]
    exact ⟨hk, fun key => (or_iff_left_of_imp fun member => shorter.subset member).symm⟩
  -- the longer beginning consists of items with the known keys and of new ones
  · obtain ⟨tail, split⟩ := longer
    obtain ⟨old, new, rfl, first, rfl⟩ := List.map_eq_append_iff.mp split.symm
    have known (item : ι) (member : item ∈ old) : keyOf item ∈ table.keys :=
      first ▸ List.mem_map_of_mem member
    have whole : (table.updateAll keyOf fresh f (old ++ new)).keys = (old ++ new).map keyOf := by
      have same := keys_updateAll_of_mem keyOf fresh f known
      have fits := hi.sublist.nodup distinct
      rw [List.map_append, first, ← same] at fits
      rw [updateAll_append, keys_updateAll_of_nodup keyOf fresh f fits, same, List.map_append,
        first]
    rw [whole]
    refine ⟨hi, fun key => (or_iff_right_of_imp fun member => ?_).symm⟩
    rw [← split]
    exact List.mem_append_left _ member

/-- The entries of distinct keys are the keys with their values. -/
theorem entries_eq {table : Table α β} (distinct : table.keys.Nodup)
    : table.entries = table.keys.filterMap fun key => (table.get? key).map (key, ·) := by
  obtain ⟨entries⟩ := table
  simp only [keys, get?] at distinct ⊢
  induction entries with
  | nil => rfl
  | cons entry rest ih =>
      obtain ⟨name, value⟩ := entry
      rw [List.map_cons, List.nodup_cons] at distinct
      have first : find? name ((name, value) :: rest) = some value := by rw [find?, if_pos rfl]
      have later (key : α) (member : key ∈ rest.map (·.1))
          : find? key ((name, value) :: rest) = find? key rest := by
        have other : name ≠ key := fun same => distinct.1 (same ▸ member)
        rw [find?, if_neg other]
      have kept : (rest.map (·.1)).filterMap (fun key =>
          (find? key ((name, value) :: rest)).map (key, ·)) = rest := by
        rw [List.filterMap_congr fun key member => by rw [later key member]]
        exact (ih distinct.2).symm
      rw [List.map_cons, List.filterMap_cons, first, kept]
      rfl

end Table

end JoinLatency

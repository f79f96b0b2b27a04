import JoinLatency.Database.Select
import JoinLatency.Proofs.Outcome

/-! Selections of whole tables. All rows of a table come out with all their columns, and where the
rows are as wide as the table they come out as they are.
-/

namespace JoinLatency.Database

-----------------------------------------------------------------------------------------
-- Rows
-----------------------------------------------------------------------------------------

/-- Every row is as wide as its table. -/
def Relation.Rectangular (relation : Relation) : Prop :=
  ∀ row ∈ relation.rows, row.length = relation.columns.length

/-- The first values of a row, with nulls behind its end. -/
def fitted (width : Nat) (row : List Value) : List Value :=
  (List.range width).map fun position => row[position]?.getD .null

theorem fitted_of_length {row : List Value} {width : Nat} (h : row.length = width)
    : fitted width row = row := by
  apply List.ext_getElem
  · simp [fitted, h]
  · intro i _ bound
    simp [fitted, List.getElem?_eq_getElem bound]

/-- All columns of a table, as expressions. -/
def allColumns (width : Nat) : List (Expression Nat) :=
  (List.range width).map .column

theorem evaluate_allColumns (width : Nat) (row : List Value)
    : (allColumns width).mapM (Expression.evaluate row) = .ok (fitted width row) := by
  rw [mapM_eq_ok, allColumns, fitted, List.forall₂_map_left_iff, List.forall₂_map_right_iff,
    List.forall₂_same]
  intro position _
  rfl

-----------------------------------------------------------------------------------------
-- Selections
-----------------------------------------------------------------------------------------

/-- The rows of a table as a selection of all its columns shows them. -/
def Relation.shown (relation : Relation) : Relation where
  columns := relation.columns
  rows := relation.rows.map (fitted relation.columns.length)

theorem Relation.shown_of_rectangular {relation : Relation} (h : relation.Rectangular)
    : relation.shown = relation := by
  have rows : relation.rows.map (fitted relation.columns.length) = relation.rows := by
    conv_rhs => rw [← List.map_id relation.rows]
    apply List.map_congr_left
    intro row member
    exact fitted_of_length (h row member)
  rw [shown, rows]

/-- The selection of a whole table in random order. -/
def wholeSelect (table : String) : Select where
  items := [.everything]
  sources := [{ table, label := table }]
  orders := [none]

theorem joined_singleton (rows : List (List Value)) : joined [rows] = rows := by
  simp [joined]

/-- Without conditions every row is shown, by induction along the rows. -/
theorem filterMap_resultOf (width : Nat) (rows : List (List Value))
    : rows.filterMap (resultOf [] (allColumns width)) = (rows.map (fitted width)).map .ok := by
  induction rows with
  | nil => rfl
  | cons row rest ih =>
      have shown : resultOf [] (allColumns width) row = some (.ok (fitted width row)) :=
        congrArg some (evaluate_allColumns width row)
      rw [List.filterMap_cons_some shown, ih]
      rfl

/-- Results without faults are the rows, by induction along them. -/
theorem upToFault_map_ok (rows : List (List Value)) : upToFault (rows.map .ok) = (rows, none) := by
  induction rows with
  | nil => rfl
  | cons row rest ih => rw [List.map_cons, upToFault, ih]

/-- The columns of a table as the items of a selection. -/
def Relation.items (relation : Relation) : List (String × Expression Nat) :=
  relation.columns.zipIdx.map fun (column, position) => (column, .column position)

theorem Relation.map_fst_items (relation : Relation)
    : relation.items.map (·.1) = relation.columns := by
  rw [items, List.map_map]
  exact List.zipIdx_map_fst 0 relation.columns

theorem Relation.map_snd_items (relation : Relation)
    : relation.items.map (·.2) = allColumns relation.columns.length := by
  have positions : relation.columns.zipIdx.map Prod.snd = List.range relation.columns.length := by
    rw [List.zipIdx_map_snd, List.range_eq_range']
  rw [allColumns, ← positions, items, List.map_map, List.map_map]
  rfl

theorem resolve_everything (source : Source) (relation : Relation)
    : Item.everything.resolve (scopeOf [(source, relation)])
      = if relation.columns = [] then .error .noSources else .ok relation.items := by
  have scope : scopeOf [(source, relation)]
      = relation.columns.map fun column => (source.label, column) := by simp [scopeOf]
  rw [Item.resolve, scope, List.zipIdx_map, List.map_map, Relation.items]
  cases relation.columns <;> rfl

theorem find_eq_ok {database : Database} {table : String} {relation : Relation}
    : database.find table = .ok relation ↔ database.get? table = some relation := by
  rw [find]
  cases database.get? table <;> simp

/-- The selection of a whole table shows all of it. -/
theorem run_wholeSelect {database : Database} {table : String} {selection : Selection}
    (h : (wholeSelect table).run database = .ok selection)
    : ∃ relation,
        database.get? table = some relation
        ∧ selection = {
          columns := relation.shown.columns
          rows := relation.shown.rows
          fault := none
        } := by
  obtain ⟨tables, sources, resolved⟩ := bind_eq_ok.mp h
  obtain ⟨items, everything, later⟩ := bind_eq_ok.mp resolved
  obtain ⟨found, _, source, none, rfl⟩ := List.forall₂_cons_left_iff.mp (mapM_eq_ok.mp sources)
  cases none
  obtain ⟨relation, stored, rfl⟩ := map_eq_ok.mp source
  obtain ⟨columns, _, item, none, rfl⟩ := List.forall₂_cons_left_iff.mp (mapM_eq_ok.mp everything)
  cases none
  rw [resolve_everything] at item
  split at item
  · cases item
  · cases item
    refine ⟨relation, find_eq_ok.mp stored, ?_⟩
    let results :=
      (joined [relation.rows]).filterMap (resultOf [] ([relation.items].flatten.map (·.2)))
    have rows : upToFault (orderedRows results) = (relation.shown.rows, none) := by
      have all : results = relation.shown.rows.map .ok := by
        simp only [results, joined_singleton, List.flatten_singleton, Relation.map_snd_items,
          filterMap_resultOf, Relation.shown]
      rw [all, orderedRows, upToFault_map_ok]
      exact upToFault_map_ok relation.shown.rows
    have read : Except.ok (ε := Fault) {
        columns := [relation.items].flatten.map (·.1)
        rows := (upToFault (orderedRows results)).1
        fault := (upToFault (orderedRows results)).2
      } = .ok selection := later
    rw [rows, List.flatten_singleton, Relation.map_fst_items] at read
    exact (Except.ok.inj read).symm

end JoinLatency.Database

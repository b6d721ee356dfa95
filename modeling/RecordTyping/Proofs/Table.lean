import RecordTyping.Proofs.Conversion
import RecordTyping.Table

/-!
# Tables as sources

A table answers a request exactly when it has every column asked for and every row is as
wide as the table, and then with one row per row of its own, in which each column has the value
at its first place in the table. The answer has as many values as columns were asked for, and it
is a bare value when that is one: so projecting a table never meets a row of the wrong shape.
-/

namespace RecordTyping

namespace Table

variable {t : Table}

/-- A column of the table is found at its first place. -/
theorem index_present {column : Column} (present : column.name ∈ t.columns) :
    t.index column = .ok (t.columns.idxOf column.name) := by
  have first : t.columns.findIdx? (fun name => name == column.name) =
      some (t.columns.idxOf column.name) :=
    List.findIdx?_eq_some_iff_findIdx_eq.2 ⟨List.idxOf_lt_length_of_mem present, rfl⟩
  rw [index, first]

/-- A column that the table has not is named in the error. -/
theorem index_absent {column : Column} (absent : column.name ∉ t.columns) :
    t.index column = .error (.unknownColumn column) := by
  have none : t.columns.findIdx? (fun name => name == column.name) = none := by
    rw [List.findIdx?_eq_none_iff]
    intro name member
    simpa using fun same : name = column.name => absent (same ▸ member)
  rw [index, none]

/-- The places at which a table has the columns of a request. -/
def places (t : Table) (columns : List Column) : List Nat :=
  columns.map fun column => t.columns.idxOf column.name

/-- Columns that a table has are found at their places. -/
theorem mapM_index {columns : List Column}
    (present : ∀ column ∈ columns, column.name ∈ t.columns) :
    columns.mapM t.index = .ok (t.places columns) :=
  Traversal.mapM_eq_ok_map fun column member => index_present (present column member)

/-- The places of columns that a table has exist in every row of its width. -/
theorem places_inside {columns : List Column} {row : List Json.Value}
    (present : ∀ column ∈ columns, column.name ∈ t.columns)
    (even : row.length = t.columns.length) : ∀ place ∈ t.places columns, place < row.length := by
  intro place member
  obtain ⟨column, asked, rfl⟩ := List.mem_map.1 member
  exact even ▸ List.idxOf_lt_length_of_mem (present column asked)

/-- Selected values are those at the places that exist. -/
theorem values_select (places : List Nat) (values : List Json.Value) :
    (select places values).values = places.filterMap fun place => values[place]? := by
  unfold select
  split
  · rename_i value single
    exact single.symm
  · rfl

/-- Where all places exist a value is selected for each of them. -/
theorem select_getElem? {places : List Nat} {values : List Json.Value}
    (inside : ∀ place ∈ places, place < values.length) (index : Nat) :
    (select places values).values[index]? = places[index]?.bind fun place => values[place]? := by
  rw [values_select]
  induction places generalizing index with
  | nil => rfl
  | cons place rest ih =>
    rw [List.forall_mem_cons] at inside
    have here := List.getElem?_eq_getElem inside.1
    rw [List.filterMap_cons_some here]
    cases index with
    | zero => exact here.symm
    | succ index => exact ih inside.2 index

/-- Where all places exist the selected row fits their number. -/
theorem select_fits {places : List Nat} {values : List Json.Value}
    (inside : ∀ place ∈ places, place < values.length) :
    (select places values).Fits places.length := by
  rw [Row.fits_iff_length, values_select]
  induction places with
  | nil => rfl
  | cons place rest ih =>
    rw [List.forall_mem_cons] at inside
    rw [List.filterMap_cons_some (List.getElem?_eq_getElem inside.1), List.length_cons,
      ih inside.2, List.length_cons]

/-- A table with all columns asked for and rows of its own width answers with the selected values
of each row. -/
theorem pluck_answers {columns : List Column}
    (present : ∀ column ∈ columns, column.name ∈ t.columns)
    (even : ∀ row ∈ t.rows, row.length = t.columns.length) :
    t.pluck columns = .ok (t.rows.map (select (t.places columns))) := by
  have selected : t.rows.zipIdx.mapM
      (fun pair => t.answerRow (t.places columns) pair.2 pair.1) =
        .ok (t.rows.zipIdx.map (select (t.places columns) ∘ Prod.fst)) := by
    apply Traversal.mapM_eq_ok_map
    intro pair member
    exact if_pos (even _ (List.mem_of_getElem? (List.mem_zipIdx_iff_getElem?.1 member)))
  rw [← List.map_map, List.zipIdx_map_fst] at selected
  rw [pluck, mapM_index present, Traversal.ok_bind]
  exact selected

/-- A table that answers has all columns asked for, and rows of its own width. -/
theorem pluck_succeeds {columns : List Column} {rows : List Row}
    (answered : t.pluck columns = .ok rows) :
    (∀ column ∈ columns, column.name ∈ t.columns) ∧
      ∀ row ∈ t.rows, row.length = t.columns.length := by
  obtain ⟨places, located, selected⟩ := Traversal.bind_eq_ok.1 answered
  constructor
  · intro column member
    obtain ⟨place, found⟩ := Traversal.mapM_ok_members located column member
    by_contra absent
    rw [index_absent absent] at found
    cases found
  · intro values member
    obtain ⟨index, here⟩ := List.mem_iff_getElem?.1 member
    obtain ⟨row, passed⟩ := Traversal.mapM_ok_members selected (values, index)
      (List.mem_zipIdx_iff_getElem?.2 here)
    by_contra ragged
    simp only [answerRow, ragged, ↓reduceIte, reduceCtorEq] at passed

/-- As a source a table answers when it does, and fails with the wording of its error. -/
theorem source_pluck (t : Table) (columns : List Column) :
    (t.source.pluck columns ()).1 = (t.pluck columns).mapError TableError.message := rfl

end Table

end RecordTyping

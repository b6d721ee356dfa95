import RecordTyping.Proofs.TableProjection

/-!
# The order of the overrides

A source that answers column by column gives each field the same value wherever its column stands
in the request. Since the values are put back into the order of the schema before any of them is
converted, the order in which the overrides were mentioned shows neither in the records nor in
the error. Only the two requests that are made must be answered so. A table does that if it has
their columns and no ragged row; the column that it reports missing is the first of a request.
-/

namespace RecordTyping

/-- The row of some values as a source returns it: a bare value if it is the only one. -/
def Row.ofValues : List Json.Value → Row
  | [value] => .scalar value
  | values => .tuple values

/-- No value is lost in a row. -/
theorem Row.values_ofValues (values : List Json.Value) : (Row.ofValues values).values = values := by
  unfold Row.ofValues
  split <;> rfl

/-- A source answers some requests column by column in a state when each of its rows holds values
that depend on nothing but the row and the column, and the answer to each of the requests has of
each row the values of the columns in the order of the request. -/
def RowSource.ColumnWise {σ : Type} (source : RowSource σ) (state : σ)
    (requests : List (List Column)) : Prop :=
  ∃ rows : List (Column → Json.Value), ∀ columns ∈ requests,
    (source.pluck columns state).1 = .ok (rows.map fun cell => .ofValues (columns.map cell))

namespace Overrides

variable {first second : Overrides}

/-- Overrides with the same entries give each field the same expression. -/
theorem get?_congr (same : ∀ entry, entry ∈ first.entries ↔ entry ∈ second.entries)
    (field : String) : first.get? field = second.get? field := by
  ext expression
  rw [get?_eq_some, get?_eq_some, same]

/-- Overrides with the same entries ask for the same column for each field. -/
theorem columnFor_congr (same : ∀ entry, entry ∈ first.entries ↔ entry ∈ second.entries) :
    first.columnFor = second.columnFor := by
  funext field
  rw [columnFor, columnFor, get?_congr same]

end Overrides

/-- Whatever can be projected into with some overrides can be so with the same ones in another
order. -/
theorem Projectable.congr {target : TypeDescriptor} {first second : Overrides}
    {schema : RecordSchema} (valid : Projectable target first schema)
    (same : ∀ entry, entry ∈ first.entries ↔ entry ∈ second.entries) :
    Projectable target second schema where
  record := valid.record
  distinct := valid.distinct
  known field overridden := by
    obtain ⟨entry, member, rfl⟩ := List.mem_map.1 overridden
    exact valid.known _ (List.mem_map_of_mem ((same entry).2 member))

namespace Plan

variable {schema : RecordSchema} {overrides : Overrides} (name : String)

/-- Values that depend on their column alone are arranged field by field: the order of the request
is gone. -/
theorem arrange_cells (distinct : schema.names.Nodup) (cell : Column → Json.Value) :
    (build name schema overrides).arrange ((build name schema overrides).columns.map cell) =
      schema.fields.map fun decl => cell (overrides.columnFor decl.name) := by
  have sound := build_sound name distinct overrides
  have each : ((build name schema overrides).columns.map cell).length = schema.fields.length := by
    rw [List.length_map, sound.columns]
    rfl
  apply List.ext_getElem?
  intro place
  by_cases inside : place < schema.fields.length
  · obtain ⟨index, column, asked, filled⟩ := sound.filled inside
    obtain ⟨decl, declared, rfl⟩ := build_column name distinct overrides asked filled
    rw [arrange_place sound each filled, List.getElem?_map, List.getElem?_map, asked, declared]
    rfl
  · have outside : schema.fields.length ≤ place := Nat.le_of_not_lt inside
    rw [List.getElem?_eq_none (by rwa [length_arrange sound each]),
      List.getElem?_eq_none (by rwa [List.length_map])]

/-- A row that is answered column by column becomes a record field by field. -/
theorem reassemble_cells (distinct : schema.names.Nodup) (coerceTypes : Bool)
    (cell : Column → Json.Value) :
    (build name schema overrides).reassemble coerceTypes
        (.ofValues ((build name schema overrides).columns.map cell)) =
      (schema.fields.mapM fun decl =>
        fieldValue coerceTypes decl (cell (overrides.columnFor decl.name))).map Record.mk := by
  have sound := build_sound name distinct overrides
  have fits : (Row.ofValues ((build name schema overrides).columns.map cell)).Fits
      schema.fields.length := by
    rw [Row.fits_iff_length, Row.values_ofValues, List.length_map]
    exact sound.columns
  have paired : (build name schema overrides).schema.fields.zip
      (schema.fields.map fun decl => cell (overrides.columnFor decl.name)) =
        schema.fields.map fun decl => (decl, cell (overrides.columnFor decl.name)) :=
    List.map_prod_left_eq_zip.symm
  rw [reassemble_fits sound coerceTypes fits, Row.values_ofValues, arrange_cells name distinct,
    paired, List.mapM_map]
  rfl

/-- Fields are refused for the conversion of one of them alone. -/
theorem fields_error {coerceTypes : Bool} {cell : FieldDecl → Json.Value} {e : ProjectionError}
    (refused : (schema.fields.mapM fun decl => fieldValue coerceTypes decl (cell decl)) =
      .error e) :
    ∃ decl ∈ schema.fields, ∃ raw reason,
      coerce decl.type raw = .error reason ∧ e = .coercion decl.name reason := by
  obtain ⟨place, decl, declared, -, failed⟩ := Traversal.mapM_eq_error.1 refused
  cases coerceTypes with
  | false => cases failed
  | true =>
    obtain ⟨reason, unfit, rfl⟩ := fieldValue_eq_error.1 failed
    exact ⟨decl, List.mem_of_getElem? declared, _, reason, unfit, rfl⟩

end Plan

section ColumnWise

variable {σ : Type} {source : RowSource σ} {target : TypeDescriptor} {first second : Overrides}
  {schema : RecordSchema} {state : σ} {rows : List (Column → Json.Value)}

/-- The rows of a source that answers column by column are put back together one by one. -/
theorem project_cells (valid : Projectable target first schema) (coerceTypes : Bool)
    (answers : (source.pluck (Plan.request schema first) state).1 =
      .ok (rows.map fun cell => .ofValues ((Plan.request schema first).map cell))) :
    (project source target first coerceTypes state).1 = rows.mapM fun cell =>
      (schema.fields.mapM fun decl =>
        Plan.fieldValue coerceTypes decl (cell (first.columnFor decl.name))).map Record.mk := by
  rw [project_answered source valid coerceTypes answers, List.mapM_map,
    ← Plan.build_columns target.name valid.known]
  simp only [Function.comp_def, Plan.reassemble_cells target.name valid.distinct]

/-- Overrides with the same entries give the same result, in whatever order they were mentioned. -/
theorem project_reordered (valid : Projectable target first schema)
    (same : ∀ entry, entry ∈ first.entries ↔ entry ∈ second.entries)
    (columnWise : source.ColumnWise state [Plan.request schema first, Plan.request schema second])
    (coerceTypes : Bool) :
    (project source target first coerceTypes state).1 =
      (project source target second coerceTypes state).1 := by
  obtain ⟨rows, answers⟩ := columnWise
  rw [List.forall_mem_cons, List.forall_mem_singleton] at answers
  rw [project_cells valid coerceTypes answers.1,
    project_cells (valid.congr same) coerceTypes answers.2, Overrides.columnFor_congr same]

/-- For every source that answers column by column, the order in which the overrides were mentioned
does not matter: overrides with the same entries give the same records, or the same error. The
error is that of a conversion, and names the field, the value that was found and the reason. -/
theorem override_order_irrelevant (valid : Projectable target first schema)
    (same : ∀ entry, entry ∈ first.entries ↔ entry ∈ second.entries)
    (columnWise : source.ColumnWise state [Plan.request schema first, Plan.request schema second])
    (coerceTypes : Bool) :
    (project source target first coerceTypes state).1 =
        (project source target second coerceTypes state).1 ∧
      ∀ e, (project source target first coerceTypes state).1 = .error e →
        ∃ decl ∈ schema.fields, ∃ raw reason,
          coerce decl.type raw = .error reason ∧ e = .coercion decl.name reason := by
  refine ⟨project_reordered valid same columnWise coerceTypes, fun e refused => ?_⟩
  obtain ⟨rows, answers⟩ := columnWise
  rw [project_cells valid coerceTypes (answers _ List.mem_cons_self)] at refused
  obtain ⟨index, cell, -, -, failed⟩ := Traversal.mapM_eq_error.1 refused
  exact Plan.fields_error (Traversal.map_eq_error.1 failed)

end ColumnWise

namespace Table

variable {t : Table} {target : TypeDescriptor} {first second : Overrides} {schema : RecordSchema}

/-- A selected row is that of the selected values. -/
theorem select_eq (places : List Nat) (values : List Json.Value) :
    select places values = .ofValues (places.filterMap fun place => values[place]?) := by
  rw [select]
  generalize places.filterMap (fun place => values[place]?) = cells
  rcases cells with _ | ⟨value, _ | ⟨next, rest⟩⟩ <;> rfl

/-- A table answers requests column by column that it has all columns of, if no row is ragged. -/
theorem source_columnWise {requests : List (List Column)}
    (present : ∀ columns ∈ requests, ∀ column ∈ columns, column.name ∈ t.columns)
    (even : ∀ row ∈ t.rows, row.length = t.columns.length) :
    t.source.ColumnWise () requests := by
  refine ⟨t.rows.map fun row column => row[t.columns.idxOf column.name]?.getD .null, ?_⟩
  intro columns requested
  have known := present columns requested
  have cells : t.rows.map (select (t.places columns)) = t.rows.map fun row =>
      .ofValues (columns.map fun column => row[t.columns.idxOf column.name]?.getD .null) := by
    apply List.map_congr_left
    intro row member
    rw [select_eq, places, List.filterMap_map]
    congr 1
    refine List.filterMap_eq_map_iff_forall_eq_some.2 fun column asked => ?_
    have inside : t.columns.idxOf column.name < row.length :=
      places_inside known (even row member) _ (List.mem_map_of_mem asked)
    simp [List.getElem?_eq_getElem inside]
  rw [source_pluck, pluck_answers known even, cells, List.map_map]
  rfl

/-- For a table that has all source names and no ragged row, the order in which the overrides were
mentioned does not matter. -/
theorem project_reordered (valid : Projectable target first schema)
    (same : ∀ entry, entry ∈ first.entries ↔ entry ∈ second.entries)
    (present : ∀ decl ∈ schema.fields, first.sourceName decl.name ∈ t.columns)
    (even : ∀ row ∈ t.rows, row.length = t.columns.length) (coerceTypes : Bool) :
    (project t.source target first coerceTypes ()).1 =
      (project t.source target second coerceTypes ()).1 := by
  refine RecordTyping.project_reordered valid same (source_columnWise ?_ even) coerceTypes
  rw [List.forall_mem_cons, List.forall_mem_singleton, request_present valid,
    request_present (valid.congr same)]
  refine ⟨present, fun decl declared => ?_⟩
  rw [← Overrides.columnFor_name, ← Overrides.columnFor_congr same, Overrides.columnFor_name]
  exact present decl declared

end Table

/-- The overrides of widgets in the opposite order. -/
def swappedOverrides : Overrides :=
  .ofList [("id", "widgets.legacy_id"), ("owner_name", "owners.name")]

/-- A source of one row, in which every column holds its own name. It counts the requests. -/
def ownNames : RowSource Nat :=
  ⟨fun columns count =>
    (.ok [.ofValues (columns.map fun column => .string column.name)], count + 1)⟩

/-- The source of the names answers all requests column by column. -/
theorem ownNames_columnWise (count : Nat) (requests : List (List Column)) :
    ownNames.ColumnWise count requests := ⟨[fun column => .string column.name], fun _ _ => rfl⟩

/-- Widgets are refused for the value of the field `id` in both orders of the overrides, although
this value is asked for last in one of them and before another override in the other. -/
theorem override_order_irrelevant_widget :
    Projectable widget widgetOverrides widgetSchema ∧
    (∀ entry, entry ∈ widgetOverrides.entries ↔ entry ∈ swappedOverrides.entries) ∧
    ownNames.ColumnWise 0 [Plan.request widgetSchema widgetOverrides,
      Plan.request widgetSchema swappedOverrides] ∧
    widgetOverrides.entries ≠ swappedOverrides.entries ∧
    (project ownNames widget swappedOverrides true 0).1 = .error (.coercion "id"
      ⟨.integer, .string "widgets.legacy_id", .numeral .badDigit⟩) := by
  have same (entry : String × String) :
      entry ∈ widgetOverrides.entries ↔ entry ∈ swappedOverrides.entries :=
    (List.Perm.swap ("id", "widgets.legacy_id") ("owner_name", "owners.name") []).mem_iff
  have answers : (ownNames.pluck (Plan.request widgetSchema widgetOverrides) 0).1 =
      .ok ([fun column => .string column.name].map fun cell =>
        .ofValues ((Plan.request widgetSchema widgetOverrides).map cell)) := rfl
  have refused : (project ownNames widget widgetOverrides true 0).1 = .error (.coercion "id"
      ⟨.integer, .string "widgets.legacy_id", .numeral .badDigit⟩) :=
    project_cells widget_projectable true answers
  have columnWise := ownNames_columnWise 0 [Plan.request widgetSchema widgetOverrides,
    Plan.request widgetSchema swappedOverrides]
  obtain ⟨alike, -⟩ := override_order_irrelevant widget_projectable same columnWise true
  exact ⟨widget_projectable, same, columnWise, by decide, alike ▸ refused⟩

end RecordTyping

import RecordTyping.Proofs.Table

/-!
# Projecting tables

The request of a plan, the answer of a table and the reassembly of its rows are three steps that
each change the order of the columns. Together they are plain: the record of a row holds, under
the name of each field, the value at the first column of the table that has the source name of
the field. The projection stands exactly when the plan does, every source name is a column and
no row is ragged.
-/

namespace RecordTyping

variable {target : TypeDescriptor} {overrides : Overrides} {schema : RecordSchema}

namespace Plan

/-- The columns of a request are those of the fields. -/
theorem mem_request (valid : Projectable target overrides schema) (column : Column) :
    column ∈ request schema overrides ↔
      ∃ decl ∈ schema.fields, column = overrides.columnFor decl.name := by
  rw [← build_columns target.name valid.known, build, List.mem_map]
  constructor
  · rintro ⟨⟨place, _⟩, member, rfl⟩
    obtain ⟨decl, found, same⟩ := (mem_requests valid.distinct _ _).1 member
    exact ⟨decl, List.mem_of_getElem? found, same⟩
  · rintro ⟨decl, member, rfl⟩
    obtain ⟨place, found⟩ := List.mem_iff_getElem?.1 member
    exact ⟨(place, _), (mem_requests valid.distinct _ _).2 ⟨decl, found, rfl⟩, rfl⟩

/-- A request has a column for each field. -/
theorem length_request (valid : Projectable target overrides schema) :
    (request schema overrides).length = schema.fields.length := by
  rw [← build_columns target.name valid.known]
  exact (build_sound target.name valid.distinct overrides).columns

/-- The value of each field is that of its column in the row. -/
theorem rawRecord_column (valid : Projectable target overrides schema) {row : Row}
    (fits : row.Fits schema.fields.length) {place : Nat} {decl : FieldDecl}
    (declared : schema.fields[place]? = some decl) :
    ∃ (index : Nat) (value : Json.Value),
      (request schema overrides)[index]? = some (overrides.columnFor decl.name) ∧
        row.values[index]? = some value ∧
        ((build target.name schema overrides).rawRecord row).fields[place]? =
          some (decl.name, value) := by
  have sound := build_sound target.name valid.distinct overrides
  have each := (row.fits_iff_length _).1 fits
  obtain ⟨index, column, asked, filled⟩ :=
    sound.filled (List.getElem?_eq_some_iff.1 declared).1
  obtain ⟨same, found, rfl⟩ := build_column target.name valid.distinct overrides asked filled
  obtain rfl := Option.some.inj (declared.symm.trans found)
  obtain ⟨value, held⟩ := rawRecord_value sound fits declared
  have arranged := (List.getElem?_zip_eq_some.1 (paired_iff.2 ⟨declared, held⟩)).2
  rw [arrange_place sound each filled] at arranged
  rw [build_columns target.name valid.known] at asked
  exact ⟨index, value, asked, arranged, held⟩

/-- A row of the wrong shape is the only one that is refused for its shape. -/
theorem reassemble_rowShape {p : Plan} (sound : p.Sound) {coerceTypes : Bool} {row : Row}
    {expected : Nat} {found : RowForm}
    (refused : p.reassemble coerceTypes row = .error (.rowShape expected found)) :
    ¬row.Fits p.schema.fields.length := by
  cases coerceTypes with
  | false =>
    intro fits
    rw [reassemble_raw sound fits] at refused
    cases refused
  | true =>
    cases (reassemble_fault sound).1 refused with
    | shape misfit => exact misfit

end Plan

namespace Table

variable {t : Table}

/-- A table has the columns of a request exactly when it has the source names of all fields. -/
theorem request_present (valid : Projectable target overrides schema) :
    (∀ column ∈ Plan.request schema overrides, column.name ∈ t.columns) ↔
      ∀ decl ∈ schema.fields, overrides.sourceName decl.name ∈ t.columns := by
  constructor
  · intro present decl member
    rw [← Overrides.columnFor_name]
    exact present _ ((Plan.mem_request valid _).2 ⟨decl, member, rfl⟩)
  · intro present column member
    obtain ⟨decl, declared, rfl⟩ := (Plan.mem_request valid _).1 member
    rw [Overrides.columnFor_name]
    exact present decl declared

/-- The rows that a table answers with fit the plan. -/
theorem answer_fits (valid : Projectable target overrides schema)
    (present : ∀ column ∈ Plan.request schema overrides, column.name ∈ t.columns)
    {row : List Json.Value} (even : row.length = t.columns.length) :
    (select (t.places (Plan.request schema overrides)) row).Fits schema.fields.length := by
  have fits := select_fits (places_inside present even)
  rwa [places, List.length_map, Plan.length_request valid] at fits

/-- Projecting a table that answers puts the answer back together. -/
theorem project_table (valid : Projectable target overrides schema) (coerceTypes : Bool)
    (present : ∀ column ∈ Plan.request schema overrides, column.name ∈ t.columns)
    (even : ∀ row ∈ t.rows, row.length = t.columns.length) :
    (project t.source target overrides coerceTypes ()).1 =
      (t.rows.map (select (t.places (Plan.request schema overrides)))).mapM
        ((Plan.build target.name schema overrides).reassemble coerceTypes) := by
  apply project_answered t.source valid coerceTypes
  rw [source_pluck, pluck_answers present even]
  rfl

/-- Projecting a table that does not answer fails with the error of the table. -/
theorem project_table_failed (valid : Projectable target overrides schema) (coerceTypes : Bool)
    {e : TableError} (failed : t.pluck (Plan.request schema overrides) = .error e) :
    (project t.source target overrides coerceTypes ()).1 = .error (.source e.message) := by
  apply project_failed t.source valid coerceTypes
  rw [source_pluck, failed]
  rfl

/-- Without conversion a table that has all source names and no ragged row becomes the records of
its rows as they are. -/
theorem project_table_raw (valid : Projectable target overrides schema)
    (present : ∀ column ∈ Plan.request schema overrides, column.name ∈ t.columns)
    (even : ∀ row ∈ t.rows, row.length = t.columns.length) :
    (project t.source target overrides false ()).1 = .ok (t.rows.map fun row =>
      (Plan.build target.name schema overrides).rawRecord
        (select (t.places (Plan.request schema overrides)) row)) := by
  have sound := Plan.build_sound target.name valid.distinct overrides
  rw [project_table valid false present even, Plan.mapM_raw_eq_ok sound, List.map_map]
  refine ⟨?_, rfl⟩
  intro row member
  obtain ⟨values, here, rfl⟩ := List.mem_map.1 member
  exact answer_fits valid present (even values here)

/-- The record of a row of the table has each field's value from the first column of its source
name. -/
theorem rawRecord_cell (valid : Projectable target overrides schema)
    (present : ∀ column ∈ Plan.request schema overrides, column.name ∈ t.columns)
    {row : List Json.Value} (even : row.length = t.columns.length) {place : Nat} {decl : FieldDecl}
    (declared : schema.fields[place]? = some decl) :
    ∃ value, row[t.columns.idxOf (overrides.sourceName decl.name)]? = some value ∧
      ((Plan.build target.name schema overrides).rawRecord
        (select (t.places (Plan.request schema overrides)) row)).fields[place]? =
          some (decl.name, value) := by
  obtain ⟨index, value, asked, selected, held⟩ :=
    Plan.rawRecord_column valid (answer_fits valid present even) declared
  refine ⟨value, ?_, held⟩
  rw [select_getElem? (places_inside present even), places, List.getElem?_map, asked] at selected
  rwa [← Overrides.columnFor_name]

/-- Without conversion the projection of a table succeeds exactly when the type can be projected
into, the table has all source names and no row is ragged, and then with the records of
its rows as they are. -/
theorem project_table_eq_ok {records : List Record} :
    (project t.source target overrides false ()).1 = .ok records ↔
      ∃ schema, Projectable target overrides schema ∧
        (∀ decl ∈ schema.fields, overrides.sourceName decl.name ∈ t.columns) ∧
        (∀ row ∈ t.rows, row.length = t.columns.length) ∧
        (t.rows.map fun row => (Plan.build target.name schema overrides).rawRecord
          (select (t.places (Plan.request schema overrides)) row)) = records := by
  constructor
  · intro result
    rcases projectable_or_refusal target overrides with ⟨schema, valid⟩ | ⟨e, refusal⟩
    · cases answer : t.pluck (Plan.request schema overrides) with
      | error e =>
        rw [project_table_failed valid false answer] at result
        cases result
      | ok rows =>
        obtain ⟨present, even⟩ := pluck_succeeds answer
        rw [project_table_raw valid present even] at result
        exact ⟨schema, valid, (request_present valid).1 present, even, Except.ok.inj result⟩
    · rw [project_refused t.source refusal] at result
      cases result
  · rintro ⟨schema, valid, present, even, rfl⟩
    exact project_table_raw valid ((request_present valid).2 present) even

/-- No row of a table is refused for its shape, with or without conversion. -/
theorem project_table_ne_rowShape (t : Table) (target : TypeDescriptor) (overrides : Overrides)
    (coerceTypes : Bool) (expected : Nat) (found : RowForm) :
    (project t.source target overrides coerceTypes ()).1 ≠ .error (.rowShape expected found) := by
  intro result
  rcases projectable_or_refusal target overrides with ⟨schema, valid⟩ | ⟨e, refusal⟩
  · have sound := Plan.build_sound target.name valid.distinct overrides
    cases answer : t.pluck (Plan.request schema overrides) with
    | error e =>
      rw [project_table_failed valid coerceTypes answer] at result
      cases result
    | ok rows =>
      obtain ⟨present, even⟩ := pluck_succeeds answer
      rw [project_table valid coerceTypes present even, Traversal.mapM_eq_error] at result
      obtain ⟨index, row, here, -, refused⟩ := result
      obtain ⟨values, member, rfl⟩ := List.mem_map.1 (List.mem_of_getElem? here)
      exact Plan.reassemble_rowShape sound refused
        (answer_fits valid present (even values member))
  · rw [project_refused t.source refusal] at result
    obtain rfl := Except.error.inj result
    cases refusal

end Table

/-- Projecting a table without conversion succeeds exactly for a record of distinct names that has
every overridden field, when the source name of every field is a column of the table and every row
is as wide as the table. It then has one record per row, in their order, and the value of each
field is that of the first column of its source name. With or without conversion no row of a
table is ever refused for its shape. -/
theorem table_projection_exact (t : Table) (target : TypeDescriptor) (overrides : Overrides) :
    ((∃ records, (project t.source target overrides false ()).1 = .ok records) ↔
      ∃ schema, target.kind = .record schema ∧ schema.names.Nodup ∧
        (∀ field ∈ overrides.keys, field ∈ schema.names) ∧
        (∀ decl ∈ schema.fields, overrides.sourceName decl.name ∈ t.columns) ∧
        ∀ row ∈ t.rows, row.length = t.columns.length) ∧
    (∀ records schema, (project t.source target overrides false ()).1 = .ok records →
      target.kind = .record schema → records.length = t.rows.length ∧
        ∀ (index : Nat) (row : List Json.Value) (record : Record), t.rows[index]? = some row →
          records[index]? = some record → record.fields.length = schema.fields.length ∧
            ∀ (place : Nat) (decl : FieldDecl), schema.fields[place]? = some decl →
              ∃ value, row[t.columns.idxOf (overrides.sourceName decl.name)]? = some value ∧
                record.fields[place]? = some (decl.name, value)) ∧
    ∀ coerceTypes expected found,
      (project t.source target overrides coerceTypes ()).1 ≠ .error (.rowShape expected found) := by
  refine ⟨?_, ?_, Table.project_table_ne_rowShape t target overrides⟩
  · constructor
    · rintro ⟨records, result⟩
      obtain ⟨schema, valid, present, even, -⟩ := Table.project_table_eq_ok.1 result
      exact ⟨schema, valid.record, valid.distinct, valid.known, present, even⟩
    · rintro ⟨schema, record, distinct, known, present, even⟩
      exact ⟨_, Table.project_table_eq_ok.2
        ⟨schema, ⟨record, distinct, known⟩, present, even, rfl⟩⟩
  · intro records schema result record
    obtain ⟨other, valid, present, even, rfl⟩ := Table.project_table_eq_ok.1 result
    obtain rfl : schema = other := TypeKind.record.inj (record.symm.trans valid.record)
    rw [← Table.request_present valid] at present
    have sound := Plan.build_sound target.name valid.distinct overrides
    refine ⟨List.length_map _, ?_⟩
    intro index row record here there
    have width := even row (List.mem_of_getElem? here)
    rw [List.getElem?_map, here] at there
    obtain rfl := Option.some.inj there
    exact ⟨Plan.rawRecord_size sound (Table.answer_fits valid present width),
      fun place decl declared => Table.rawRecord_cell valid present width declared⟩

/-- A table of one widget with a column that it repeats and one that no field uses. -/
def widgetTable : Table where
  columns := ["owners.name", "name", "widgets.legacy_id", "name", "id"]
  rows := [[.string "Alice", .string "Widget", .string "9", .string "Gadget", .null]]

/-- The table of one widget becomes one record, with the first of the repeated columns. -/
theorem table_projection_exact_widget : ∃ record,
    (project widgetTable.source widget widgetOverrides false ()).1 = .ok [record] ∧
      record.fields[1]? = some ("name", .string "Widget") := by
  obtain ⟨stands, cells, -⟩ := table_projection_exact widgetTable widget widgetOverrides
  obtain ⟨records, result⟩ := stands.2
    ⟨widgetSchema, rfl, by decide, by decide, by decide, by simp [widgetTable]⟩
  obtain ⟨size, each⟩ := cells records widgetSchema result rfl
  obtain ⟨record, rfl⟩ := List.length_eq_one_iff.1 size
  obtain ⟨-, fields⟩ := each 0 _ record rfl rfl
  obtain ⟨value, cell, held⟩ := fields 1 ⟨"name", .string⟩ rfl
  have first : Json.Value.string "Widget" = value := Option.some.inj cell
  exact ⟨record, result, first ▸ held⟩

end RecordTyping

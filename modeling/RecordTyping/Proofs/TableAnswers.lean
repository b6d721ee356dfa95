import RecordTyping.Proofs.Table

/-!
# What a table answers

A request is settled by two checks that are made apart: the columns are looked up in the table,
in the order of the request, and each row is compared with the number of columns just before
it is read. No read is checked for itself. That none is made outside a row follows from both
checks together, and is said by a second way of answering in which such a read would be a
fault of its own: it answers every request as the table does.
-/

namespace RecordTyping

namespace Table

variable {t : Table} {columns : List Column} {column : Column} {values : List Json.Value}

/-- How a request ends early when every read is checked. -/
inductive ReadFault where
  | refused (e : TableError)
  /-- A place was read that the row has not. -/
  | outside (place width : Nat)

/-- The value at a place of a row, which must have one there. -/
def readCell (values : List Json.Value) (place : Nat) : Except ReadFault Json.Value :=
  match values[place]? with
  | some value => .ok value
  | none => .error (.outside place values.length)

/-- A row of the table as a source returns it, read place by place. -/
def checkedRow (t : Table) (places : List Nat) (row : Nat) (values : List Json.Value) :
    Except ReadFault Row :=
  if values.length = t.columns.length then do
    match ← places.mapM (readCell values) with
    | [value] => return .scalar value
    | cells => return .tuple cells
  else .error (.refused (.raggedRow row values.length t.columns.length))

/-- Answers a request with every read checked. -/
def checkedPluck (t : Table) (columns : List Column) : Except ReadFault (List Row) := do
  let places ← (columns.mapM t.index).mapError .refused
  t.rows.zipIdx.mapM fun (values, row) => t.checkedRow places row values

/-- A row of the table has a value in the first column of a name. -/
def HasCell (t : Table) (values : List Json.Value) (column : Column) (value : Json.Value) : Prop :=
  ∃ before after, t.columns = before ++ column.name :: after ∧ column.name ∉ before ∧
    values[before.length]? = some value

/-- A row of the table is answered as the protocol wants it: with a bare value exactly if one
column was asked for, and with the value of each column in the order of the request. -/
structure Answers (t : Table) (columns : List Column) (values : List Json.Value) (row : Row) :
    Prop where
  bare : (∃ value, row = .scalar value) ↔ columns.length = 1
  cells : List.Forall₂ (t.HasCell values) columns row.values

section Columns

/-- A place is found exactly for a column of the table, and is its first one. -/
theorem index_eq_ok {place : Nat} :
    t.index column = .ok place ↔ column.name ∈ t.columns ∧ t.columns.idxOf column.name = place := by
  by_cases present : column.name ∈ t.columns
  · simp [index_present present, present]
  · simp [index_absent present, present]

/-- The search for a place fails exactly for a column that the table has not. -/
theorem index_eq_error {e : TableError} :
    t.index column = .error e ↔ column.name ∉ t.columns ∧ .unknownColumn column = e := by
  by_cases present : column.name ∈ t.columns
  · simp [index_present present, present]
  · simp [index_absent present, present]

/-- The places that are found are those of a row as wide as the table. -/
theorem place_lt {places : List Nat} (located : columns.mapM t.index = .ok places) :
    ∀ place ∈ places, place < t.columns.length := by
  intro place member
  obtain ⟨column, -, found⟩ := Traversal.mapM_ok_results located place member
  obtain ⟨present, rfl⟩ := index_eq_ok.1 found
  exact List.idxOf_lt_length_of_mem present

/-- A row has a cell for a column exactly at the place of the column. -/
theorem hasCell_iff {value : Json.Value} : t.HasCell values column value ↔
    column.name ∈ t.columns ∧ values[t.columns.idxOf column.name]? = some value := by
  constructor
  · rintro ⟨before, after, split, fresh, held⟩
    have first : t.columns.idxOf column.name = before.length := by
      rw [split, List.idxOf_append_of_notMem fresh, List.idxOf_cons_self, Nat.add_zero]
    refine ⟨?_, first ▸ held⟩
    rw [split]
    exact List.mem_append_right before List.mem_cons_self
  · rintro ⟨present, held⟩
    obtain ⟨before, after, split, fresh⟩ := List.eq_append_cons_of_mem present
    refine ⟨before, after, split, fresh, ?_⟩
    rwa [split, List.idxOf_append_of_notMem fresh, List.idxOf_cons_self, Nat.add_zero] at held

end Columns

section Rows

/-- A row is answered exactly if it is as wide as the table. -/
theorem answerRow_eq_ok {places : List Nat} {row : Nat} {result : Row} :
    t.answerRow places row values = .ok result ↔
      values.length = t.columns.length ∧ select places values = result := by
  by_cases even : values.length = t.columns.length <;> simp [answerRow, even]

/-- A row is refused exactly if it is not as wide as the table. -/
theorem answerRow_eq_error {places : List Nat} {row : Nat} {e : TableError} :
    t.answerRow places row values = .error e ↔ values.length ≠ t.columns.length ∧
      .raggedRow row values.length t.columns.length = e := by
  by_cases even : values.length = t.columns.length <;> simp [answerRow, even]

/-- The rows of a table are refused by the first one that is not as wide as the table. -/
theorem answerRows_eq_error {places : List Nat} {e : TableError} :
    (t.rows.zipIdx.mapM fun pair => t.answerRow places pair.2 pair.1) = .error e ↔
      ∃ (row : Nat) (values : List Json.Value), t.rows[row]? = some values ∧
        values.length ≠ t.columns.length ∧ .raggedRow row values.length t.columns.length = e ∧
        ∀ before < row, ∀ earlier, t.rows[before]? = some earlier →
          earlier.length = t.columns.length := by
  have numbered (index : Nat) (values : List Json.Value) (row : Nat) :
      t.rows.zipIdx[index]? = some (values, row) ↔ t.rows[index]? = some values ∧ index = row := by
    rw [List.getElem?_zipIdx, Nat.zero_add]
    simp
  rw [Traversal.mapM_eq_error]
  constructor
  · rintro ⟨index, ⟨values, row⟩, here, passed, refused⟩
    obtain ⟨held, rfl⟩ := (numbered _ _ _).1 here
    obtain ⟨ragged, same⟩ := answerRow_eq_error.1 refused
    refine ⟨index, values, held, ragged, same, fun before less earlier there => ?_⟩
    obtain ⟨result, answered⟩ := passed before less (earlier, before)
      ((numbered _ _ _).2 ⟨there, rfl⟩)
    exact (answerRow_eq_ok.1 answered).1
  · rintro ⟨row, values, held, ragged, same, even⟩
    refine ⟨row, (values, row), (numbered _ _ _).2 ⟨held, rfl⟩, ?_,
      answerRow_eq_error.2 ⟨ragged, same⟩⟩
    rintro before less ⟨earlier, place⟩ there
    exact ⟨_, answerRow_eq_ok.2 ⟨even before less earlier ((numbered _ _ _).1 there).1, rfl⟩⟩

/-- Reading places that all exist gives the values there. -/
theorem mapM_readCell {places : List Nat} (inside : ∀ place ∈ places, place < values.length) :
    places.mapM (readCell values) = .ok (places.filterMap fun place => values[place]?) := by
  induction places with
  | nil => rfl
  | cons place rest ih =>
    rw [List.forall_mem_cons] at inside
    have here := List.getElem?_eq_getElem inside.1
    have read : readCell values place = .ok values[place] := by rw [readCell, here]
    rw [List.mapM_cons, read, Traversal.ok_bind, ih inside.2, Traversal.ok_bind,
      List.filterMap_cons_some here]
    rfl

/-- A row whose places lie inside the table is read as it is selected from. -/
theorem checkedRow_eq {places : List Nat} (inside : ∀ place ∈ places, place < t.columns.length)
    (row : Nat) (values : List Json.Value) :
    t.checkedRow places row values = (t.answerRow places row values).mapError .refused := by
  by_cases even : values.length = t.columns.length
  · have read := mapM_readCell (even ▸ inside)
    rw [checkedRow, if_pos even, read, Traversal.ok_bind, answerRow, if_pos even, select]
    generalize places.filterMap (fun place => values[place]?) = cells
    rcases cells with _ | ⟨value, _ | ⟨next, rest⟩⟩ <;> rfl
  · rw [checkedRow, if_neg even, answerRow, if_neg even]
    rfl

/-- A selected row is a bare value exactly if it has one value. -/
theorem select_bare (places : List Nat) (values : List Json.Value) :
    (∃ value, select places values = .scalar value) ↔ (select places values).values.length = 1 := by
  unfold select
  split
  · rename_i value single
    exact iff_of_true ⟨value, rfl⟩ rfl
  · rename_i cells several
    constructor
    · rintro ⟨value, same⟩
      cases same
    · intro one
      obtain ⟨value, single⟩ := List.length_eq_one_iff.1 one
      exact absurd single (several value)

/-- What is selected from a row as wide as the table answers the request. -/
theorem select_answers (present : ∀ column ∈ columns, column.name ∈ t.columns)
    (even : values.length = t.columns.length) :
    t.Answers columns values (select (t.places columns) values) := by
  have cells :
      List.Forall₂ (t.HasCell values) columns (select (t.places columns) values).values := by
    rw [values_select]
    induction columns with
    | nil => exact .nil
    | cons column rest ih =>
      rw [List.forall_mem_cons] at present
      have inside : t.columns.idxOf column.name < values.length :=
        even ▸ List.idxOf_lt_length_of_mem present.1
      have here := List.getElem?_eq_getElem inside
      rw [places, List.map_cons, List.filterMap_cons_some here]
      exact .cons (hasCell_iff.2 ⟨present.1, here⟩) (ih present.2)
  exact { bare := by rw [select_bare, cells.length_eq], cells := cells }

/-- A row has one answer to a request. -/
theorem answers_unique : Relator.RightUnique (t.Answers columns) := by
  intro values row row' answer answer'
  have functional : Relator.RightUnique (t.HasCell values) := by
    intro column value value' cell cell'
    have held := (hasCell_iff.1 cell).2
    rw [(hasCell_iff.1 cell').2] at held
    exact (Option.some.inj held).symm
  have same := List.right_unique_forall₂' functional answer.cells answer'.cells
  have bare := answer.bare.trans answer'.bare.symm
  cases row with
  | scalar value =>
    obtain ⟨value', rfl⟩ := bare.1 ⟨value, rfl⟩
    exact congrArg Row.scalar (List.cons.inj same).1
  | tuple cells =>
    cases row' with
    | scalar value' =>
      obtain ⟨value, scalar⟩ := bare.2 ⟨value', rfl⟩
      cases scalar
    | tuple cells' => exact congrArg Row.tuple same

end Rows

section Requests

/-- A request fails for a column exactly if the column is the first one that the table has not,
whatever the rows are. -/
theorem pluck_eq_unknown : t.pluck columns = .error (.unknownColumn column) ↔
    ∃ index : Nat, columns[index]? = some column ∧ column.name ∉ t.columns ∧
      ∀ before < index, ∀ earlier, columns[before]? = some earlier → earlier.name ∈ t.columns := by
  rw [pluck, Traversal.bind_eq_error, Traversal.mapM_eq_error]
  constructor
  · rintro (⟨index, item, asked, found, refused⟩ | ⟨places, -, failed⟩)
    · obtain ⟨absent, same⟩ := index_eq_error.1 refused
      obtain rfl := TableError.unknownColumn.inj same
      refine ⟨index, asked, absent, fun before less earlier there => ?_⟩
      obtain ⟨place, present⟩ := found before less earlier there
      exact (index_eq_ok.1 present).1
    · obtain ⟨_, pair, -, -, refused⟩ := Traversal.mapM_eq_error.1 failed
      cases (answerRow_eq_error.1 refused).2
  · rintro ⟨index, asked, absent, known⟩
    refine .inl ⟨index, column, asked, fun before less earlier there => ?_, index_absent absent⟩
    exact ⟨_, index_present (known before less earlier there)⟩

/-- A request fails for a row exactly if the table has all columns and the row is the first one
that is not as wide as the table. -/
theorem pluck_eq_ragged {row width count : Nat} :
    t.pluck columns = .error (.raggedRow row width count) ↔
      (∀ column ∈ columns, column.name ∈ t.columns) ∧
        (∃ values, t.rows[row]? = some values ∧ values.length = width) ∧
        width ≠ t.columns.length ∧ count = t.columns.length ∧
        ∀ before < row, ∀ earlier, t.rows[before]? = some earlier →
          earlier.length = t.columns.length := by
  rw [pluck, Traversal.bind_eq_error]
  constructor
  · rintro (failed | ⟨places, located, failed⟩)
    · obtain ⟨_, column, -, -, refused⟩ := Traversal.mapM_eq_error.1 failed
      cases (index_eq_error.1 refused).2
    · obtain ⟨row, values, here, ragged, same, even⟩ := answerRows_eq_error.1 failed
      obtain ⟨rfl, rfl, rfl⟩ := TableError.raggedRow.inj same
      refine ⟨fun column member => ?_, ⟨values, here, rfl⟩, ragged, rfl, even⟩
      obtain ⟨place, found⟩ := Traversal.mapM_ok_members located column member
      exact (index_eq_ok.1 found).1
  · rintro ⟨present, ⟨values, here, rfl⟩, ragged, rfl, even⟩
    exact .inr ⟨_, mapM_index present, answerRows_eq_error.2 ⟨row, values, here, ragged, rfl, even⟩⟩

/-- A request is answered exactly if the table has all columns and no row is ragged, and then row
by row. -/
theorem pluck_eq_ok {rows : List Row} : t.pluck columns = .ok rows ↔
    (∀ column ∈ columns, column.name ∈ t.columns) ∧
      (∀ values ∈ t.rows, values.length = t.columns.length) ∧
      List.Forall₂ (t.Answers columns) t.rows rows := by
  have selected (present : ∀ column ∈ columns, column.name ∈ t.columns)
      (even : ∀ values ∈ t.rows, values.length = t.columns.length) :
      List.Forall₂ (t.Answers columns) t.rows (t.rows.map (select (t.places columns))) := by
    rw [List.forall₂_map_right_iff, List.forall₂_same]
    exact fun values member => select_answers present (even values member)
  constructor
  · intro answered
    obtain ⟨present, even⟩ := pluck_succeeds answered
    rw [pluck_answers present even] at answered
    obtain rfl := Except.ok.inj answered
    exact ⟨present, even, selected present even⟩
  · rintro ⟨present, even, each⟩
    have same := List.right_unique_forall₂' answers_unique each (selected present even)
    rw [pluck_answers present even, same]

/-- A request fails exactly if the table has not all columns or has a ragged row. -/
theorem pluck_fails : (∃ e, t.pluck columns = .error e) ↔
    (∃ column ∈ columns, column.name ∉ t.columns) ∨
      ∃ values ∈ t.rows, values.length ≠ t.columns.length := by
  constructor
  · rintro ⟨e, failed⟩
    by_contra sound
    push Not at sound
    rw [pluck_answers sound.1 sound.2] at failed
    cases failed
  · intro unsound
    cases answer : t.pluck columns with
    | error e => exact ⟨e, rfl⟩
    | ok rows =>
      obtain ⟨present, even⟩ := pluck_succeeds answer
      rcases unsound with ⟨column, member, absent⟩ | ⟨values, member, ragged⟩
      · exact absurd (present column member) absent
      · exact absurd (even values member) ragged

/-- Reading with every read checked answers every request as the table does. -/
theorem checkedPluck_eq (t : Table) (columns : List Column) :
    t.checkedPluck columns = (t.pluck columns).mapError .refused := by
  cases located : columns.mapM t.index with
  | error e =>
    rw [checkedPluck, pluck, located]
    rfl
  | ok places =>
    -- the places lie inside the table, so the width that is checked is all that a row needs
    have rows : (fun pair : List Json.Value × Nat => t.checkedRow places pair.2 pair.1) =
        fun pair => (t.answerRow places pair.2 pair.1).mapError .refused := by
      funext pair
      exact checkedRow_eq (place_lt located) pair.2 pair.1
    calc t.checkedPluck columns
        = t.rows.zipIdx.mapM fun pair => t.checkedRow places pair.2 pair.1 := by
          rw [checkedPluck, located]
          rfl
      _ = (t.rows.zipIdx.mapM fun pair => t.answerRow places pair.2 pair.1).mapError .refused := by
          rw [rows, Traversal.mapM_mapError]
      _ = (t.pluck columns).mapError .refused := by
          rw [pluck, located]
          rfl

end Requests

end Table

/-- A table answers every request without reading outside a row. A request fails exactly if the
table has not all of its columns or has a ragged row: for the first column that is not there,
whatever the rows are, and if there is none for the first ragged row, with its place. It is
answered row by row otherwise: with a bare value exactly if one column was asked for, and with the
value in the first column of each name in the order of the request. -/
theorem table_answers_exact (t : Table) (columns : List Column) :
    t.checkedPluck columns = (t.pluck columns).mapError .refused ∧
    ((∃ e, t.pluck columns = .error e) ↔
      (∃ column ∈ columns, column.name ∉ t.columns) ∨
        ∃ values ∈ t.rows, values.length ≠ t.columns.length) ∧
    (∀ column, t.pluck columns = .error (.unknownColumn column) ↔
      ∃ index : Nat, columns[index]? = some column ∧ column.name ∉ t.columns ∧
        ∀ before < index, ∀ earlier, columns[before]? = some earlier →
          earlier.name ∈ t.columns) ∧
    (∀ row width count, t.pluck columns = .error (.raggedRow row width count) ↔
      (∀ column ∈ columns, column.name ∈ t.columns) ∧
        (∃ values, t.rows[row]? = some values ∧ values.length = width) ∧
        width ≠ t.columns.length ∧ count = t.columns.length ∧
        ∀ before < row, ∀ earlier, t.rows[before]? = some earlier →
          earlier.length = t.columns.length) ∧
    ∀ rows, t.pluck columns = .ok rows ↔
      (∀ column ∈ columns, column.name ∈ t.columns) ∧
        (∀ values ∈ t.rows, values.length = t.columns.length) ∧
        List.Forall₂ (t.Answers columns) t.rows rows := by
  exact ⟨t.checkedPluck_eq columns, Table.pluck_fails, fun _ => Table.pluck_eq_unknown,
    fun _ _ _ => Table.pluck_eq_ragged, fun _ => Table.pluck_eq_ok⟩

/-- A column that is not there is reported before a ragged row, which is reported even if no column
is asked for. -/
example :
    let t : Table := ⟨["id", "name", "id"], [[.null, .bool true, .bool false], [.null]]⟩
    t.pluck [.field "id", .expression "color"] = .error (.unknownColumn (.expression "color")) ∧
      t.pluck [] = .error (.raggedRow 1 1 3) := ⟨rfl, rfl⟩

end RecordTyping

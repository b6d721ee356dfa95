import Mathlib.Data.List.Nodup
import RecordTyping.Proofs.Plan
import RecordTyping.Proofs.Traversal

/-!
# Putting rows back together

A plan keeps for each column the place of its field, and these places are a permutation. Sorting
the values of a row by their places is therefore the inverse of the request order, whatever
sorting algorithm is used: equal places, which a sort might exchange, do not occur. So a row
that fits the plan becomes a record in which every value stands under the name of the field that
its column fills.
-/

namespace RecordTyping

namespace Row

/-- The values of a row, of which a bare value is one. -/
def values : Row → List Json.Value
  | .scalar value => [value]
  | .tuple values => values

/-- The form in which a row that does not match is reported. -/
def form : Row → RowForm
  | .scalar _ => .scalar
  | .tuple values => .tuple values.length

/-- A bare value fits exactly one column, and a tuple as many columns as it has values. -/
def Fits (columns : Nat) : Row → Prop
  | .scalar _ => columns = 1
  | .tuple values => values.length = columns

/-- A row fits as many columns as it has values. -/
theorem fits_iff_length (columns : Nat) (row : Row) :
    row.Fits columns ↔ row.values.length = columns := by
  cases row with
  | scalar value => exact eq_comm
  | tuple values => exact Iff.rfl

instance (columns : Nat) (row : Row) : Decidable (row.Fits columns) :=
  decidable_of_iff _ (row.fits_iff_length columns).symm

end Row

namespace Plan

section Sorting

variable {α : Type} {places : List Nat} {values : List α} {ordered : List (Nat × α)} {fields : Nat}

/-- Values sorted by places that are a permutation have the places in order. -/
theorem sorted_places (permutation : places.Perm (List.range fields))
    (each : values.length = fields) (same : ordered.Perm (places.zip values))
    (ascending : ordered.Pairwise fun a b => a.1 ≤ b.1) :
    ordered.map Prod.fst = List.range fields := by
  have size : places.length = fields := by simpa using permutation.length_eq
  have paired : (ordered.map Prod.fst).Perm places := by
    have projected := same.map Prod.fst
    rwa [List.map_fst_zip (by omega)] at projected
  exact (paired.trans permutation).eq_of_pairwise (fun _ _ _ _ => Nat.le_antisymm)
    (List.pairwise_map.2 ascending) List.pairwise_le_range

/-- Sorting brings the value at each position to the place that the position fills. -/
theorem sorted_values (permutation : places.Perm (List.range fields))
    (each : values.length = fields) (same : ordered.Perm (places.zip values))
    (ascending : ordered.Pairwise fun a b => a.1 ≤ b.1) {position place : Nat}
    (filled : places[position]? = some place) :
    (ordered.map Prod.snd)[place]? = values[position]? := by
  have size : places.length = fields := by simpa using permutation.length_eq
  have inside : position < values.length := by
    have bound := (List.getElem?_eq_some_iff.1 filled).1
    omega
  have value := List.getElem?_eq_getElem inside
  have member : (place, values[position]) ∈ ordered :=
    same.mem_iff.2 (List.mem_of_getElem? (List.getElem?_zip_eq_some.2 ⟨filled, value⟩))
  obtain ⟨index, found⟩ := List.mem_iff_getElem?.1 member
  -- The sorted places count up from zero, so a pair stands at its own place.
  have landed : index = place := by
    have stands := congrArg (·[index]?) (sorted_places permutation each same ascending)
    simp only [List.getElem?_map, found, Option.map_some] at stands
    obtain ⟨within, entry⟩ := List.getElem?_eq_some_iff.1 stands.symm
    simpa using entry
  rw [List.getElem?_map, ← landed, found, value]
  rfl

/-- Two ways of sorting values by places that are a permutation agree. -/
theorem sorted_unique (permutation : places.Perm (List.range fields))
    (each : values.length = fields) {other : List (Nat × α)}
    (same : ordered.Perm (places.zip values)) (ascending : ordered.Pairwise fun a b => a.1 ≤ b.1)
    (also : other.Perm (places.zip values)) (rising : other.Pairwise fun a b => a.1 ≤ b.1) :
    ordered = other := by
  have order := sorted_places permutation each also rising
  have distinct : (other.map Prod.fst).Nodup := order ▸ List.nodup_range
  refine (same.trans also.symm).eq_of_pairwise ?_ ascending rising
  intro a b left right below above
  exact List.inj_on_of_nodup_map distinct ((same.trans also.symm).mem_iff.1 left) right
    (Nat.le_antisymm below above)

end Sorting

/-- What the making of a plan promises: one column per field, which fill all places of a schema
of distinct names. -/
structure Sound (p : Plan) : Prop where
  distinct : p.schema.names.Nodup
  columns : p.columns.length = p.schema.fields.length
  places : p.fieldForColumn.Perm (List.range p.schema.fields.length)

/-- Every place of the schema of a sound plan is filled by a column. -/
theorem Sound.filled {p : Plan} (sound : p.Sound) {place : Nat}
    (inside : place < p.schema.fields.length) : ∃ (index : Nat) (column : Column),
      p.columns[index]? = some column ∧ p.fieldForColumn[index]? = some place := by
  obtain ⟨index, filled⟩ :=
    List.mem_iff_getElem?.1 (sound.places.mem_iff.2 (List.mem_range.2 inside))
  have within : index < p.columns.length := by
    rw [sound.columns, ← sound.places.length_eq.trans List.length_range]
    exact (List.getElem?_eq_some_iff.1 filled).1
  exact ⟨index, _, List.getElem?_eq_getElem within, filled⟩

/-- A plan that is made of a schema of distinct names is sound. -/
theorem build_sound (name : String) {schema : RecordSchema} (distinct : schema.names.Nodup)
    (overrides : Overrides) : (build name schema overrides).Sound where
  distinct := distinct
  columns := by
    have places : ((requests schema overrides).map Prod.fst).Perm _ := requests_places_perm distinct
    simpa [build] using places.length_eq
  places := requests_places_perm distinct

variable {p : Plan}

/-- The pairs that are sorted when values are arranged stay the same pairs. -/
theorem arrangement_perm (p : Plan) (values : List Json.Value) :
    ((p.fieldForColumn.zip values).mergeSort fun a b => a.1 ≤ b.1).Perm
      (p.fieldForColumn.zip values) :=
  List.mergeSort_perm _ _

/-- The pairs are sorted by place when values are arranged. -/
theorem arrangement_ascending (p : Plan) (values : List Json.Value) :
    ((p.fieldForColumn.zip values).mergeSort fun a b => a.1 ≤ b.1).Pairwise
      fun a b => a.1 ≤ b.1 := by
  have transitive (a b c : Nat × Json.Value) (below : decide (a.1 ≤ b.1) = true)
      (above : decide (b.1 ≤ c.1) = true) : decide (a.1 ≤ c.1) = true := by
    rw [decide_eq_true_eq] at below above ⊢
    omega
  have total (a b : Nat × Json.Value) : (decide (a.1 ≤ b.1) || decide (b.1 ≤ a.1)) = true := by
    rw [Bool.or_eq_true, decide_eq_true_eq, decide_eq_true_eq]
    omega
  have sorted := List.pairwise_mergeSort transitive total (p.fieldForColumn.zip values)
  simpa only [decide_eq_true_eq] using sorted

/-- An arrangement has a value for each field. -/
theorem length_arrange (sound : p.Sound) {values : List Json.Value}
    (each : values.length = p.schema.fields.length) :
    (p.arrange values).length = p.schema.fields.length := by
  have order := sorted_places sound.places each (p.arrangement_perm values)
    (p.arrangement_ascending values)
  simpa [arrange] using congrArg List.length order

/-- An arrangement has the value of each column at the place of the field that the column fills. -/
theorem arrange_place (sound : p.Sound) {values : List Json.Value}
    (each : values.length = p.schema.fields.length) {column place : Nat}
    (filled : p.fieldForColumn[column]? = some place) :
    (p.arrange values)[place]? = values[column]? :=
  sorted_values sound.places each (p.arrangement_perm values) (p.arrangement_ascending values)
    filled

/-- Every way of sorting values by place gives the arrangement. -/
theorem arrange_unique (sound : p.Sound) {values : List Json.Value}
    (each : values.length = p.schema.fields.length) {ordered : List (Nat × Json.Value)}
    (same : ordered.Perm (p.fieldForColumn.zip values))
    (ascending : ordered.Pairwise fun a b => a.1 ≤ b.1) :
    ordered.map Prod.snd = p.arrange values :=
  congrArg (List.map Prod.snd) (sorted_unique sound.places each same ascending
    (p.arrangement_perm values) (p.arrangement_ascending values))

/-- A row that fits the columns gives its values. -/
theorem rowValues_fits {row : Row} (fits : row.Fits p.columns.length) :
    p.rowValues row = .ok row.values := by
  cases row with
  | scalar value => exact if_pos fits
  | tuple values => exact if_pos fits

/-- A row that does not fit the columns is refused with its form. -/
theorem rowValues_misfit {row : Row} (misfit : ¬row.Fits p.columns.length) :
    p.rowValues row = .error (.rowShape p.columns.length row.form) := by
  cases row with
  | scalar value => exact if_neg misfit
  | tuple values => exact if_neg misfit

/-- The fields of a fitting row are converted one by one in the order of the schema. -/
theorem reassemble_fits (sound : p.Sound) (coerceTypes : Bool) {row : Row}
    (fits : row.Fits p.schema.fields.length) :
    p.reassemble coerceTypes row = ((p.schema.fields.zip (p.arrange row.values)).mapM
      fun pair => fieldValue coerceTypes pair.1 pair.2).map Record.mk := by
  rw [reassemble, rowValues_fits (sound.columns ▸ fits), Traversal.ok_bind, Traversal.bind_pure]

/-- The record of a row as it is: its arranged values under the names of the schema. -/
def rawRecord (p : Plan) (row : Row) : Record :=
  ⟨p.schema.names.zip (p.arrange row.values)⟩

/-- A fitting row has an arranged value for each name of the schema. -/
theorem length_names_arrange (sound : p.Sound) {row : Row}
    (fits : row.Fits p.schema.fields.length) :
    p.schema.names.length = (p.arrange row.values).length := by
  rw [length_arrange sound ((row.fits_iff_length _).1 fits), RecordSchema.length_names]

/-- The record of a fitting row has the names of the schema. -/
theorem rawRecord_names (sound : p.Sound) {row : Row} (fits : row.Fits p.schema.fields.length) :
    (p.rawRecord row).names = p.schema.names := by
  exact List.map_fst_zip (Nat.le_of_eq (length_names_arrange sound fits))

/-- The record of a fitting row has the arranged values. -/
theorem rawRecord_values (sound : p.Sound) {row : Row} (fits : row.Fits p.schema.fields.length) :
    (p.rawRecord row).values = p.arrange row.values := by
  exact List.map_snd_zip (Nat.le_of_eq (length_names_arrange sound fits).symm)

/-- Without conversion a fitting row becomes its record as it is. -/
theorem reassemble_raw (sound : p.Sound) {row : Row} (fits : row.Fits p.schema.fields.length) :
    p.reassemble false row = .ok (p.rawRecord row) := by
  have named : (p.schema.fields.zip (p.arrange row.values)).mapM
      (fun pair => fieldValue false pair.1 pair.2) =
        .ok ((p.schema.fields.zip (p.arrange row.values)).map (Prod.map FieldDecl.name id)) :=
    Traversal.mapM_eq_ok_map fun _ _ => rfl
  rw [reassemble_fits sound false fits, named, rawRecord, RecordSchema.names, List.zip_map_left]
  rfl

/-- A row that does not fit is refused before any value is looked at. -/
theorem reassemble_misfit (sound : p.Sound) (coerceTypes : Bool) {row : Row}
    (misfit : ¬row.Fits p.schema.fields.length) :
    p.reassemble coerceTypes row = .error (.rowShape p.schema.fields.length row.form) := by
  rw [← sound.columns] at misfit ⊢
  rw [reassemble, rowValues_misfit misfit]
  rfl

/-- What a record keeps of its row: every value at the place that its column fills, found again
under the name of that place, and not lost when the members are sorted by name. -/
structure Restores (p : Plan) (row : Row) (record : Record) : Prop where
  names : record.names = p.schema.names
  placed : ∀ column place : Nat, p.fieldForColumn[column]? = some place →
    record.values[place]? = row.values[column]?
  found : ∀ (place : Nat) (decl : FieldDecl), p.schema.fields[place]? = some decl →
    record.get? decl.name = record.values[place]?
  members : record.toMembers.Perm record.fields

/-- The record of a fitting row as it is keeps all of the row. -/
theorem rawRecord_restores (sound : p.Sound) {row : Row} (fits : row.Fits p.schema.fields.length) :
    p.Restores row (p.rawRecord row) := by
  have each := (row.fits_iff_length _).1 fits
  have names := rawRecord_names sound fits
  have values := rawRecord_values sound fits
  have distinct : ((p.rawRecord row).fields.map Prod.fst).Nodup := by
    have named : (p.rawRecord row).fields.map Prod.fst = p.schema.names := names
    exact named ▸ sound.distinct
  refine ⟨names, ?_, ?_, Entries.sortMembers_perm distinct⟩
  · intro column place filled
    rw [values, arrange_place sound each filled]
  · intro place decl declared
    have inside : place < (p.arrange row.values).length := by
      rw [length_arrange sound each]
      exact (List.getElem?_eq_some_iff.1 declared).1
    have value := List.getElem?_eq_getElem inside
    have name : p.schema.names[place]? = some decl.name := by
      rw [RecordSchema.getElem?_names, declared]
      rfl
    have entry : (decl.name, (p.arrange row.values)[place]) ∈ (p.rawRecord row).fields :=
      List.mem_of_getElem? (List.getElem?_zip_eq_some.2 ⟨name, value⟩)
    rw [values, value]
    exact (Entries.find?_eq_some distinct _ _).2 entry

/-- The pairs of columns and places of a plan belong together. -/
theorem build_column (name : String) {schema : RecordSchema} (distinct : schema.names.Nodup)
    (overrides : Overrides) {index place : Nat} {column : Column}
    (asked : (build name schema overrides).columns[index]? = some column)
    (filled : (build name schema overrides).fieldForColumn[index]? = some place) :
    ∃ decl, schema.fields[place]? = some decl ∧ column = overrides.columnFor decl.name := by
  simp only [build, List.getElem?_map, Option.map_eq_some_iff] at asked filled
  obtain ⟨request, here, rfl⟩ := asked
  obtain ⟨same, there, rfl⟩ := filled
  rw [here] at there
  obtain rfl := Option.some.inj there
  exact (mem_requests distinct _ _).1 (List.mem_of_getElem? here)

/-- For whatever can be projected into, the plan that is made has one column for each field, its
places are a permutation of the places of the schema, and each column is the one that is
asked for the field at its place. Exactly the rows with one value per column are put back
together, without conversion: every value goes to the place that its column fills, however the
values are sorted by place, and is found under the name of the field there. Every other
row is refused with the number of fields. -/
theorem reassembly_exact {target : TypeDescriptor} {overrides : Overrides} {schema : RecordSchema}
    (valid : Projectable target overrides schema) :
    ∃ plan, make target overrides = .ok plan ∧ plan.schema = schema ∧
      plan.columns.length = schema.fields.length ∧
      plan.fieldForColumn.length = schema.fields.length ∧
      plan.fieldForColumn.Perm (List.range schema.fields.length) ∧
      (∀ (index place : Nat) (column : Column), plan.columns[index]? = some column →
        plan.fieldForColumn[index]? = some place →
          ∃ decl, schema.fields[place]? = some decl ∧ column = overrides.columnFor decl.name) ∧
      ∀ row : Row,
        ((∃ record, plan.reassemble false row = .ok record) ↔ row.Fits schema.fields.length) ∧
        (¬row.Fits schema.fields.length →
          plan.reassemble false row = .error (.rowShape schema.fields.length row.form)) ∧
        (∀ record, plan.reassemble false row = .ok record → plan.Restores row record) ∧
        ∀ ordered : List (Nat × Json.Value), row.Fits schema.fields.length →
          ordered.Perm (plan.fieldForColumn.zip row.values) →
          ordered.Pairwise (fun a b => a.1 ≤ b.1) →
            ordered.map Prod.snd = plan.arrange row.values := by
  have sound := build_sound target.name valid.distinct overrides
  refine ⟨_, make_projectable valid, rfl, sound.columns,
    sound.places.length_eq.trans List.length_range, sound.places,
    fun _ _ _ => build_column target.name valid.distinct overrides, ?_⟩
  intro row
  by_cases fits : row.Fits schema.fields.length
  · have assembled := reassemble_raw sound fits
    refine ⟨⟨fun _ => fits, fun _ => ⟨_, assembled⟩⟩, absurd fits, ?_, ?_⟩
    · intro record result
      rw [assembled] at result
      exact Except.ok.inj result ▸ rawRecord_restores sound fits
    · intro ordered _ same ascending
      exact arrange_unique sound ((row.fits_iff_length _).1 fits) same ascending
  · have refused := reassemble_misfit sound false fits
    refine ⟨⟨?_, fun fitting => absurd fitting fits⟩, fun _ => refused, ?_,
      fun _ fitting => absurd fitting fits⟩
    · rintro ⟨record, result⟩
      rw [refused] at result
      cases result
    · intro record result
      rw [refused] at result
      cases result

end Plan

/-- A record of a widget with the name of its owner. -/
def widgetSchema : RecordSchema :=
  ⟨[⟨"id", .integer⟩, ⟨"name", .string⟩, ⟨"owner_name", .nilable .string⟩]⟩

/-- The type of widget records. -/
def widget : TypeDescriptor := ⟨"WidgetRow", .record widgetSchema⟩

/-- Overrides of the last field and of the first, in this order. -/
def widgetOverrides : Overrides :=
  .ofList [("owner_name", "owners.name"), ("id", "widgets.legacy_id")]

/-- Widgets can be projected into with these overrides. -/
theorem widget_projectable : Projectable widget widgetOverrides widgetSchema where
  record := rfl
  distinct := by decide
  known := by decide

/-- A widget row of three values is put back together, and a bare value is refused. -/
theorem reassembly_exact_widget : Projectable widget widgetOverrides widgetSchema ∧
    ∃ plan, Plan.make widget widgetOverrides = .ok plan ∧
      plan.fieldForColumn.Perm (List.range 3) ∧
      (∃ record, plan.reassemble false (.tuple [.string "Widget", .string "Alice", .null]) =
        .ok record ∧ record.names = ["id", "name", "owner_name"]) ∧
      plan.reassemble false (.scalar .null) = .error (.rowShape 3 .scalar) := by
  obtain ⟨plan, made, schema, -, -, places, -, rows⟩ := Plan.reassembly_exact widget_projectable
  obtain ⟨record, assembled⟩ := (rows (.tuple [.string "Widget", .string "Alice", .null])).1.2 rfl
  have restored := (rows _).2.2.1 record assembled
  refine ⟨widget_projectable, plan, made, places, ⟨record, assembled, ?_⟩, ?_⟩
  · rw [restored.names, schema]
    rfl
  · exact (rows (.scalar .null)).2.1 (by decide)

end RecordTyping

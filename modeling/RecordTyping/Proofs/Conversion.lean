import RecordTyping.Proofs.Query

/-!
# Projection with conversion

A projection that converts is the projection that does not, with every value of every record
replaced by its conversion. It fails exactly when the first projection fails or a value cannot
be converted, with the first error in the order of the rows, of the checks of a row and of the
fields of the schema; the order of the request plays no part in it.
-/

namespace RecordTyping

namespace Record

/-- Every value of a record under a field of the schema converts to the type of the field. -/
def Convertible (schema : RecordSchema) (raw : Record) : Prop :=
  ∀ (place : Nat) (decl : FieldDecl) (value : Json.Value), schema.fields[place]? = some decl →
    raw.fields[place]? = some (decl.name, value) → ∃ image, coerce decl.type value = .ok image

/-- A record holds the conversions of the values of another one, field by field. -/
structure Converts (schema : RecordSchema) (raw converted : Record) : Prop where
  rawSize : raw.fields.length = schema.fields.length
  size : converted.fields.length = schema.fields.length
  entries : ∀ (place : Nat) (decl : FieldDecl), schema.fields[place]? = some decl →
    ∃ value image, raw.fields[place]? = some (decl.name, value) ∧
      coerce decl.type value = .ok image ∧ converted.fields[place]? = some (decl.name, image)

end Record

namespace Plan

variable {p : Plan} {row : Row}

/-- Why a row fails to become a record of converted values: its shape, or the first value in the
order of the schema that cannot be converted. -/
inductive Fault (p : Plan) (row : Row) : ProjectionError → Prop where
  | shape (misfit : ¬row.Fits p.schema.fields.length) :
    Fault p row (.rowShape p.schema.fields.length row.form)
  | value {record : Record} {place : Nat} {decl : FieldDecl} {value : Json.Value}
      {e : CoercionError} (assembled : p.reassemble false row = .ok record)
      (declared : p.schema.fields[place]? = some decl)
      (held : record.fields[place]? = some (decl.name, value))
      (refused : coerce decl.type value = .error e)
      (earlier : ∀ before < place, ∀ (other : FieldDecl) (found : Json.Value),
        p.schema.fields[before]? = some other →
          record.fields[before]? = some (other.name, found) →
            ∃ image, coerce other.type found = .ok image) :
    Fault p row (.coercion decl.name e)

/-- A field that is converted holds the conversion under its name. -/
theorem fieldValue_eq_ok {decl : FieldDecl} {raw : Json.Value} {entry : String × Json.Value} :
    fieldValue true decl raw = .ok entry ↔
      ∃ image, coerce decl.type raw = .ok image ∧ (decl.name, image) = entry := by
  cases converted : coerce decl.type raw <;> simp [fieldValue, converted]

/-- A field that cannot be converted is named in the error, with the error of its value. -/
theorem fieldValue_eq_error {decl : FieldDecl} {raw : Json.Value} {e : ProjectionError} :
    fieldValue true decl raw = .error e ↔
      ∃ reason, coerce decl.type raw = .error reason ∧ .coercion decl.name reason = e := by
  cases converted : coerce decl.type raw <;> simp [fieldValue, converted]

/-- The pairs that are converted are the fields of the schema and what the record of the row as it
is holds under their names. -/
theorem paired_iff {place : Nat} {decl : FieldDecl} {value : Json.Value} :
    (p.schema.fields.zip (p.arrange row.values))[place]? = some (decl, value) ↔
      p.schema.fields[place]? = some decl ∧
        (p.rawRecord row).fields[place]? = some (decl.name, value) := by
  rw [rawRecord, List.getElem?_zip_eq_some, List.getElem?_zip_eq_some, RecordSchema.getElem?_names]
  constructor
  · rintro ⟨declared, arranged⟩
    exact ⟨declared, by rw [declared]; rfl, arranged⟩
  · rintro ⟨declared, -, arranged⟩
    exact ⟨declared, arranged⟩

/-- The record of a fitting row has a value for each field. -/
theorem rawRecord_value (sound : p.Sound) (fits : row.Fits p.schema.fields.length) {place : Nat}
    {decl : FieldDecl} (declared : p.schema.fields[place]? = some decl) :
    ∃ value, (p.rawRecord row).fields[place]? = some (decl.name, value) := by
  have each := (row.fits_iff_length _).1 fits
  have inside : place < (p.arrange row.values).length := by
    rw [length_arrange sound each]
    exact (List.getElem?_eq_some_iff.1 declared).1
  have paired : (p.schema.fields.zip (p.arrange row.values))[place]? =
      some (decl, (p.arrange row.values)[place]) :=
    List.getElem?_zip_eq_some.2 ⟨declared, List.getElem?_eq_getElem inside⟩
  exact ⟨_, (paired_iff.1 paired).2⟩

/-- The record of a fitting row has as many entries as the schema has fields. -/
theorem rawRecord_size (sound : p.Sound) (fits : row.Fits p.schema.fields.length) :
    (p.rawRecord row).fields.length = p.schema.fields.length := by
  have names := congrArg List.length (rawRecord_names sound fits)
  rwa [Record.names, List.length_map, RecordSchema.length_names] at names

/-- With conversion a fitting row becomes the conversion of its record as it is. -/
theorem reassemble_converts (sound : p.Sound) (fits : row.Fits p.schema.fields.length)
    {converted : Record} :
    p.reassemble true row = .ok converted ↔ (p.rawRecord row).Converts p.schema converted := by
  have each := (row.fits_iff_length _).1 fits
  have pairs : (p.schema.fields.zip (p.arrange row.values)).length = p.schema.fields.length := by
    rw [List.length_zip, length_arrange sound each, Nat.min_self]
  have whole : p.reassemble true row = .ok converted ↔
      (p.schema.fields.zip (p.arrange row.values)).mapM
        (fun pair => fieldValue true pair.1 pair.2) = .ok converted.fields := by
    rw [reassemble_fits sound true fits, Traversal.map_eq_ok]
    constructor
    · rintro ⟨fields, passed, rfl⟩
      exact passed
    · exact fun passed => ⟨_, passed, rfl⟩
  rw [whole, Traversal.mapM_eq_ok_getElem?, pairs]
  constructor
  · rintro ⟨size, entries⟩
    refine ⟨rawRecord_size sound fits, size, ?_⟩
    intro place decl declared
    obtain ⟨value, held⟩ := rawRecord_value sound fits declared
    obtain ⟨entry, found, passed⟩ := entries place (decl, value) (paired_iff.2 ⟨declared, held⟩)
    obtain ⟨image, converts, rfl⟩ := fieldValue_eq_ok.1 passed
    exact ⟨value, image, held, converts, found⟩
  · intro conversion
    refine ⟨conversion.size, ?_⟩
    rintro place ⟨decl, value⟩ paired
    obtain ⟨declared, held⟩ := paired_iff.1 paired
    obtain ⟨same, image, here, converts, found⟩ := conversion.entries place decl declared
    rw [held, Option.some.injEq, Prod.mk.injEq] at here
    obtain ⟨-, rfl⟩ := here
    exact ⟨_, found, fieldValue_eq_ok.2 ⟨image, converts, rfl⟩⟩

/-- With conversion a row is refused exactly with its faults. -/
theorem reassemble_fault (sound : p.Sound) {e : ProjectionError} :
    p.reassemble true row = .error e ↔ p.Fault row e := by
  by_cases fits : row.Fits p.schema.fields.length
  · have raw := reassemble_raw sound fits
    rw [reassemble_fits sound true fits, Traversal.map_eq_error, Traversal.mapM_eq_error]
    constructor
    · rintro ⟨place, ⟨decl, value⟩, paired, earlier, refused⟩
      obtain ⟨declared, held⟩ := paired_iff.1 paired
      obtain ⟨reason, failed, rfl⟩ := fieldValue_eq_error.1 refused
      refine .value raw declared held failed ?_
      intro before less other found known holds
      obtain ⟨entry, passed⟩ := earlier before less (other, found) (paired_iff.2 ⟨known, holds⟩)
      obtain ⟨image, converts, -⟩ := fieldValue_eq_ok.1 passed
      exact ⟨image, converts⟩
    · intro fault
      cases fault with
      | shape misfit => exact absurd fits misfit
      | value assembled declared held refused earlier =>
        rw [raw] at assembled
        obtain rfl := Except.ok.inj assembled
        refine ⟨_, (_, _), paired_iff.2 ⟨declared, held⟩, ?_,
          fieldValue_eq_error.2 ⟨_, refused, rfl⟩⟩
        rintro before less ⟨other, found⟩ paired
        obtain ⟨known, holds⟩ := paired_iff.1 paired
        obtain ⟨image, converts⟩ := earlier before less other found known holds
        exact ⟨_, fieldValue_eq_ok.2 ⟨image, converts, rfl⟩⟩
  · rw [reassemble_misfit sound true fits, Except.error.injEq]
    constructor
    · rintro rfl
      exact .shape fits
    · intro fault
      cases fault with
      | shape => rfl
      | value assembled =>
        rw [reassemble_misfit sound false fits] at assembled
        cases assembled

/-- A row becomes a record without conversion exactly when it fits, and then it is its record. -/
theorem reassemble_raw_eq_ok (sound : p.Sound) {raw : Record} :
    p.reassemble false row = .ok raw ↔ row.Fits p.schema.fields.length ∧ p.rawRecord row = raw := by
  by_cases fits : row.Fits p.schema.fields.length
  · rw [reassemble_raw sound fits, Except.ok.injEq]
    exact ⟨fun same => ⟨fits, same⟩, And.right⟩
  · rw [reassemble_misfit sound false fits]
    simp [fits]

/-- A row becomes a record with conversion exactly when it fits and the record is the conversion of
its record as it is. -/
theorem reassemble_converted_eq_ok (sound : p.Sound) {converted : Record} :
    p.reassemble true row = .ok converted ↔
      row.Fits p.schema.fields.length ∧ (p.rawRecord row).Converts p.schema converted := by
  by_cases fits : row.Fits p.schema.fields.length
  · rw [reassemble_converts sound fits]
    exact ⟨fun conversion => ⟨fits, conversion⟩, And.right⟩
  · rw [reassemble_misfit sound true fits]
    simp [fits]

/-- A row becomes a record of converted values exactly when it becomes a record of values that
can be converted. -/
theorem reassemble_convertible (sound : p.Sound) :
    (∃ converted, p.reassemble true row = .ok converted) ↔
      ∃ raw, p.reassemble false row = .ok raw ∧ raw.Convertible p.schema := by
  constructor
  · rintro ⟨converted, result⟩
    obtain ⟨fits, conversion⟩ := (reassemble_converted_eq_ok sound).1 result
    refine ⟨_, reassemble_raw sound fits, ?_⟩
    intro place decl value declared held
    obtain ⟨same, image, here, converts, -⟩ := conversion.entries place decl declared
    rw [held, Option.some.injEq, Prod.mk.injEq] at here
    exact ⟨image, here.2 ▸ converts⟩
  · rintro ⟨raw, assembled, convertible⟩
    cases result : p.reassemble true row with
    | ok converted => exact ⟨converted, rfl⟩
    | error e =>
      cases (reassemble_fault sound).1 result with
      | shape misfit => exact absurd ((reassemble_raw_eq_ok sound).1 assembled).1 misfit
      | value also declared held refused =>
        obtain rfl := Except.ok.inj (assembled.symm.trans also)
        obtain ⟨image, converts⟩ := convertible _ _ _ declared held
        rw [refused] at converts
        cases converts

/-- Rows become records without conversion exactly when all of them fit. -/
theorem mapM_raw_eq_ok (sound : p.Sound) {rows : List Row} {raw : List Record} :
    rows.mapM (p.reassemble false) = .ok raw ↔
      (∀ row ∈ rows, row.Fits p.schema.fields.length) ∧ rows.map p.rawRecord = raw := by
  simp only [Traversal.mapM_eq_ok, reassemble_raw_eq_ok sound]
  rw [List.forall₂_and_left, ← List.forall₂_map_left_iff (R := Eq), List.forall₂_eq_eq_eq]

/-- Rows become records of converted values exactly when they become records whose values are then
converted one by one. -/
theorem mapM_converts (sound : p.Sound) {rows : List Row} {converted : List Record} :
    rows.mapM (p.reassemble true) = .ok converted ↔
      ∃ raw, rows.mapM (p.reassemble false) = .ok raw ∧
        List.Forall₂ (Record.Converts p.schema) raw converted := by
  simp only [mapM_raw_eq_ok sound, Traversal.mapM_eq_ok, reassemble_converted_eq_ok sound]
  rw [List.forall₂_and_left, ← List.forall₂_map_left_iff]
  constructor
  · rintro ⟨fits, conversions⟩
    exact ⟨_, ⟨fits, rfl⟩, conversions⟩
  · rintro ⟨_, ⟨fits, rfl⟩, conversions⟩
    exact ⟨fits, conversions⟩

/-- Rows become records of converted values exactly when they become records of values that can be
converted. -/
theorem mapM_convertible (sound : p.Sound) {rows : List Row} :
    (∃ converted, rows.mapM (p.reassemble true) = .ok converted) ↔
      ∃ raw, rows.mapM (p.reassemble false) = .ok raw ∧
        ∀ record ∈ raw, record.Convertible p.schema := by
  constructor
  · rintro ⟨converted, result⟩
    have members := Traversal.mapM_ok_members result
    refine ⟨rows.map p.rawRecord, (mapM_raw_eq_ok sound).2 ⟨?_, rfl⟩, ?_⟩
    · intro row member
      obtain ⟨raw, assembled, -⟩ := (reassemble_convertible sound).1 (members row member)
      exact ((reassemble_raw_eq_ok sound).1 assembled).1
    · intro record member
      obtain ⟨row, here, rfl⟩ := List.mem_map.1 member
      obtain ⟨raw, assembled, convertible⟩ := (reassemble_convertible sound).1 (members row here)
      exact ((reassemble_raw_eq_ok sound).1 assembled).2 ▸ convertible
  · rintro ⟨raw, result, convertible⟩
    obtain ⟨fits, rfl⟩ := (mapM_raw_eq_ok sound).1 result
    apply Traversal.mapM_total
    intro row member
    exact (reassemble_convertible sound).2 ⟨_, reassemble_raw sound (fits row member),
      convertible _ (List.mem_map_of_mem member)⟩

end Plan

/-- The projection that converts refines the one that does not. For whatever can be projected into
and all rows that the source answers with: it succeeds exactly when the other one does and
every value converts to the type of its field, and then its records are those of the other one
with each value replaced by its conversion. Otherwise its error is that of the first row at
fault, which is its shape or else the first field of the schema whose value does not convert. -/
theorem conversion_refines {σ : Type} (source : RowSource σ) {target : TypeDescriptor}
    {overrides : Overrides} {schema : RecordSchema} (valid : Projectable target overrides schema)
    (state : σ) {rows : List Row}
    (answered : (source.pluck (Plan.request schema overrides) state).1 = .ok rows) :
    ∃ plan, Plan.make target overrides = .ok plan ∧ plan.schema = schema ∧
      ((∃ converted, (project source target overrides true state).1 = .ok converted) ↔
        ∃ raw, (project source target overrides false state).1 = .ok raw ∧
          ∀ record ∈ raw, record.Convertible schema) ∧
      (∀ converted, (project source target overrides true state).1 = .ok converted ↔
        ∃ raw, (project source target overrides false state).1 = .ok raw ∧
          List.Forall₂ (Record.Converts schema) raw converted) ∧
      (∀ e, (project source target overrides true state).1 = .error e ↔
        ∃ (index : Nat) (row : Row), rows[index]? = some row ∧
          (∀ before < index, ∀ earlier, rows[before]? = some earlier →
            ∃ raw, plan.reassemble false earlier = .ok raw ∧ raw.Convertible schema) ∧
          plan.Fault row e) := by
  have sound := Plan.build_sound target.name valid.distinct overrides
  refine ⟨_, Plan.make_projectable valid, rfl, ?_⟩
  rw [project_answered source valid true answered, project_answered source valid false answered]
  refine ⟨Plan.mapM_convertible sound, fun _ => Plan.mapM_converts sound, ?_⟩
  intro e
  simp only [Traversal.mapM_eq_error, Plan.reassemble_fault sound,
    Plan.reassemble_convertible sound]
  exact Iff.rfl

/-- Two rows at fault: in the first one the values of the fields `id` and `name` do not convert,
and of these `name` is asked for first; the second one is a bare value. -/
def faultyRows : List Row := [.tuple [.null, .string "Alice", .string "x"], .scalar .null]

/-- A source that always answers with the rows at fault. -/
def faulty : RowSource Unit := .ofAnswers fun _ => .ok faultyRows

/-- The field that is reported is the first one of the schema, in the first row. -/
theorem conversion_refines_widget : Projectable widget widgetOverrides widgetSchema ∧
    (faulty.pluck (Plan.request widgetSchema widgetOverrides) ()).1 = .ok faultyRows ∧
    (project faulty widget widgetOverrides true ()).1 =
      .error (.coercion "id" ⟨.integer, .string "x", .numeral .badDigit⟩) := by
  have answered :
      (faulty.pluck (Plan.request widgetSchema widgetOverrides) ()).1 = .ok faultyRows := rfl
  obtain ⟨plan, made, -, -, -, errors⟩ := conversion_refines faulty widget_projectable () answered
  refine ⟨widget_projectable, answered, (errors _).2 ⟨0, _, rfl, by simp, ?_⟩⟩
  rw [Plan.make_projectable widget_projectable] at made
  obtain rfl := Except.ok.inj made
  have sound := Plan.build_sound "WidgetRow" widget_projectable.distinct widgetOverrides
  have assembled : (Plan.build "WidgetRow" widgetSchema widgetOverrides).reassemble false
      (.tuple [.null, .string "Alice", .string "x"]) =
        .ok ⟨widgetSchema.names.zip [.string "x", .null, .string "Alice"]⟩ := by
    have ascending : [(0, Json.Value.string "x"), (1, .null), (2, .string "Alice")].Pairwise
        fun a b => a.1 ≤ b.1 := by simp
    have same : [(0, Json.Value.string "x"), (1, .null), (2, .string "Alice")].Perm
        [(1, .null), (2, .string "Alice"), (0, .string "x")] :=
      (List.perm_append_singleton (0, _) [(1, _), (2, _)]).symm
    have arranged : [.string "x", .null, .string "Alice"] =
        (Plan.build "WidgetRow" widgetSchema widgetOverrides).arrange
          [.null, .string "Alice", .string "x"] := Plan.arrange_unique sound rfl same ascending
    rw [Plan.reassemble_raw sound (by decide), arranged]
    rfl
  have refused : coerce .integer (.string "x") =
      .error ⟨.integer, .string "x", .numeral .badDigit⟩ := rfl
  have declared : widgetSchema.fields[0]? = some ⟨"id", .integer⟩ := rfl
  exact .value assembled declared rfl refused (by simp)

end RecordTyping

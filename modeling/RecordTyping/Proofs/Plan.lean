import Mathlib.Data.List.Nodup
import RecordTyping.Projection
import RecordTyping.Proofs.Overrides
import RecordTyping.Proofs.Schema

/-!
# What a plan asks for

A plan asks for one column per field of the schema. The pairs of a field's place and its
column are exactly those of the schema's fields, so the places are a permutation of all places
of the schema, whatever the number and the order of the overrides. The checks of a plan refuse a
type that is no record, then a repeated field, then the overridden fields that do not exist.
-/

namespace RecordTyping

namespace Overrides

/-- The column that is asked for a field: its expression if it is overridden, else itself. -/
def columnFor (o : Overrides) (field : String) : Column :=
  match o.get? field with
  | some expression => .expression expression
  | none => .field field

/-- The name under which a source knows the values of a field. -/
def sourceName (o : Overrides) (field : String) : String := (o.get? field).getD field

/-- The column of a field is known by the source name of the field. -/
theorem columnFor_name (o : Overrides) (field : String) :
    (o.columnFor field).name = o.sourceName field := by
  unfold columnFor sourceName
  cases o.get? field <;> rfl

end Overrides

/-- A type that can be projected into with some overrides: a record of distinct names that
has every overridden field. -/
structure Projectable (target : TypeDescriptor) (overrides : Overrides) (schema : RecordSchema) :
    Prop where
  record : target.kind = .record schema
  distinct : schema.names.Nodup
  known : ∀ field ∈ overrides.keys, field ∈ schema.names

/-- Why a type cannot be projected into with some overrides. The reasons exclude each other: a
type that is no record comes before a repeated field, and that before overridden fields that do
not exist, which are listed in the order of the overrides. -/
inductive Refusal (target : TypeDescriptor) (overrides : Overrides) : ProjectionError → Prop where
  | notARecord (other : ∀ schema, target.kind ≠ .record schema) :
    Refusal target overrides (.schema (.notARecord target.name target.kind.label))
  | repeatedField {schema : RecordSchema} {field : String} (record : target.kind = .record schema)
      (repeated : FirstRepeat schema.names field) :
    Refusal target overrides (.schema (.duplicateField target.name field))
  | unknownFields {schema : RecordSchema} (record : target.kind = .record schema)
      (distinct : schema.names.Nodup)
      (unknown : ¬∀ field ∈ overrides.keys, field ∈ schema.names) :
    Refusal target overrides
      (.unknownOverrides target.name (overrides.keys.filter (· ∉ schema.names)))

/-- Every type can be projected into with every overrides, or there is a reason why not. -/
theorem projectable_or_refusal (target : TypeDescriptor) (overrides : Overrides) :
    (∃ schema, Projectable target overrides schema) ∨ ∃ e, Refusal target overrides e := by
  by_cases other : ∀ schema, target.kind ≠ .record schema
  · exact Or.inr ⟨_, .notARecord other⟩
  · simp only [ne_eq, not_forall, not_not] at other
    obtain ⟨schema, record⟩ := other
    rcases nodup_or_firstRepeat schema.names with distinct | ⟨field, repeated⟩
    · by_cases known : ∀ field ∈ overrides.keys, field ∈ schema.names
      · exact Or.inl ⟨schema, record, distinct, known⟩
      · exact Or.inr ⟨_, .unknownFields record distinct known⟩
    · exact Or.inr ⟨_, .repeatedField record repeated⟩

namespace Plan

variable {schema : RecordSchema} {overrides : Overrides}

/-- The own columns are those of the fields that are not overridden. -/
theorem mem_ownColumns (place : Nat) (column : Column) :
    (place, column) ∈ ownColumns schema overrides ↔ ∃ decl, schema.fields[place]? = some decl ∧
      overrides.get? decl.name = none ∧ column = .field decl.name := by
  simp only [ownColumns, List.mem_map, List.mem_filter, Prod.exists, List.mem_zipIdx_iff_getElem?,
    Overrides.contains, Option.not_isSome, Option.isNone_iff_eq_none, Prod.mk.injEq]
  constructor
  · rintro ⟨decl, _, ⟨found, own⟩, rfl, rfl⟩
    exact ⟨decl, found, own, rfl⟩
  · rintro ⟨decl, found, own, rfl⟩
    exact ⟨decl, place, ⟨found, own⟩, rfl, rfl⟩

/-- The redirected columns are those of the fields that are overridden. -/
theorem mem_redirectedColumns (distinct : schema.names.Nodup) (place : Nat) (column : Column) :
    (place, column) ∈ redirectedColumns schema overrides ↔
      ∃ decl expression, schema.fields[place]? = some decl ∧
        overrides.get? decl.name = some expression ∧ column = .expression expression := by
  simp only [redirectedColumns, List.mem_filterMap, Prod.exists, Option.map_eq_some_iff,
    Prod.mk.injEq]
  constructor
  · rintro ⟨field, expression, entry, _, index, rfl, rfl⟩
    obtain ⟨decl, found, rfl⟩ := RecordSchema.index?_eq_some index
    exact ⟨decl, expression, found, (overrides.get?_eq_some _ _).2 entry, rfl⟩
  · rintro ⟨decl, expression, found, entry, rfl⟩
    exact ⟨decl.name, expression, (overrides.get?_eq_some _ _).1 entry, place,
      RecordSchema.index?_name distinct found, rfl, rfl⟩

/-- The requests are exactly the columns of the fields, each with the place of its field. -/
theorem mem_requests (distinct : schema.names.Nodup) (place : Nat) (column : Column) :
    (place, column) ∈ requests schema overrides ↔ ∃ decl, schema.fields[place]? = some decl ∧
      column = overrides.columnFor decl.name := by
  rw [requests, List.mem_append, mem_ownColumns, mem_redirectedColumns distinct]
  constructor
  · rintro (⟨decl, found, own, rfl⟩ | ⟨decl, expression, found, entry, rfl⟩)
    · exact ⟨decl, found, by simp [Overrides.columnFor, own]⟩
    · exact ⟨decl, found, by simp [Overrides.columnFor, entry]⟩
  · rintro ⟨decl, found, rfl⟩
    cases entry : overrides.get? decl.name with
    | none => exact Or.inl ⟨decl, found, entry, by simp [Overrides.columnFor, entry]⟩
    | some expression =>
      exact Or.inr ⟨decl, expression, found, entry, by simp [Overrides.columnFor, entry]⟩

/-- The own columns fill places in the order of the schema. -/
theorem ownColumns_places :
    ((ownColumns schema overrides).map Prod.fst).Sublist (List.range schema.fields.length) := by
  have order : (schema.fields.zipIdx.map Prod.snd) = List.range schema.fields.length := by
    rw [List.zipIdx_map_snd, List.range_eq_range']
  rw [← order, ownColumns, List.map_map]
  exact List.filter_sublist.map Prod.snd

/-- The redirected columns fill the places of the overridden fields. -/
theorem redirectedColumns_places :
    (redirectedColumns schema overrides).map Prod.fst = overrides.keys.filterMap schema.index? := by
  rw [redirectedColumns, Overrides.keys, List.map_filterMap, List.filterMap_map]
  congr 1
  funext entry
  simp [Function.comp_def]

/-- No place is filled twice. -/
theorem requests_places_nodup (distinct : schema.names.Nodup) :
    ((requests schema overrides).map Prod.fst).Nodup := by
  rw [requests, List.map_append, List.nodup_append]
  refine ⟨ownColumns_places.nodup List.nodup_range, ?_, ?_⟩
  · rw [redirectedColumns_places]
    refine List.Nodup.filterMap ?_ overrides.distinct
    intro first second place here there
    obtain ⟨decl, found, rfl⟩ := RecordSchema.index?_eq_some here
    obtain ⟨other, again, rfl⟩ := RecordSchema.index?_eq_some there
    rw [found] at again
    rw [Option.some.inj again]
  · -- The field of an own column has no expression, and that of a redirected one has.
    intro place own _ redirected same
    subst same
    obtain ⟨⟨_, column⟩, here, rfl⟩ := List.mem_map.1 own
    obtain ⟨⟨_, other⟩, there, rfl⟩ := List.mem_map.1 redirected
    obtain ⟨decl, found, bare, -⟩ := (mem_ownColumns _ _).1 here
    obtain ⟨again, expression, foundAgain, entry, -⟩ := (mem_redirectedColumns distinct _ _).1 there
    rw [found] at foundAgain
    rw [← Option.some.inj foundAgain, bare] at entry
    cases entry

/-- The places that the requests fill are all places of the schema, each once. -/
theorem requests_places_perm (distinct : schema.names.Nodup) :
    ((requests schema overrides).map Prod.fst).Perm (List.range schema.fields.length) := by
  rw [List.perm_ext_iff_of_nodup (requests_places_nodup distinct) List.nodup_range]
  intro place
  rw [List.mem_range, List.mem_map]
  constructor
  · rintro ⟨⟨_, column⟩, member, rfl⟩
    obtain ⟨decl, found, -⟩ := (mem_requests distinct _ _).1 member
    exact (List.getElem?_eq_some_iff.1 found).1
  · intro inside
    have found := List.getElem?_eq_getElem inside
    exact ⟨_, (mem_requests distinct place _).2 ⟨_, found, rfl⟩, rfl⟩

/-- What is asked of a source: the fields that are not overridden, in the order of the schema, and
then the expressions, in the order of the overrides. -/
def request (schema : RecordSchema) (overrides : Overrides) : List Column :=
  (schema.names.filter (· ∉ overrides.keys)).map Column.field ++
    overrides.entries.map fun entry => .expression entry.2

/-- The own columns are asked for in the order of the schema. -/
theorem ownColumns_columns : (ownColumns schema overrides).map Prod.snd =
    (schema.names.filter fun field => !overrides.contains field).map Column.field := by
  have fields : (schema.fields.zipIdx.filter fun pair => !overrides.contains pair.1.name).map
      Prod.fst = schema.fields.filter fun decl => !overrides.contains decl.name := by
    conv_rhs => rw [← List.zipIdx_map_fst 0 schema.fields, List.filter_map]
    rfl
  calc (ownColumns schema overrides).map Prod.snd
      = ((schema.fields.zipIdx.filter fun pair => !overrides.contains pair.1.name).map
          Prod.fst).map (Column.field ∘ FieldDecl.name) := by
        rw [ownColumns, List.map_map, List.map_map]
        rfl
    _ = (schema.names.filter fun field => !overrides.contains field).map Column.field := by
        rw [fields, RecordSchema.names, List.filter_map, List.map_map]
        rfl

/-- The redirected columns are asked for in the order of the overrides, and none is left out. -/
theorem redirectedColumns_columns (known : ∀ field ∈ overrides.keys, field ∈ schema.names) :
    (redirectedColumns schema overrides).map Prod.snd =
      overrides.entries.map fun entry => .expression entry.2 := by
  rw [redirectedColumns, List.map_filterMap, ← List.filterMap_eq_map]
  apply List.filterMap_congr
  rintro ⟨field, expression⟩ entry
  have here : field ∈ schema.names := known field (List.mem_map_of_mem entry)
  cases index : schema.index? field with
  | some place => simp [index]
  | none =>
    obtain ⟨decl, member, same⟩ := List.mem_map.1 here
    have absent := List.findIdx?_eq_none_iff.1 index decl member
    simp [same] at absent

/-- The columns of a plan are those of the request. -/
theorem build_columns (name : String) (known : ∀ field ∈ overrides.keys, field ∈ schema.names) :
    (build name schema overrides).columns = request schema overrides := by
  have own : (schema.names.filter fun field => !overrides.contains field) =
      schema.names.filter (· ∉ overrides.keys) := by
    apply List.filter_congr
    intro field _
    rw [← Bool.coe_iff_coe]
    simp [← Overrides.contains_iff]
  rw [build, requests, List.map_append, ownColumns_columns, redirectedColumns_columns known, own,
    request]

variable {target : TypeDescriptor}

/-- The overridden fields that are refused are those that are not among the names. -/
theorem unknown_fields (schema : RecordSchema) (overrides : Overrides) :
    (overrides.keys.filter fun key => !schema.contains key) =
      overrides.keys.filter (· ∉ schema.names) := by
  apply List.filter_congr
  intro key _
  rw [← Bool.coe_iff_coe]
  simp [← RecordSchema.contains_iff]

/-- After the check for a record schema only overridden fields that do not exist are refused. -/
theorem make_checked (checked : target.recordSchema = .ok schema) :
    make target overrides =
      if ∀ field ∈ overrides.keys, field ∈ schema.names then
        .ok (build target.name schema overrides)
      else .error (.unknownOverrides target.name (overrides.keys.filter (· ∉ schema.names))) := by
  have none : overrides.keys.filter (· ∉ schema.names) = [] ↔
      ∀ field ∈ overrides.keys, field ∈ schema.names := by simp [List.filter_eq_nil_iff]
  unfold make
  rw [checked]
  simp only [← none, Except.mapError, bind, Except.bind, pure, Except.pure, unknown_fields]
  cases overrides.keys.filter (· ∉ schema.names) <;> rfl

/-- A plan is made for whatever can be projected into. -/
theorem make_projectable (valid : Projectable target overrides schema) :
    make target overrides = .ok (build target.name schema overrides) := by
  rw [make_checked (TypeDescriptor.recordSchema_distinct valid.record valid.distinct),
    if_pos valid.known]

/-- Whatever is refused gets its error in place of a plan. -/
theorem make_refused {e : ProjectionError} (refusal : Refusal target overrides e) :
    make target overrides = .error e := by
  cases refusal with
  | notARecord other =>
    unfold make
    rw [TypeDescriptor.recordSchema_other other]
    rfl
  | repeatedField record repeated =>
    unfold make
    rw [TypeDescriptor.recordSchema_repeated record repeated]
    rfl
  | unknownFields record distinct unknown =>
    rw [make_checked (TypeDescriptor.recordSchema_distinct record distinct), if_neg unknown]

end Plan

end RecordTyping

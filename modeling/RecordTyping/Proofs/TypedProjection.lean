import RecordTyping.Proofs.Conversion

/-!
# Values built of projected rows

A typed projection has two stages. All rows become records first, and only then is a value built of
the object of each record. What would be built of a row is therefore without effect as long as a
row fails to become a record, whichever of the two comes first; after that the first record of
which no value can be built is the one that is reported. The object of a record is the record
itself: it has the names of the schema, sorted, and under each of them the value of the record.
-/

namespace RecordTyping

/-- The members of an object hold a record of a schema: each name of the schema once, in ascending
order, with the value that the record has under it. -/
structure Record.Holds (schema : RecordSchema) (record : Record)
    (members : List (String × Json.Value)) : Prop where
  fields : record.names = schema.names
  names : (members.map Prod.fst).Perm schema.names
  ascending : members.Pairwise fun a b => a.1 < b.1
  values : ∀ name value, (name, value) ∈ members ↔ record.get? name = some value

/-- Sorting the members of a record of distinct names loses and changes none of them. -/
theorem Record.toMembers_holds {schema : RecordSchema} {record : Record}
    (distinct : schema.names.Nodup) (fields : record.names = schema.names) :
    record.Holds schema record.toMembers := by
  have named : record.fields.map Prod.fst = schema.names := fields
  have apart : (record.fields.map Prod.fst).Nodup := named ▸ distinct
  have same : record.toMembers.Perm record.fields := Entries.sortMembers_perm apart
  refine ⟨fields, named ▸ same.map Prod.fst, Entries.sortMembers_ascending _, ?_⟩
  intro name value
  rw [same.mem_iff]
  exact (Entries.find?_eq_some apart name value).symm

namespace Plan

variable {p : Plan} {coerceTypes : Bool} {row : Row}

/-- A row becomes a record of the schema's names, with or without conversion. -/
theorem reassemble_names (sound : p.Sound) {record : Record}
    (assembled : p.reassemble coerceTypes row = .ok record) : record.names = p.schema.names := by
  cases coerceTypes with
  | false =>
    obtain ⟨fits, rfl⟩ := (reassemble_raw_eq_ok sound).1 assembled
    exact rawRecord_names sound fits
  | true =>
    obtain ⟨-, conversion⟩ := (reassemble_converted_eq_ok sound).1 assembled
    refine List.ext_getElem? fun place => ?_
    rw [Record.names, List.getElem?_map, RecordSchema.getElem?_names]
    cases declared : p.schema.fields[place]? with
    | none =>
      rw [List.getElem?_eq_none (conversion.size ▸ List.getElem?_eq_none_iff.1 declared)]
      rfl
    | some decl =>
      obtain ⟨value, image, -, -, held⟩ := conversion.entries place decl declared
      rw [held]
      rfl

/-- A row is never refused for what could not be built of it. -/
theorem reassemble_ne_construction (sound : p.Sound) (name : String) (reason : ShapeError) :
    p.reassemble coerceTypes row ≠ .error (.construction name reason) := by
  intro refused
  cases coerceTypes with
  | true => cases (reassemble_fault sound).1 refused
  | false =>
    by_cases fits : row.Fits p.schema.fields.length
    · rw [reassemble_raw sound fits] at refused
      cases refused
    · rw [reassemble_misfit sound false fits] at refused
      cases refused

end Plan

section Stages

variable {σ α : Type} {source : RowSource σ} {target : TypeDescriptor} {overrides : Overrides}
  {coerceTypes : Bool} {state : σ} {records : List Record}
  {construct : List (String × Json.Value) → Except ShapeError α}

/-- The records of a projection have the names of a schema of distinct names. -/
theorem project_names
    (projected : (project source target overrides coerceTypes state).1 = .ok records) :
    ∃ schema, Projectable target overrides schema ∧
      ∀ record ∈ records, record.names = schema.names := by
  rcases projectable_or_refusal target overrides with ⟨schema, valid⟩ | ⟨e, refusal⟩
  · refine ⟨schema, valid, fun record member => ?_⟩
    rw [project_projectable source valid] at projected
    obtain ⟨rows, -, assembled⟩ := Traversal.bind_eq_ok.1 projected
    obtain ⟨row, -, result⟩ := Traversal.mapM_ok_results assembled record member
    exact Plan.reassemble_names (Plan.build_sound target.name valid.distinct overrides) result
  · rw [project_refused source refusal] at projected
    cases projected

/-- A projection never fails for what could not be built of its records. -/
theorem project_ne_construction (name : String) (reason : ShapeError) :
    (project source target overrides coerceTypes state).1 ≠ .error (.construction name reason) := by
  intro failed
  rcases projectable_or_refusal target overrides with ⟨schema, valid⟩ | ⟨e, refusal⟩
  · rw [project_projectable source valid, Traversal.bind_eq_error] at failed
    rcases failed with unanswered | ⟨rows, -, unassembled⟩
    · obtain ⟨message, -, source_failed⟩ := Traversal.mapError_eq_error.1 unanswered
      cases source_failed
    · obtain ⟨_, row, -, -, refused⟩ := Traversal.mapM_eq_error.1 unassembled
      exact Plan.reassemble_ne_construction
        (Plan.build_sound target.name valid.distinct overrides) name reason refused
  · rw [project_refused source refusal] at failed
    cases refusal <;> cases failed

/-- A typed projection is a projection, and then a value is built of each of its records. -/
theorem projectTyped_eq : projectTyped source target construct overrides coerceTypes state =
    ((project source target overrides coerceTypes state).1 >>= fun records =>
        (records.mapM fun record => construct record.toMembers).mapError
          (.construction target.name),
      (project source target overrides coerceTypes state).2) := by
  simp only [projectTyped, ← Traversal.mapM_mapError]
  cases project source target overrides coerceTypes state with
  | mk result left => cases result <;> rfl

end Stages

/-- A typed projection is a projection and then the building of a value of each record. An error of
the projection is its error, whatever could be built of the rows, and is never one of building.
It succeeds exactly if the projection does and a value is built of the object of every record, and
then has these values in the order of the records. Otherwise its error names the type, for the
first record of which no value is built. The objects hold the records under the names of the
schema. -/
theorem typed_projection_staged {σ α : Type} (source : RowSource σ) (target : TypeDescriptor)
    (construct : List (String × Json.Value) → Except ShapeError α) (overrides : Overrides)
    (coerceTypes : Bool) (state : σ) :
    let projected := project source target overrides coerceTypes state
    let typed := projectTyped source target construct overrides coerceTypes state
    typed.2 = projected.2 ∧
    (∀ e, projected.1 = .error e →
      typed.1 = .error e ∧ ∀ name reason, e ≠ .construction name reason) ∧
    (∀ values, typed.1 = .ok values ↔ ∃ records, projected.1 = .ok records ∧
      List.Forall₂ (fun record value => construct record.toMembers = .ok value) records values) ∧
    ∀ records, projected.1 = .ok records →
      (∀ e, typed.1 = .error e ↔ ∃ (index : Nat) (record : Record) (reason : ShapeError),
        records[index]? = some record ∧
        (∀ before < index, ∀ earlier, records[before]? = some earlier →
          ∃ value, construct earlier.toMembers = .ok value) ∧
        construct record.toMembers = .error reason ∧ e = .construction target.name reason) ∧
      ∃ schema, target.kind = .record schema ∧ schema.names.Nodup ∧
        ∀ record ∈ records, record.Holds schema record.toMembers := by
  intro projected typed
  have staged : typed = _ := projectTyped_eq
  rw [staged]
  refine ⟨rfl, fun e failed => ⟨?_, ?_⟩, fun values => ?_,
    fun records succeeded => ⟨fun e => ?_, ?_⟩⟩
  · exact Traversal.bind_eq_error.2 (.inl failed)
  · rintro name reason rfl
    exact project_ne_construction name reason failed
  · simp only [Traversal.bind_eq_ok, Traversal.mapError_eq_ok, Traversal.mapM_eq_ok]
    exact Iff.rfl
  · have first : (project source target overrides coerceTypes state).1 = .ok records := succeeded
    rw [first, Traversal.ok_bind, Traversal.mapError_eq_error]
    simp only [Traversal.mapM_eq_error]
    constructor
    · rintro ⟨reason, ⟨index, record, found, earlier, refused⟩, rfl⟩
      exact ⟨index, record, reason, found, earlier, refused, rfl⟩
    · rintro ⟨index, record, reason, found, earlier, refused, rfl⟩
      exact ⟨reason, ⟨index, record, found, earlier, refused⟩, rfl⟩
  · obtain ⟨schema, valid, names⟩ := project_names succeeded
    exact ⟨schema, valid.record, valid.distinct,
      fun record member => record.toMembers_holds valid.distinct (names record member)⟩

/-- A source with one widget row. -/
def oneWidget : RowSource Unit :=
  .ofAnswers fun _ => .ok [.tuple [.null, .string "Alice", .string "x"]]

/-- Where nothing can be built, the bare value in the last row is still what is reported; without it
the first record is. Where anything can, the object of the record has its three members. -/
theorem typed_projection_staged_widget :
    let refuse : List (String × Json.Value) → Except ShapeError Nat :=
      fun _ => .error (.missingField "weight")
    (projectTyped faulty widget refuse widgetOverrides false ()).1 =
      .error (.rowShape 3 .scalar) ∧
    (projectTyped oneWidget widget refuse widgetOverrides false ()).1 =
      .error (.construction "WidgetRow" (.missingField "weight")) ∧
    (projectTyped oneWidget widget (fun members => .ok members.length) widgetOverrides false ()).1 =
      .ok [3] := by
  intro refuse
  have sound := Plan.build_sound widget.name widget_projectable.distinct widgetOverrides
  have misfit : (project faulty widget widgetOverrides false ()).1 =
      .error (.rowShape 3 .scalar) := by
    rw [project_answered faulty widget_projectable false rfl, Traversal.mapM_eq_error]
    refine ⟨1, .scalar .null, rfl, ?_, Plan.reassemble_misfit sound false (by decide)⟩
    intro before first earlier found
    obtain rfl : before = 0 := by omega
    obtain rfl := Option.some.inj found
    exact ⟨_, Plan.reassemble_raw sound (by decide)⟩
  have projected : (project oneWidget widget widgetOverrides false ()).1 =
      .ok [(Plan.build widget.name widgetSchema widgetOverrides).rawRecord
        (.tuple [.null, .string "Alice", .string "x"])] := by
    rw [project_answered oneWidget widget_projectable false rfl, Plan.mapM_raw_eq_ok sound]
    exact ⟨by decide, rfl⟩
  obtain ⟨-, failed, -, -⟩ :=
    typed_projection_staged faulty widget refuse widgetOverrides false ()
  obtain ⟨-, -, -, refused⟩ :=
    typed_projection_staged oneWidget widget refuse widgetOverrides false ()
  obtain ⟨-, -, built, objects⟩ := typed_projection_staged oneWidget widget
    (fun members => Except.ok members.length) widgetOverrides false ()
  obtain ⟨schema, record, -, held⟩ := (objects _ projected).2
  have count := (held _ List.mem_cons_self).names.length_eq
  obtain rfl := TypeKind.record.inj record
  refine ⟨(failed _ misfit).1, ((refused _ projected).1 _).2 ⟨0, _, _, rfl, by simp, rfl, rfl⟩,
    (built _).2 ⟨_, projected, .cons (congrArg Except.ok ?_) .nil⟩⟩
  exact (List.length_map _).symm.trans count

end RecordTyping

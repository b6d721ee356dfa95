import RecordTyping.Proofs.Schema
import RecordTyping.Proofs.Synthesis

/-!
# Repeated fields and methods

The fields of a record and the methods of a class are checked for repeated names. Either check
passes exactly if the names are distinct, and otherwise names the culprit, the name at the least
index that stands at a smaller index too. The fields are refused in the name of their type, the
methods in that of their class; over the same names both checks name the same culprit.
-/

namespace RecordTyping

/-- The culprit among the fields of a schema is what the search for it finds. -/
theorem RecordSchema.duplicate?_eq_some {schema : RecordSchema} {field : String} :
    schema.duplicate? = some field ↔ Culprit schema.names field := by
  rw [duplicate?, firstRepeated?_eq_some, culprit_iff]

/-- A record passes the check exactly if its fields have distinct names, and is refused with the
culprit among them and nothing else. -/
theorem TypeDescriptor.recordSchema_exact (name : String) (schema : RecordSchema) :
    ((⟨name, .record schema⟩ : TypeDescriptor).recordSchema = .ok schema ↔ schema.names.Nodup) ∧
      ∀ e, (⟨name, .record schema⟩ : TypeDescriptor).recordSchema = .error e ↔
        ∃ field, Culprit schema.names field ∧ e = .duplicateField name field :=
  check_exact (recordSchema_distinct rfl) fun _ => recordSchema_repeated rfl

/-- The methods of a class pass the check exactly if they have distinct names, and are refused with
the culprit among them and nothing else. -/
theorem HostClass.ensureUnique_exact (host : HostClass) (methods : List MethodSpec) :
    (host.ensureUnique methods = .ok () ↔ (methods.map MethodSpec.name).Nodup) ∧
      ∀ e, host.ensureUnique methods = .error e ↔
        ∃ name, Culprit (methods.map MethodSpec.name) name ∧ e = ⟨host.className, name⟩ :=
  check_exact host.ensureUnique_distinct fun _ => host.ensureUnique_repeated

/-- A class refuses methods with a name exactly if the name is their culprit. -/
theorem HostClass.ensureUnique_eq_error {host : HostClass} {methods : List MethodSpec}
    {name : String} : host.ensureUnique methods = .error ⟨host.className, name⟩ ↔
      Culprit (methods.map MethodSpec.name) name := by
  rw [(host.ensureUnique_exact methods).2]
  constructor
  · rintro ⟨other, culprit, same⟩
    rw [(DuplicateMethod.mk.inj same).2]
    exact culprit
  · intro culprit
    exact ⟨name, culprit, rfl⟩

/-- The search among the fields of a schema finds nothing if their names are distinct, and otherwise
the culprit; a record is accepted or refused accordingly, in its own name. The methods of a class
are accepted or refused by the same rule, in the name of the class. So a schema and a list of
methods that have the same names have the same culprit. -/
theorem repeats_reported_exactly :
    (∀ (typeName : String) (schema : RecordSchema),
      let type : TypeDescriptor := ⟨typeName, .record schema⟩
      (schema.duplicate? = none ↔ schema.names.Nodup) ∧
      (∀ field, schema.duplicate? = some field ↔ Culprit schema.names field) ∧
      (type.recordSchema = .ok schema ↔ schema.names.Nodup) ∧
      ∀ e, type.recordSchema = .error e ↔
        ∃ field, Culprit schema.names field ∧ e = .duplicateField typeName field) ∧
    (∀ (host : HostClass) (methods : List MethodSpec),
      let names := methods.map MethodSpec.name
      (host.ensureUnique methods = .ok () ↔ names.Nodup) ∧
      ∀ e, host.ensureUnique methods = .error e ↔
        ∃ name, Culprit names name ∧ e = ⟨host.className, name⟩) ∧
    ∀ (schema : RecordSchema) (host : HostClass) (methods : List MethodSpec),
      schema.names = methods.map MethodSpec.name → ∀ name,
        (schema.duplicate? = some name ↔
          host.ensureUnique methods = .error ⟨host.className, name⟩) := by
  refine ⟨fun typeName schema => ?_, HostClass.ensureUnique_exact, ?_⟩
  · obtain ⟨accepted, refused⟩ := TypeDescriptor.recordSchema_exact typeName schema
    exact ⟨firstRepeated?_eq_none _, fun _ => RecordSchema.duplicate?_eq_some, accepted, refused⟩
  · intro schema host methods same name
    rw [RecordSchema.duplicate?_eq_some, same, HostClass.ensureUnique_eq_error]

/-- Where two names are repeated, the one that is repeated first is the culprit, whichever stands
first. -/
theorem repeats_reported_exactly_interleaved :
    let names := ["id", "owner", "color", "owner", "id"]
    let schema : RecordSchema := ⟨names.map fun name => ⟨name, .untyped⟩⟩
    let methods := names.map fun name => MethodSpec.make name .instanceLevel .untyped
    schema.names = methods.map MethodSpec.name ∧ Culprit names "owner" ∧
      TypeDescriptor.recordSchema ⟨"Widget", .record schema⟩ =
        .error (.duplicateField "Widget" "owner") ∧
      HostClass.relation.ensureUnique methods = .error ⟨"ActiveRecord::Relation", "owner"⟩ := by
  intro names schema methods
  have found : schema.duplicate? = some "owner" := by decide
  obtain ⟨-, culprits, -, refusals⟩ := repeats_reported_exactly.1 "Widget" schema
  have culprit : Culprit names "owner" := (culprits "owner").1 found
  refine ⟨rfl, culprit, (refusals _).2 ⟨"owner", culprit, rfl⟩, ?_⟩
  exact (repeats_reported_exactly.2.2 schema .relation methods rfl "owner").1 found

end RecordTyping

import RecordTyping.Proofs.Names
import RecordTyping.Schema

/-!
# Names and places of a schema

A schema of distinct names has one place for each of them, and a type descriptor passes the
check for a record schema exactly when it is a record of distinct names. The two refusals name
the kind of the type and the first repeated field.
-/

namespace RecordTyping

namespace RecordSchema

/-- A schema has a name exactly when it is one of its names. -/
theorem contains_iff (s : RecordSchema) (name : String) :
    s.contains name = true ↔ name ∈ s.names := by
  simp [contains, names]

/-- There are as many names as fields. -/
theorem length_names (s : RecordSchema) : s.names.length = s.fields.length := List.length_map _

/-- The name at a place is the name of the field there. -/
theorem getElem?_names (s : RecordSchema) (i : Nat) :
    s.names[i]? = (s.fields[i]?).map FieldDecl.name := List.getElem?_map

/-- Among distinct names the place of a field's name is that of the field. -/
theorem index?_name {s : RecordSchema} (distinct : s.names.Nodup) {i : Nat} {decl : FieldDecl}
    (found : s.fields[i]? = some decl) : s.index? decl.name = some i := by
  obtain ⟨inside, here⟩ := List.getElem?_eq_some_iff.1 found
  rw [index?, List.findIdx?_eq_some_iff_getElem]
  refine ⟨inside, by simp [here], ?_⟩
  intro j before
  have apart := List.nodup_iff_getElem?_ne_getElem?.1 distinct j i before
    (by rw [length_names]; exact inside)
  rw [getElem?_names, getElem?_names, found, List.getElem?_eq_getElem (Nat.lt_trans before inside)]
    at apart
  simpa using apart

/-- The place of a name holds a field of that name. -/
theorem index?_eq_some {s : RecordSchema} {name : String} {i : Nat}
    (found : s.index? name = some i) : ∃ decl, s.fields[i]? = some decl ∧ decl.name = name := by
  obtain ⟨inside, here, -⟩ := List.findIdx?_eq_some_iff_getElem.1 found
  exact ⟨s.fields[i], List.getElem?_eq_getElem inside, by simpa using here⟩

end RecordSchema

namespace TypeDescriptor

variable {t : TypeDescriptor} {schema : RecordSchema}

/-- A record of distinct names passes the check. -/
theorem recordSchema_distinct (record : t.kind = .record schema) (distinct : schema.names.Nodup) :
    t.recordSchema = .ok schema := by
  have clean : schema.duplicate? = none := (firstRepeated?_eq_none _).2 distinct
  simp only [recordSchema, record, clean]

/-- A record that repeats a name is refused with the first repeated one. -/
theorem recordSchema_repeated (record : t.kind = .record schema) {field : String}
    (repeated : FirstRepeat schema.names field) :
    t.recordSchema = .error (.duplicateField t.name field) := by
  have culprit : schema.duplicate? = some field := (firstRepeated?_eq_some _ _).2 repeated
  simp only [recordSchema, record, culprit]

/-- A type that is no record is refused with its kind. -/
theorem recordSchema_other (other : ∀ schema, t.kind ≠ .record schema) :
    t.recordSchema = .error (.notARecord t.name t.kind.label) := by
  unfold recordSchema
  split
  · rename_i schema record
    exact absurd record (other schema)
  · rfl

end TypeDescriptor

end RecordTyping

import RecordTyping.Coercion
import RecordTyping.Overrides
import RecordTyping.Row
import RecordTyping.Schema

/-!
# Projection

A plan is what a projection asks its source for, checked before anything is asked: the columns
of the fields that are not overridden, in the order of the schema, and then the expressions of the
overrides, in theirs. For each column the plan keeps the place of the field that it fills, so
that a row can be put back into the order of the schema. Projecting asks a source once for the
columns of a plan and puts each row back together as a record, or builds a value of another type of
each record.
-/

namespace RecordTyping

/-- How a row does not match the columns asked for. -/
inductive RowForm where
  | scalar
  | tuple (size : Nat)
deriving DecidableEq, Repr

/-- The wording of a row's form. -/
def RowForm.describe : RowForm → String
  | .scalar => "a scalar"
  | .tuple size => Text.natNumeral size ++ " values"

/-- Why a projection fails. -/
inductive ProjectionError where
  | schema (e : SchemaError)
  | unknownOverrides (schema : String) (fields : List String)
  | coercion (field : String) (e : CoercionError)
  | rowShape (expected : Nat) (found : RowForm)
  | source (message : String)
  | construction (schema : String) (e : ShapeError)

/-- The wording of a projection error. -/
def ProjectionError.message : ProjectionError → String
  | .schema e => e.message
  | .unknownOverrides name fields =>
    "Argument 'associations' contains keys that don't exist in " ++ name ++ ": " ++
      ", ".intercalate fields
  | .coercion field e => "cannot coerce field '" ++ field ++ "': " ++ e.message
  | .rowShape expected found =>
    "row shape mismatch: expected " ++ Text.natNumeral expected ++ " column(s), found " ++
      found.describe
  | .source message => "row source error: " ++ message
  | .construction name e => "cannot construct " ++ name ++ " from projected row: " ++ e.message

/-- A checked request for columns. -/
structure Plan where
  schemaName : String
  schema : RecordSchema
  columns : List Column
  /-- For each column the place of the field that it fills. -/
  fieldForColumn : List Nat

namespace Plan

/-- The fields that are not overridden, with their places. -/
def ownColumns (schema : RecordSchema) (overrides : Overrides) : List (Nat × Column) :=
  (schema.fields.zipIdx.filter fun (decl, _) => !overrides.contains decl.name).map
    fun (decl, place) => (place, .field decl.name)

/-- The overrides, with the places of their fields. -/
def redirectedColumns (schema : RecordSchema) (overrides : Overrides) : List (Nat × Column) :=
  overrides.entries.filterMap fun (field, expression) =>
    (schema.index? field).map fun place => (place, .expression expression)

/-- The columns to ask for, each with the place of the field that it fills. -/
def requests (schema : RecordSchema) (overrides : Overrides) : List (Nat × Column) :=
  ownColumns schema overrides ++ redirectedColumns schema overrides

/-- The plan for a schema that has been checked. -/
def build (name : String) (schema : RecordSchema) (overrides : Overrides) : Plan :=
  ⟨name, schema, (requests schema overrides).map Prod.snd,
    (requests schema overrides).map Prod.fst⟩

/-- The plan of a projection into a type, if it is a record that has every overridden field. -/
def make (target : TypeDescriptor) (overrides : Overrides) : Except ProjectionError Plan := do
  let schema ← target.recordSchema.mapError .schema
  match overrides.keys.filter fun key => !schema.contains key with
  | [] => return build target.name schema overrides
  | unknown => .error (.unknownOverrides target.name unknown)

/-- The values of a row, if there is one for each column. -/
def rowValues (p : Plan) : Row → Except ProjectionError (List Json.Value)
  | .scalar value =>
    if p.columns.length = 1 then .ok [value] else .error (.rowShape p.columns.length .scalar)
  | .tuple values =>
    if values.length = p.columns.length then .ok values
    else .error (.rowShape p.columns.length (.tuple values.length))

/-- Values in the order of the fields that their columns fill. -/
def arrange (p : Plan) (values : List Json.Value) : List Json.Value :=
  ((p.fieldForColumn.zip values).mergeSort fun a b => a.1 ≤ b.1).map Prod.snd

/-- The value of a field, converted to its type if that is asked for. -/
def fieldValue (coerceTypes : Bool) (decl : FieldDecl) (raw : Json.Value) :
    Except ProjectionError (String × Json.Value) :=
  if coerceTypes then
    match coerce decl.type raw with
    | .ok value => .ok (decl.name, value)
    | .error e => .error (.coercion decl.name e)
  else .ok (decl.name, raw)

/-- The record of a row. Values are put into the order of the schema before any is converted, so
that the first field of the schema that fails is the one reported. -/
def reassemble (p : Plan) (coerceTypes : Bool) (row : Row) : Except ProjectionError Record := do
  let values ← p.rowValues row
  let fields ← (p.schema.fields.zip (p.arrange values)).mapM fun (decl, raw) =>
    fieldValue coerceTypes decl raw
  return ⟨fields⟩

end Plan

/-! ## Projecting -/

/-- Projects the rows of a source into records of a type. Nothing is asked of the source
unless the plan stands, and then exactly one request is made. -/
def project {σ : Type} (source : RowSource σ) (target : TypeDescriptor) (overrides : Overrides)
    (coerceTypes : Bool) (state : σ) : Except ProjectionError (List Record) × σ :=
  match Plan.make target overrides with
  | .error e => (.error e, state)
  | .ok plan =>
    let (answer, state) := source.pluck plan.columns state
    match answer with
    | .error message => (.error (.source message), state)
    | .ok rows => (rows.mapM (plan.reassemble coerceTypes), state)

/-- Projects the rows of a source into records and builds a value of each, which may be refused in
any words. All rows are projected before any value is built. -/
def projectTyped {σ α : Type} (source : RowSource σ) (target : TypeDescriptor)
    (construct : List (String × Json.Value) → Except ShapeError α) (overrides : Overrides)
    (coerceTypes : Bool) (state : σ) : Except ProjectionError (List α) × σ :=
  let (records, state) := project source target overrides coerceTypes state
  match records with
  | .error e => (.error e, state)
  | .ok records =>
    (records.mapM fun record =>
      (construct record.toMembers).mapError (.construction target.name), state)

end RecordTyping

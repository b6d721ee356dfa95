import RecordTyping.FieldType

/-!
# Schemas

A type descriptor names a type and says what it is made of. Only a record whose field names
are distinct can be projected into; its fields keep the order of their declaration. One rule finds
the culprit among names that should be distinct: it stands at the least index at which a name
repeats an earlier one.
-/

namespace RecordTyping

/-- The first name that was seen before. -/
def firstRepeatedAfter (seen : List String) : List String → Option String
  | [] => none
  | name :: rest =>
    if name ∈ seen then some name else firstRepeatedAfter (name :: seen) rest

/-- The first name that stands earlier in the list too. -/
def firstRepeated? (names : List String) : Option String := firstRepeatedAfter [] names

/-- The declaration of a field. -/
structure FieldDecl where
  name : String
  type : FieldType
deriving DecidableEq, Repr

/-- The fields of a record in the order of their declaration. -/
structure RecordSchema where
  fields : List FieldDecl
deriving DecidableEq, Repr

namespace RecordSchema

/-- The names of the fields. -/
def names (s : RecordSchema) : List String := s.fields.map FieldDecl.name

/-- The type of the first field of a name. -/
def type? (s : RecordSchema) (name : String) : Option FieldType :=
  (s.fields.find? fun d => d.name == name).map FieldDecl.type

/-- Whether a field has a name. -/
def contains (s : RecordSchema) (name : String) : Bool := s.fields.any fun d => d.name == name

/-- The place of the first field of a name. -/
def index? (s : RecordSchema) (name : String) : Option Nat :=
  s.fields.findIdx? fun d => d.name == name

/-- The first field name that is declared again. -/
def duplicate? (s : RecordSchema) : Option String := firstRepeated? s.names

end RecordSchema

/-- What a type is made of. -/
inductive TypeKind where
  | record (schema : RecordSchema)
  | scalar (type : FieldType)
  | enumeration (variants : List String)
deriving DecidableEq, Repr

/-- The kinds of types. -/
inductive KindLabel where
  | record
  | scalar
  | enumeration
deriving DecidableEq, Repr

/-- The name of a kind. -/
def KindLabel.name : KindLabel → String
  | .record => "record"
  | .scalar => "scalar"
  | .enumeration => "enum"

/-- The kinds, in the order in which messages list them. -/
def KindLabel.all : List KindLabel := [.record, .scalar, .enumeration]

/-- Which kind a type is of. -/
def TypeKind.label : TypeKind → KindLabel
  | .record _ => .record
  | .scalar _ => .scalar
  | .enumeration _ => .enumeration

/-- A named type. -/
structure TypeDescriptor where
  name : String
  kind : TypeKind
deriving DecidableEq, Repr

/-- Why a type cannot be projected into. -/
inductive SchemaError where
  | notARecord (name : String) (kind : KindLabel)
  | duplicateField (schema field : String)
deriving DecidableEq, Repr

/-- The wording of a schema error. -/
def SchemaError.message : SchemaError → String
  | .notARecord name kind =>
    "projection expects a record schema, given " ++ name ++ " (" ++ kind.name ++ ")"
  | .duplicateField schema field =>
    "record schema " ++ schema ++ " declares field '" ++ field ++ "' more than once"

/-- The schema of a record with distinct field names. -/
def TypeDescriptor.recordSchema (t : TypeDescriptor) : Except SchemaError RecordSchema :=
  match t.kind with
  | .record schema =>
    match schema.duplicate? with
    | some field => .error (.duplicateField t.name field)
    | none => .ok schema
  | other => .error (.notARecord t.name other.label)

end RecordTyping

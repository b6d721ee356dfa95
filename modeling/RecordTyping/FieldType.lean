import RecordTyping.Json.Shape

/-!
# Types of record fields

The declared type of a field, how it is shown, and its JSON form: a plain type is its name,
and a nilable or array type is an object of one member with the type inside.
-/

namespace RecordTyping

/-- The declared type of a record field. -/
inductive FieldType where
  | integer
  | float
  | string
  | boolean
  | date
  | dateTime
  | untyped
  | nilable (inner : FieldType)
  | array (inner : FieldType)
deriving DecidableEq, Repr

namespace FieldType

/-- The type as it is shown in messages. -/
def text : FieldType → String
  | .integer => "Integer"
  | .float => "Float"
  | .string => "String"
  | .boolean => "T::Boolean"
  | .date => "Date"
  | .dateTime => "DateTime"
  | .untyped => "T.untyped"
  | .nilable inner => "T.nilable(" ++ inner.text ++ ")"
  | .array inner => "T::Array[" ++ inner.text ++ "]"

/-- The JSON form of a type. -/
def toJson : FieldType → Json.Value
  | .integer => .string "integer"
  | .float => .string "float"
  | .string => .string "string"
  | .boolean => .string "boolean"
  | .date => .string "date"
  | .dateTime => .string "date_time"
  | .untyped => .string "untyped"
  | .nilable inner => .object [("nilable", inner.toJson)]
  | .array inner => .object [("array", inner.toJson)]

/-- What a name in the JSON form stands for: a plain type, or what is made of the type inside. -/
inductive Choice where
  | plain (ty : FieldType)
  | wrapper (wrap : FieldType → FieldType)

/-- The names in the JSON form, in the order in which messages list them. -/
def choices : List (String × Choice) :=
  [("integer", .plain .integer), ("float", .plain .float), ("string", .plain .string),
    ("boolean", .plain .boolean), ("date", .plain .date), ("date_time", .plain .dateTime),
    ("untyped", .plain .untyped), ("nilable", .wrapper .nilable), ("array", .wrapper .array)]

/-- What a name stands for. -/
def choose (name : String) : Except ShapeError Choice :=
  match choices.lookup name with
  | some choice => .ok choice
  | none => .error (.unknownChoice name (choices.map Prod.fst))

/-- The type that a bare name stands for. -/
def ofName (name : String) : Except ShapeError FieldType := do
  match ← choose name with
  | .plain ty => return ty
  | .wrapper _ => .error (.invalidType .bareChoice "newtype variant")

/-- The type of a value that has been read already. A plain type may carry null or an empty
object, which say nothing. -/
def ofJson : Json.Value → Except ShapeError FieldType
  | .string name => ofName name
  | .object [(name, value)] => do
    match ← choose name with
    | .plain ty =>
      match value with
      | .null => return ty
      | .object [] => return ty
      | value => .error (.invalidType value.found "unit")
    | .wrapper wrap => return wrap (← ofJson value)
  | .object _ => .error (.invalidValue .map "map with a single key")
  | value => .error (.invalidType value.found "string or map")

/-- Takes the null that a plain type may carry off the front. -/
def readNothing : Json.Reader Unit := fun s =>
  match Json.skipBlanks s with
  | 'n' :: rest => (Json.expectWord ['u', 'l', 'l'] rest).map fun rest => ((), rest)
  | rest => .error (Json.mismatch "unit" rest)

/-- Lifts a question of shape to a reader's result. -/
def shaped {α : Type} (r : Except ShapeError α) : Except Json.ReadError α :=
  r.mapError .shape

/-- Takes a type off the front of a text. Here nothing but a string or an object of one member
is looked at: any other value is malformed. -/
def reader : Nat → Json.Reader FieldType
  | depth, s =>
    match Json.skipBlanks s with
    | '"' :: rest => do
      let (name, rest) ← Json.readString true rest
      return (← shaped (ofName (String.ofList name)), rest)
    | '{' :: rest =>
      match depth with
      | 0 => .error .malformed
      | depth + 1 => do
        let (name, rest) ← Json.readText "variant identifier" rest
        let choice ← shaped (choose name)
        let rest ← Json.expectColon rest
        let (ty, rest) ← match choice with
          | .plain ty => (readNothing rest).map fun (_, rest) => (ty, rest)
          | .wrapper wrap => (reader depth rest).map fun (ty, rest) => (wrap ty, rest)
        match Json.skipBlanks rest with
        | '}' :: rest => return (ty, rest)
        | rest => .error (Json.fault rest)
    | rest => .error (Json.fault rest)

/-- The type of a text. -/
def read (s : String) : Except Json.ReadError FieldType :=
  Json.readAll (reader Json.nestingAllowance) s

end FieldType

end RecordTyping

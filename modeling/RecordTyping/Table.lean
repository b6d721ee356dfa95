import RecordTyping.Json.Shape
import RecordTyping.Row

/-!
# Tables in memory

A table has named columns and rows of values. It answers a request with the values at the first
column of each name asked for. A name that no column has is reported before any row is looked
at; a row that is not as wide as the table is reported with its place.
-/

namespace RecordTyping

/-- A table. Nothing keeps its rows from being ragged or its column names from being repeated. -/
structure Table where
  columns : List String
  rows : List (List Json.Value)

/-- Why a table does not answer a request. -/
inductive TableError where
  | unknownColumn (column : Column)
  | raggedRow (row width columns : Nat)
deriving DecidableEq, Repr

/-- The wording of a table error. -/
def TableError.message : TableError → String
  | .unknownColumn column => "unknown column " ++ column.text
  | .raggedRow row width columns =>
    "row " ++ Text.natNumeral row ++ " has " ++ Text.natNumeral width ++
      " values, table declares " ++ Text.natNumeral columns ++ " columns"

namespace Table

/-- The place of the first column of a name. -/
def index (t : Table) (column : Column) : Except TableError Nat :=
  match t.columns.findIdx? fun name => name == column.name with
  | some i => .ok i
  | none => .error (.unknownColumn column)

/-- The values of a row at some places, as a source returns them. -/
def select (places : List Nat) (values : List Json.Value) : Row :=
  match places.filterMap fun i => values[i]? with
  | [value] => .scalar value
  | values => .tuple values

/-- The row at a place of the table as a source returns it. -/
def answerRow (t : Table) (places : List Nat) (row : Nat) (values : List Json.Value) :
    Except TableError Row :=
  if values.length = t.columns.length then .ok (select places values)
  else .error (.raggedRow row values.length t.columns.length)

/-- Answers a request. -/
def pluck (t : Table) (columns : List Column) : Except TableError (List Row) := do
  let places ← columns.mapM t.index
  t.rows.zipIdx.mapM fun (values, row) => t.answerRow places row values

/-- The table as a source of rows. -/
def source (t : Table) : RowSource Unit :=
  .ofAnswers fun columns => (t.pluck columns).mapError TableError.message

/-- What has been read of a table. -/
structure Gathered where
  columns : Option (List String)
  rows : Option (List (List Json.Value))

/-- Takes column names off the front of a text. -/
def readColumns (depth : Nat) : Json.Reader (List String) :=
  Json.readSequence (fun _ => Json.readText "a string") depth

/-- Takes rows off the front of a text. -/
def readRows (depth : Nat) : Json.Reader (List (List Json.Value)) :=
  Json.readSequence (Json.readSequence Json.Value.sortedReader) depth

/-- How the value of a key of a table is read. Unknown keys are passed over. -/
def readMember (depth : Nat) (found : Gathered) (key : String) :
    Except Json.ReadError (Json.Reader Gathered) :=
  if key = "columns" then
    match found.columns with
    | some _ => .error (.shape (.duplicateField "columns"))
    | none => .ok fun s =>
      (readColumns depth s).map fun (columns, rest) =>
        ({ found with columns := some columns }, rest)
  else if key = "rows" then
    match found.rows with
    | some _ => .error (.shape (.duplicateField "rows"))
    | none => .ok fun s =>
      (readRows depth s).map fun (rows, rest) => ({ found with rows := some rows }, rest)
  else .ok fun s => (Json.skipValue s).map fun (_, rest) => (found, rest)

/-- The table of what has been read. -/
def Gathered.resolve (found : Gathered) : Except ShapeError Table :=
  match found.columns, found.rows with
  | none, _ => .error (.missingField "columns")
  | _, none => .error (.missingField "rows")
  | some columns, some rows => .ok ⟨columns, rows⟩

/-- The error of a table that is given as an array of fewer than two elements. -/
def tooShort (elements : Nat) : Json.ReadError :=
  .shape (.invalidLength elements "struct TableRowSource with 2 elements")

/-- Takes a table that is given as an array of its columns and its rows off the front. -/
def readPair (depth : Nat) : Json.Reader Table := fun s =>
  match Json.skipBlanks s with
  | ']' :: _ => .error (tooShort 0)
  | rest => do
    let (columns, rest) ← readColumns depth rest
    match Json.skipBlanks rest with
    | ']' :: _ => .error (tooShort 1)
    | ',' :: rest =>
      let (rows, rest) ← readRows depth rest
      match Json.skipBlanks rest with
      | ']' :: rest => return (⟨columns, rows⟩, rest)
      | rest => .error (Json.fault rest)
    | rest => .error (Json.fault rest)

/-- Takes a table off the front of a text. -/
def reader (depth : Nat) : Json.Reader Table := fun s =>
  match Json.skipBlanks s with
  | '{' :: rest =>
    match depth with
    | 0 => .error .malformed
    | depth + 1 => do
      let (found, rest) ← Json.readObject (readMember depth) ⟨none, none⟩ rest
      return (← found.resolve.mapError .shape, rest)
  | '[' :: rest =>
    match depth with
    | 0 => .error .malformed
    | depth + 1 => readPair depth rest
  | rest => .error (Json.mismatch "struct TableRowSource" rest)

/-- The table of a text. -/
def read (s : String) : Except Json.ReadError Table :=
  Json.readAll (reader Json.nestingAllowance) s

end Table

end RecordTyping

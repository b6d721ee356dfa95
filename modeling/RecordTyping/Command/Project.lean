import RecordTyping.Command.Generate
import RecordTyping.Projection
import RecordTyping.Schema.Json
import RecordTyping.Table

/-!
# Projecting the rows of a file

The schema and the rows are JSON files. The rows are a table in memory, whose rows become
records of the schema.
-/

namespace RecordTyping

variable {m : Type → Type} [Monad m] [Workspace m]

namespace ProjectOptions

/-- Reads the schema. A file that cannot be read is reported as such, and a text that is no schema
with the name of the file. -/
def readSchema (o : ProjectOptions) : ExceptT Failure m TypeDescriptor := do
  let text ← orFail .file (← Workspace.read o.schema)
  orFail (fun e => (Failure.json e).withContext ("reading schema " ++ o.schema.text))
    (TypeDescriptor.read text)

/-- Reads the table. Whatever is wrong with it is reported with the name of the file. -/
def readTable (o : ProjectOptions) : ExceptT Failure m Table := do
  let context := "reading rows " ++ o.rows.text
  let text ← orFail (fun fault => (Failure.file fault).withContext context)
    (← Workspace.read o.rows)
  orFail (fun e => (Failure.json e).withContext context) (Table.read text)

/-- The line that says how many rows are projected. -/
def rowsLine (table : Table) (target : TypeDescriptor) : LogLine :=
  ⟨.information, "ormsig::commands::project", "projecting " ++
    Text.natNumeral table.rows.length ++ " rows into " ++ target.name⟩

/-- The line that says which columns are asked for. -/
def columnsLine (plan : Plan) : LogLine :=
  ⟨.detail, "ormsig::projection", "projecting " ++ plan.schemaName ++ " with columns [" ++
    ", ".intercalate (plan.columns.map Column.text) ++ "]"⟩

/-- The records that are asked for. -/
def records (o : ProjectOptions) : ExceptT Failure m (List Record) := do
  let target ← o.readSchema
  let table ← o.readTable
  Workspace.log (rowsLine table target)
  let overrides := Overrides.ofList o.associations
  let plan ← orFail .projection (Plan.make target overrides)
  Workspace.log (columnsLine plan)
  orFail .projection (project table.source target overrides o.coerceTypes ()).1

/-- The text of records. -/
def recordsText (records : List Record) : String :=
  (Json.Value.array (records.map Record.toJson)).pretty

/-- Prints the records that are asked for. -/
def run (o : ProjectOptions) : ExceptT Failure m Unit := do
  Workspace.print (recordsText (← o.records) ++ "\n")

end ProjectOptions

end RecordTyping

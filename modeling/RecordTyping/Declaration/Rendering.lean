import RecordTyping.Declaration.Rbi
import RecordTyping.Declaration.Structural
import RecordTyping.Text.Grid

/-!
# Rendered files and listings

A declaration file in one of the formats, under the name of its group; and methods as a table, with
their definitions, categories, levels and results.
-/

namespace RecordTyping

/-- A format of declaration files. -/
inductive OutputFormat where
  | rbi
  | json
deriving DecidableEq, Repr

/-- The name of a format, which is the extension of its files too. -/
def OutputFormat.extension : OutputFormat → String
  | .rbi => "rbi"
  | .json => "json"

/-- The text of a declaration file. -/
def DeclarationFile.render (format : OutputFormat) (f : DeclarationFile) : String :=
  match format with
  | .rbi => f.rbi
  | .json => f.structural

/-- A file to be written. -/
structure RenderedFile where
  name : String
  contents : String
deriving DecidableEq, Repr

/-- The file of a group's declarations. -/
def DeclarationFile.rendered (format : OutputFormat) (f : DeclarationFile) : RenderedFile :=
  ⟨f.group.fileStem ++ "." ++ format.extension, f.render format⟩

/-- The row of a method in a listing. -/
def MethodSpec.listingRow (m : MethodSpec) : List String :=
  [m.definition, (m.category.map Category.label).getD "-",
    if m.level.isClass then "class" else "instance", m.returns.text,
    if m.nullable then "yes" else "no"]

/-- A table of methods. -/
def methodsTable (methods : List MethodSpec) : String :=
  Text.grid ["Method", "Category", "Scope", "Returns", "Nullable"]
    (methods.map MethodSpec.listingRow)

end RecordTyping

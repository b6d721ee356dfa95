import RecordTyping.Text.Width

/-!
# Grids

A table drawn with box characters: every column is as wide as its widest line and a blank on
either side, dashed lines stand between the rows, and a double line under the header.
-/

namespace RecordTyping.Text

/-- The parts of a text between its line feeds. -/
def splitLines (s : List Char) : List (List Char) :=
  match s with
  | [] => [[]]
  | c :: rest =>
    match splitLines rest with
    | [] => [[]]
    | line :: lines => if c = '\n' then [] :: line :: lines else (c :: line) :: lines

/-- The lines of a cell. -/
def cellLines (cell : String) : List String := (splitLines cell.toList).map String.ofList

/-- The number of columns that a cell takes. -/
def cellWidth (cell : String) : Nat := (cellLines cell).foldl (fun n line => max n (width line)) 0

/-- The widths of the columns of a table. -/
def columnWidths (rows : List (List String)) : List Nat :=
  rows.foldl (fun widths row =>
    let cells := row.map cellWidth
    let count := max widths.length cells.length
    (List.range count).map fun i => max (widths.getD i 0) (cells.getD i 0)) []

/-- A text repeated. -/
def repeated (n : Nat) (s : String) : String := String.join (List.replicate n s)

/-- A line between rows: its ends, what fills it and what crosses it. -/
structure Rule where
  left : String
  fill : String
  cross : String
  right : String

/-- Draws a line between rows. -/
def Rule.draw (r : Rule) (widths : List Nat) : String :=
  r.left ++ r.cross.intercalate (widths.map fun w => repeated (w + 2) r.fill) ++ r.right

/-- One line of a row: the same line of each cell, filled up with blanks. -/
def drawLine (widths : List Nat) (cells : List String) : String :=
  "│" ++ "┆".intercalate ((widths.zip cells).map fun (w, cell) =>
    " " ++ cell ++ repeated (w - width cell) " " ++ " ") ++ "│"

/-- The lines of a row. -/
def drawRow (widths : List Nat) (row : List String) : List String :=
  let cells := row.map cellLines
  let height := cells.foldl (fun n lines => max n lines.length) 1
  (List.range height).map fun i => drawLine widths (cells.map fun lines => lines.getD i "")

/-- The lines of rows with a line between any two. -/
def drawRows (widths : List Nat) (rule : String) : List (List String) → List String
  | [] => []
  | [row] => drawRow widths row
  | row :: rest => drawRow widths row ++ rule :: drawRows widths rule rest

/-- A table with a header. -/
def grid (header : List String) (rows : List (List String)) : String :=
  let widths := columnWidths (header :: rows)
  let top := (Rule.mk "┌" "─" "┬" "┐").draw widths
  let under := (Rule.mk "╞" "═" "╪" "╡").draw widths
  let between := (Rule.mk "├" "╌" "┼" "┤").draw widths
  let bottom := (Rule.mk "└" "─" "┴" "┘").draw widths
  "\n".intercalate
    ([top] ++ drawRow widths header ++ [under] ++ drawRows widths between rows ++ [bottom])

end RecordTyping.Text

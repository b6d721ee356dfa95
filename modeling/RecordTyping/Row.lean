import RecordTyping.Json.Value
import RecordTyping.Text.Quoted

/-!
# Rows and records

A row source is asked for columns and answers with a row for each of its rows. It may keep a
state, which each request turns into the next one. A source returns a bare value only when exactly
one column was asked for, and a tuple otherwise; whoever asks checks that it did. A record is what
a row becomes: named values in the order of the schema's fields.
-/

namespace RecordTyping

/-- A column to ask for: a field of the record, or an expression that stands in for one. -/
inductive Column where
  | field (name : String)
  | expression (text : String)
deriving DecidableEq, Repr

/-- The name under which a source knows the column. -/
def Column.name : Column → String
  | .field name => name
  | .expression text => text

/-- The column as it is shown in messages. -/
def Column.text : Column → String
  | .field name => ":" ++ name
  | .expression text => Text.quoted text

/-- A row as a source returns it. -/
inductive Row where
  | scalar (value : Json.Value)
  | tuple (values : List Json.Value)

/-- A source of rows that keeps a state of type `σ`. -/
structure RowSource (σ : Type) where
  /-- Answers one request: the values of the columns for each row, or why there are none. -/
  pluck : List Column → σ → Except String (List Row) × σ

namespace RowSource

/-- A source whose answers do not depend on what was asked before. -/
def ofAnswers (answer : List Column → Except String (List Row)) : RowSource Unit :=
  ⟨fun columns _ => (answer columns, ())⟩

/-- The source that also keeps the requests made to it, the first one first. -/
def recorded {σ : Type} (source : RowSource σ) : RowSource (σ × List (List Column)) :=
  ⟨fun columns (state, requests) =>
    let (answer, state) := source.pluck columns state
    (answer, state, requests ++ [columns])⟩

end RowSource

/-! ## Records -/

/-- Named values in the order of their schema. -/
structure Record where
  fields : List (String × Json.Value)

namespace Record

/-- The value of the first field of a name. -/
def get? (r : Record) (field : String) : Option Json.Value :=
  (r.fields.find? fun entry => entry.1 == field).map Prod.snd

/-- The names of the fields. -/
def names (r : Record) : List String := r.fields.map Prod.fst

/-- The values of the fields. -/
def values (r : Record) : List Json.Value := r.fields.map Prod.snd

/-- The record as an object whose members are in the order of the schema. -/
def toJson (r : Record) : Json.Value := .object r.fields

/-- The members of the record by ascending key. -/
def toMembers (r : Record) : List (String × Json.Value) := Json.sortMembers r.fields

end Record

end RecordTyping

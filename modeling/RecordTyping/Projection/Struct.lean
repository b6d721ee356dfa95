import RecordTyping.Json.Shape

/-!
# Structs

Typed values that are built of a record's members: each field of a struct has a shape, and the
members are checked in the order in which they come, by ascending key. Members that no field
is named after are passed over, and an optional field may be missing.
-/

namespace RecordTyping

open Json (Value)

/-- The shape of a field of a struct. -/
inductive ValueShape where
  /-- An integer of a range, which messages call by its name. -/
  | integer (name : String) (low high : Int)
  | double
  | text
  | truth
  | anything
  | optional (inner : ValueShape)
  | sequence (inner : ValueShape)
deriving Repr

namespace ValueShape

/-- The value of a shape that a JSON value stands for. Integers stand for doubles too, but no double
stands for an integer. -/
def build : ValueShape → Value → Except ShapeError Value
  | .integer name low high, .integer n =>
    if low ≤ n.val ∧ n.val ≤ high then .ok (.integer n)
    else .error (.invalidValue (.integer n.val) name)
  | .integer name _ _, v => .error (.invalidType v.found name)
  | .double, .double d => .ok (.double d)
  | .double, .integer n =>
    match Binary64.ofInt? n.val with
    | some d => .ok (.double d)
    | none => .error (.invalidValue (.integer n.val) "f64")
  | .double, v => .error (.invalidType v.found "f64")
  | .text, .string s => .ok (.string s)
  | .text, v => .error (.invalidType v.found "a string")
  | .truth, .bool b => .ok (.bool b)
  | .truth, v => .error (.invalidType v.found "a boolean")
  | .anything, v => .ok v
  | .optional _, .null => .ok .null
  | .optional inner, v => inner.build v
  | .sequence inner, .array items => (items.mapM inner.build).map .array
  | .sequence _, v => .error (.invalidType v.found "a sequence")

/-- The value of a field that is missing, if it may be. -/
def default? : ValueShape → Option Value
  | .optional _ => some .null
  | _ => none

end ValueShape

/-- The named fields of a struct in the order of their declaration. -/
abbrev StructShape := List (String × ValueShape)

namespace StructShape

/-- The values that the members give to fields of the struct. -/
def gather (shape : StructShape) (members : List (String × Value)) :
    Except ShapeError (List (String × Value)) :=
  members.filterMapM fun (key, v) =>
    match shape.lookup key with
    | some field => do return some (key, ← field.build v)
    | none => return none

/-- The struct of a record's members, its fields in the order of their declaration. -/
def construct (shape : StructShape) (members : List (String × Value)) :
    Except ShapeError (List (String × Value)) := do
  let values ← gather shape members
  shape.mapM fun (name, field) =>
    match values.lookup name, field.default? with
    | some v, _ => return (name, v)
    | none, some v => return (name, v)
    | none, none => .error (.missingField name)

end StructShape

end RecordTyping

import RecordTyping.Number.Double

/-!
# JSON values

Numbers are integers of the union of the signed and unsigned 64-bit ranges, or
finite doubles. An object is the list of its members in the order in which they
are written; `Value.sorted` gives the form of a free-form object, whose keys are
in ascending order and of whose repeated keys the last wins.
-/

namespace RecordTyping.Json

/-- An integer that fits in a signed or an unsigned 64-bit word. -/
structure Integer where
  val : Int
  lower : -0x8000000000000000 ≤ val
  upper : val < 0x10000000000000000
deriving DecidableEq

/-- The integer of the range, if it is one. -/
def Integer.ofInt? (n : Int) : Option Integer :=
  if h : -0x8000000000000000 ≤ n ∧ n < 0x10000000000000000 then some ⟨n, h.1, h.2⟩ else none

/-- A JSON value. -/
inductive Value where
  | null
  | bool (b : Bool)
  | integer (n : Integer)
  | double (d : Binary64)
  | string (s : String)
  | array (items : List Value)
  | object (members : List (String × Value))

namespace Value

/-- The value of an integer, which is a double outside the range of integers. -/
def ofInt? (n : Int) : Option Value :=
  match Integer.ofInt? n with
  | some i => some (.integer i)
  | none => (Binary64.ofInt? n).map .double

/-- The value of a double. No number of JSON stands for a double that is not finite, so that
it becomes null. -/
def ofDouble : Double → Value
  | .finite d => .double d
  | _ => .null

end Value

/-- Puts a member at the place of its key in an ascending list, over the one of that
key if there is one. -/
def insertSorted {α : Type} (key : String) (value : α) :
    List (String × α) → List (String × α)
  | [] => [(key, value)]
  | (k, v) :: rest =>
    if key = k then (key, value) :: rest
    else if key < k then (key, value) :: (k, v) :: rest
    else (k, v) :: insertSorted key value rest

/-- The members in ascending order of their keys, of each key the last one. -/
def sortMembers {α : Type} (members : List (String × α)) : List (String × α) :=
  members.foldl (fun sorted (k, v) => insertSorted k v sorted) []

mutual

/-- The value with the members of every object sorted. -/
def Value.sorted : Value → Value
  | .array items => .array (sortedItems items)
  | .object members => .object (sortMembers (sortedMembers members))
  | .null => .null
  | .bool b => .bool b
  | .integer n => .integer n
  | .double d => .double d
  | .string s => .string s

/-- `Value.sorted` on the items of an array. -/
def sortedItems : List Value → List Value
  | [] => []
  | v :: rest => v.sorted :: sortedItems rest

/-- `Value.sorted` on the values of an object. -/
def sortedMembers : List (String × Value) → List (String × Value)
  | [] => []
  | (k, v) :: rest => (k, v.sorted) :: sortedMembers rest

end

end RecordTyping.Json

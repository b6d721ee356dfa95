import RecordTyping.Toml.Value

/-!
# Building TOML tables

A key may be given once. A table may be given one header and not more, and no header if it is
written in braces or if dotted keys go through it; below such a dotted table further headers may
stand. Dotted keys may go through tables that have no header of their own, but they add to
tables only that dotted keys have made.
-/

namespace RecordTyping.Toml

/-- The members of a table. -/
abbrev Members : Type := List (String × Value)

/-- Changes the value of a key, which may be missing. -/
def alter (key : String) (f : Option Value → Option Value) : Members → Option Members
  | [] => (f none).map fun v => [(key, v)]
  | (k, v) :: rest =>
    if k = key then (f (some v)).map fun v => (k, v) :: rest
    else (alter key f rest).map ((k, v) :: ·)

/-- Adds a key, which must be missing. -/
def addKey (key : String) (value : Value) : Members → Option Members :=
  alter key fun
    | none => some value
    | some _ => none

/-- What goes through tables to the place where something is added. -/
inductive Passage where
  | header
  | dottedKey
  | dottedKeyInBraces
deriving DecidableEq

namespace Passage

/-- The form of the tables that are made on the way. -/
def made : Passage → TableForm
  | .header => .implied
  | .dottedKey => .dotted
  | .dottedKeyInBraces => .dottedInBraces

/-- Whether a table may be gone through. -/
def mayPass : Passage → TableForm → Bool
  | .header, form => form ≠ .braced && form ≠ .dottedInBraces
  | .dottedKey, form => form = .implied || form = .dotted
  | .dottedKeyInBraces, form => form = .dottedInBraces

end Passage

/-- Changes the last item of a list. -/
def alterLast {α : Type} (f : α → Option α) : List α → Option (List α)
  | [] => none
  | [a] => (f a).map ([·])
  | a :: rest => (alterLast f rest).map (a :: ·)

/-- Changes the members of a table. -/
def inTable (mayPass : TableForm → Bool) (f : TableForm → Members → Option Members) :
    Value → Option Value
  | .table form members =>
    if mayPass form then (f form members).map (.table form) else none
  | _ => none

/-- Changes the members of the table at the end of a path, and makes the tables on the way that are
missing. Of tables under headers of one name the last is meant. -/
def descend (passage : Passage) (f : TableForm → Members → Option Members) :
    List String → TableForm → Members → Option Members
  | [], form, members => f form members
  | key :: path, _, members =>
    let next := descend passage f path
    members |> alter key fun
      | none => (next passage.made []).map (.table passage.made)
      | some (.array true items) =>
        (alterLast (inTable (fun _ => true) next) items).map (.array true)
      | some value => inTable passage.mayPass next value

/-- Adds a value under a dotted key. -/
def addDotted (passage : Passage) (path : List String) (key : String) (value : Value)
    (members : Members) : Option Members :=
  descend passage (fun form members =>
    if path.isEmpty || form = passage.made then addKey key value members else none)
    path .headed members

/-- Adds a table with a header of its own, whose members are worked out from those that headers
below it have given it already. -/
def addHeaded (path : List String) (key : String) (fill : Members → Option Members)
    (root : Members) : Option Members :=
  descend .header (fun _ => alter key fun
    | none => (fill []).map (.table .headed)
    | some (.table .implied members) => (fill members).map (.table .headed)
    | some _ => none) path .headed root

/-- Adds a table to the tables under headers of one name. -/
def addItem (path : List String) (key : String) (members : Members) (root : Members) :
    Option Members :=
  descend .header (fun _ => alter key fun
    | none => some (.array true [.table .headed members])
    | some (.array true items) => some (.array true (items ++ [.table .headed members]))
    | some _ => none) path .headed root

end RecordTyping.Toml

import RecordTyping.Toml.Scalar
import RecordTyping.Toml.Table

/-!
# Reading TOML

A document is a list of lines, each a key with a value or a header; the keys after a header belong
to its table. A text that is not TOML, repeats a key or a table, or nests containers too deeply has
no value.
-/

namespace RecordTyping.Toml

/-- How many containers may be nested in one another. -/
def nestingAllowance : Nat := 80

/-- The characters of keys without marks. -/
def isKeyChar (c : Char) : Bool := c.isAlphanum || c = '_' || c = '-'

/-- Takes one part of a key off the front. -/
def readKeyPart : Reader String := fun s =>
  match s with
  | [] => none
  | c :: _ =>
    if c = '"' ∨ c = '\'' then (readLineString s).map fun (key, rest) => (String.ofList key, rest)
    else
      let key := s.takeWhile isKeyChar
      if key.isEmpty then none else some (String.ofList key, s.dropWhile isKeyChar)

/-- A key: the parts before the last and the last. -/
structure Key where
  path : List String
  last : String

/-- Takes a key off the front, with the blanks after it. -/
def readKey : Nat → Reader Key
  | 0, _ => none
  | fuel + 1, s => do
    let (part, rest) ← readKeyPart s
    match skipBlanks rest with
    | '.' :: rest =>
      let (key, rest) ← readKey fuel (skipBlanks rest)
      return (⟨part :: key.path, key.last⟩, rest)
    | rest => return (⟨[], part⟩, rest)

/-- Takes a key and an equals sign off the front, with the blanks around them. -/
def readAssigned (s : List Char) : Option (Key × List Char) := do
  let (key, rest) ← readKey (s.length + 1) s
  match rest with
  | '=' :: rest => return (key, skipBlanks rest)
  | _ => none

mutual

/-- Takes a value off the front. The fuel bounds the number of steps, the depth that of
containers that may still be opened. -/
def readValue : Nat → Nat → Reader Value
  | 0, _, _ => none
  | fuel + 1, depth, s =>
    match s with
    | '[' :: rest =>
      match depth with
      | 0 => none
      | depth + 1 =>
        (readItems fuel depth rest).map fun (items, rest) => (.array false items, rest)
    | '{' :: rest =>
      match depth with
      | 0 => none
      | depth + 1 =>
        (readMembers fuel depth [] rest).map fun (members, rest) => (.table .braced members, rest)
    | '"' :: _ => (readString s).map fun (text, rest) => (.string (String.ofList text), rest)
    | '\'' :: _ => (readString s).map fun (text, rest) => (.string (String.ofList text), rest)
    | _ => readScalar s

/-- Takes the items of an array off the front, and its closing bracket. -/
def readItems : Nat → Nat → Reader (List Value)
  | 0, _, _ => none
  | fuel + 1, depth, s => do
    match ← skipGaps? false s with
    | ']' :: rest => return ([], rest)
    | s =>
      let (v, rest) ← readValue fuel depth s
      match ← skipGaps? false rest with
      | ',' :: rest =>
        let (items, rest) ← readItems fuel depth rest
        return (v :: items, rest)
      | ']' :: rest => return ([v], rest)
      | _ => none

/-- Takes the members of a table in braces off the front, and its closing brace, and adds them
to members that have been read already. -/
def readMembers : Nat → Nat → Members → Reader Members
  | 0, _, _, _ => none
  | fuel + 1, depth, members, s => do
    match ← skipGaps? false s with
    | '}' :: rest => return (members, rest)
    | s =>
      let (key, rest) ← readAssigned s
      let (v, rest) ← readValue fuel depth rest
      let members ← addDotted .dottedKeyInBraces key.path key.last v members
      match ← skipGaps? false rest with
      | ',' :: rest => readMembers fuel depth members rest
      | '}' :: rest => return (members, rest)
      | _ => none

end

/-- A line of a document. -/
inductive Line where
  | assignment (key : Key) (value : Value)
  | header (key : Key)
  /-- The header of one of several tables of a name. -/
  | itemHeader (key : Key)

/-- Takes a line off the front, with its end. -/
def readLine : Reader Line := fun s =>
  match s with
  | '[' :: '[' :: rest => do
    let rest := skipBlanks rest
    let (key, rest) ← readKey (rest.length + 1) rest
    match rest with
    | ']' :: ']' :: rest => return (.itemHeader key, ← skipLine? rest)
    | _ => none
  | '[' :: rest => do
    let rest := skipBlanks rest
    let (key, rest) ← readKey (rest.length + 1) rest
    match rest with
    | ']' :: rest => return (.header key, ← skipLine? rest)
    | _ => none
  | s => do
    let (key, rest) ← readAssigned s
    let (v, rest) ← readValue (2 * rest.length + 2) nestingAllowance rest
    return (.assignment key v, ← skipLine? rest)

/-- Reads lines up to the end of the text. -/
def readLines : Nat → List Char → Option (List Line)
  | 0, _ => none
  | fuel + 1, s => do
    match ← skipGaps? false s with
    | [] => return []
    | s =>
      let (line, rest) ← readLine s
      return line :: (← readLines fuel rest)

/-- Adds the assignments at the start of a list of lines to a table, and returns the lines after
them. -/
def addAssignments : Members → List Line → Option (Members × List Line)
  | members, .assignment key value :: rest => do
    addAssignments (← addDotted .dottedKey key.path key.last value members) rest
  | members, rest => some (members, rest)

/-- The assignments at the start of a list of lines, added to a table. -/
def fillFrom (lines : List Line) (members : Members) : Option Members :=
  (addAssignments members lines).map Prod.fst

/-- Adds the tables that the headers of a list of lines begin. The assignments among the lines have
been added with the header before them. -/
def addTables : Members → List Line → Option Members
  | root, [] => some root
  | root, .assignment .. :: rest => addTables root rest
  | root, .header key :: rest => do
    addTables (← addHeaded key.path key.last (fillFrom rest) root) rest
  | root, .itemHeader key :: rest => do
    addTables (← addItem key.path key.last (← fillFrom rest []) root) rest

/-- The text without a byte order mark at its start. -/
def dropMark : List Char → List Char
  | c :: rest => if c.toNat = 0xFEFF then rest else c :: rest
  | [] => []

/-- The members of the table that a text describes. -/
def read? (s : String) : Option Members := do
  let s := dropMark s.toList
  let lines ← readLines (s.length + 1) s
  addTables (← fillFrom lines []) lines

end RecordTyping.Toml

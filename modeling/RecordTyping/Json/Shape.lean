import RecordTyping.Json.Reader

/-!
# Reading JSON of a given shape

Readers that ask for a string, a sequence or the members of an object, and say what they
found instead. The same questions are put to values that have been read already.
-/

namespace RecordTyping.Json

/-- What a value is called when it is not what was asked for. -/
def Value.found : Value → Found
  | .null => .null
  | .bool b => .boolean b
  | .integer n => .integer n.val
  | .double d => .floating (renderDouble d)
  | .string s => .string s
  | .array _ => .sequence
  | .object _ => .map

/-- The error at a value that is not what was asked for. A scalar is read first, so that a
malformed one is reported as such; of a container only the bracket is looked at. -/
def mismatch (expected : String) (s : List Char) : ReadError :=
  match skipBlanks s with
  | '[' :: _ => .shape (.invalidType .sequence expected)
  | '{' :: _ => .shape (.invalidType .map expected)
  | rest =>
    match readValue true 1 0 rest with
    | .ok (v, _) => .shape (.invalidType v.found expected)
    | .error e => e

/-- Takes a string off the front. -/
def readText (expected : String) : Reader String := fun s =>
  match skipBlanks s with
  | '"' :: rest => (readString true rest).map fun (t, rest) => (String.ofList t, rest)
  | rest => .error (mismatch expected rest)

/-- Takes elements off the front, at least one, and the bracket that closes them. -/
def readElements {α : Type} (element : Reader α) : Nat → Reader (List α)
  | 0, _ => .error .malformed
  | fuel + 1, s => do
    let (v, rest) ← element s
    match skipBlanks rest with
    | ',' :: rest =>
      let (items, rest) ← readElements element fuel rest
      return (v :: items, rest)
    | ']' :: rest => return ([v], rest)
    | rest => .error (fault rest)

/-- Takes a sequence off the front; its elements have one container less to nest in. -/
def readSequence {α : Type} (element : Nat → Reader α) (depth : Nat) : Reader (List α) := fun s =>
  match skipBlanks s with
  | '[' :: rest =>
    match depth with
    | 0 => .error .malformed
    | depth + 1 =>
      match skipBlanks rest with
      | ']' :: rest => .ok ([], rest)
      | rest => readElements (element depth) (rest.length + 1) rest
  | rest => .error (mismatch "a sequence" rest)

/-- Takes members off the front, at least one, and the brace that closes them, and lets `field` say
for each key how its value is read into what has been gathered so far. A key that `field`
refuses is an error before its value is looked at. -/
def readFields {σ : Type} (field : σ → String → Except ReadError (Reader σ)) :
    Nat → σ → Reader σ
  | 0, _, _ => .error .malformed
  | fuel + 1, gathered, s => do
    let rest ← expectKey s
    let (key, rest) ← readString true rest
    let value ← field gathered (String.ofList key)
    let rest ← expectColon rest
    let (gathered, rest) ← value rest
    match skipBlanks rest with
    | ',' :: rest => readFields field fuel gathered rest
    | '}' :: rest => return (gathered, rest)
    | rest => .error (fault rest)

/-- Takes the members of an object off the front, whose opening brace is taken already. -/
def readObject {σ : Type} (field : σ → String → Except ReadError (Reader σ)) (empty : σ) :
    Reader σ := fun s =>
  match skipBlanks s with
  | '}' :: rest => .ok (empty, rest)
  | rest => readFields field (rest.length + 1) empty rest

/-- The value must be a string. -/
def Value.asText (expected : String) : Value → Except ShapeError String
  | .string s => .ok s
  | v => .error (.invalidType v.found expected)

/-- The value must be a sequence. -/
def Value.asSequence (expected : String) : Value → Except ShapeError (List Value)
  | .array items => .ok items
  | v => .error (.invalidType v.found expected)

end RecordTyping.Json

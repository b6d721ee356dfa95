import RecordTyping.Schema

/-!
# The JSON form of a schema

A descriptor is an object with the name and the kind of the type and what belongs to the kind: the
fields of a record, the type of a scalar or the variants of an enumeration. The keys may stand in
any order, and unknown keys are ignored, but a known key may not be repeated. A field is an object
with a name and a type, or an array of the two.
-/

namespace RecordTyping

open Json (Value)

/-- The JSON form of a field. -/
def FieldDecl.toJson (d : FieldDecl) : Value :=
  .object [("name", .string d.name), ("type", d.type.toJson)]

/-- The members that belong to a kind, after its label. -/
def TypeKind.toMembers : TypeKind → List (String × Value)
  | .record schema => [("fields", .array (schema.fields.map FieldDecl.toJson))]
  | .scalar type => [("type", type.toJson)]
  | .enumeration variants => [("variants", .array (variants.map .string))]

/-- The JSON form of a descriptor. -/
def TypeDescriptor.toJson (t : TypeDescriptor) : Value :=
  .object (("name", .string t.name) :: ("kind", .string t.kind.label.name) :: t.kind.toMembers)

/-- The values of two known keys as they are met. -/
structure KeyPair (α β : Type) where
  first : Option α
  second : Option β

namespace FieldDecl

/-- Takes a member of a field's object into account. -/
def gather (found : KeyPair String FieldType) (member : String × Value) :
    Except ShapeError (KeyPair String FieldType) :=
  match member with
  | ("name", v) =>
    match found.first with
    | some _ => .error (.duplicateField "name")
    | none => do return { found with first := some (← v.asText "a string") }
  | ("type", v) =>
    match found.second with
    | some _ => .error (.duplicateField "type")
    | none => do return { found with second := some (← FieldType.ofJson v) }
  | _ => .ok found

/-- The field of a value that has been read already. -/
def ofJson : Value → Except ShapeError FieldDecl
  | .object members => do
    let found ← members.foldlM gather ⟨none, none⟩
    match found.first, found.second with
    | none, _ => .error (.missingField "name")
    | _, none => .error (.missingField "type")
    | some name, some type => return ⟨name, type⟩
  | .array items =>
    match items with
    | [] => .error (.invalidLength 0 "struct FieldDecl with 2 elements")
    | [name] => do
      let _ ← name.asText "a string"
      .error (.invalidLength 1 "struct FieldDecl with 2 elements")
    | [name, type] => do
      let name ← name.asText "a string"
      return ⟨name, ← FieldType.ofJson type⟩
    | name :: type :: rest => do
      let _ ← name.asText "a string"
      let _ ← FieldType.ofJson type
      .error (.invalidLength (rest.length + 2) "2 elements in sequence")
  | v => .error (.invalidType v.found "struct FieldDecl")

end FieldDecl

namespace TypeKind

/-- The kind that the value of the key `kind` stands for; it may be given by its place. -/
def labelOf : Value → Except ShapeError KindLabel
  | .string s =>
    match KindLabel.all.find? fun label => label.name == s with
    | some label => .ok label
    | none => .error (.unknownChoice s (KindLabel.all.map KindLabel.name))
  | .integer n =>
    if n.val < 0 then .error (.invalidType (.integer n.val) "variant identifier")
    else
      match KindLabel.all[n.val.toNat]? with
      | some label => .ok label
      | none => .error (.invalidValue (.integer n.val) "variant index 0 <= i < 3")
  | v => .error (.invalidType v.found "variant identifier")

/-- The kind and the members other than the one that gives it, which is judged where it stands. -/
def splitLabel : Option KindLabel → List (String × Value) →
    Except ShapeError (KindLabel × List (String × Value))
  | none, [] => .error (.missingField "kind")
  | some label, [] => .ok (label, [])
  | label, (key, v) :: rest =>
    if key = "kind" then
      match label with
      | some _ => .error (.duplicateField "kind")
      | none => do splitLabel (some (← labelOf v)) rest
    else do
      let (label, others) ← splitLabel label rest
      return (label, (key, v) :: others)

/-- Reads the value of the one key that belongs to a kind. A repeated key is an error once
the first of its values has been read. -/
def readOnly {α : Type} (key : String) (read : Value → Except ShapeError α) :
    Option α → List (String × Value) → Except ShapeError α
  | none, [] => .error (.missingField key)
  | some a, [] => .ok a
  | found, (k, v) :: rest =>
    if k = key then
      match found with
      | some _ => .error (.duplicateField key)
      | none => do readOnly key read (some (← read v)) rest
    else readOnly key read found rest

/-- The kind that the members of a descriptor other than its name describe. -/
def ofMembers (members : List (String × Value)) : Except ShapeError TypeKind := do
  let (label, others) ← splitLabel none members
  match label with
  | .record =>
    let fields ← readOnly "fields" (fun v => do
      (← v.asSequence "a sequence").mapM FieldDecl.ofJson) none others
    return .record ⟨fields⟩
  | .scalar => return .scalar (← readOnly "type" FieldType.ofJson none others)
  | .enumeration =>
    let variants ← readOnly "variants" (fun v => do
      (← v.asSequence "a sequence").mapM (Value.asText "a string")) none others
    return .enumeration variants

end TypeKind

namespace TypeDescriptor

/-- What has been read of a descriptor: its name and its other members, the last one first. -/
structure Gathered where
  name : Option String
  others : List (String × Value)

/-- How the value of a key of a descriptor is read. -/
def readMember (depth : Nat) (found : Gathered) (key : String) :
    Except Json.ReadError (Json.Reader Gathered) :=
  if key = "name" then
    match found.name with
    | some _ => .error (.shape (.duplicateField "name"))
    | none => .ok fun s =>
      (Json.readText "a string" s).map fun (name, rest) => ({ found with name := some name }, rest)
  else .ok fun s =>
    (Value.reader depth s).map fun (v, rest) =>
      ({ found with others := (key, v) :: found.others }, rest)

/-- The descriptor of what has been read. -/
def Gathered.resolve (found : Gathered) : Except ShapeError TypeDescriptor :=
  match found.name with
  | none => .error (.missingField "name")
  | some name => do return ⟨name, ← TypeKind.ofMembers found.others.reverse⟩

/-- Takes a descriptor off the front of a text. -/
def reader (depth : Nat) : Json.Reader TypeDescriptor := fun s =>
  match Json.skipBlanks s with
  | '{' :: rest =>
    match depth with
    | 0 => .error .malformed
    | depth + 1 => do
      let (found, rest) ← Json.readObject (readMember depth) ⟨none, []⟩ rest
      return (← FieldType.shaped found.resolve, rest)
  | rest => .error (Json.mismatch "struct TypeDescriptor" rest)

/-- The descriptor of a text. -/
def read (s : String) : Except Json.ReadError TypeDescriptor :=
  Json.readAll (reader Json.nestingAllowance) s

end TypeDescriptor

end RecordTyping

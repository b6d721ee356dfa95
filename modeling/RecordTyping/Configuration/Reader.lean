import RecordTyping.Configuration
import RecordTyping.Toml.Reader

/-!
# Reading configuration files

A configuration file is TOML. The whole text is checked first, then the shape of the sections, in
the order of their keys, and last the framework version. Unknown keys are ignored, except that
their numbers must be in range. A section may also be an array of its settings in order.
-/

namespace RecordTyping

open Toml (Value)

/-- Why a text is no configuration. -/
inductive ConfigurationError where
  /-- The text is not TOML. -/
  | malformed
  | shape (e : ShapeError)
  | invalid (reason : String)
deriving DecidableEq, Repr

/-- The wording of a configuration error. -/
def ConfigurationError.message : ConfigurationError → String
  | .malformed => "malformed TOML"
  | .shape e => e.message
  | .invalid reason => "Configuration error: " ++ reason

namespace Toml

/-- The error at a value that is not what was asked for. -/
def mismatch (expected : String) (v : Value) : ShapeError :=
  match v.found with
  | .ok found => .invalidType found expected
  | .error e => e

/-- The string that a value must be. -/
def Value.asText (expected : String) : Value → Except ShapeError String
  | .string s => .ok s
  | v => .error (mismatch expected v)

/-- The truth value that a value must be. -/
def Value.asFlag : Value → Except ShapeError Bool
  | .boolean b => .ok b
  | v => .error (mismatch "a boolean" v)

/-- The strings that a value must be. -/
def Value.asTexts : Value → Except ShapeError (List String)
  | .array _ items => items.mapM (Value.asText "a string")
  | v => .error (mismatch "a sequence" v)

/-- A choice that takes no value may stand as the key of an empty container. -/
def Value.asNothing : Value → Except ShapeError Unit
  | .array _ [] => .ok ()
  | .array _ _ => .error (.choiceWithValue "array")
  | .table _ [] => .ok ()
  | .table _ _ => .error (.choiceWithValue "table")
  | v => .error (.choiceWithScalar v.typeName)

mutual

/-- A value that is ignored must have its numbers in range. -/
def Value.ignore : Value → Except ShapeError Unit
  | .array _ items => ignoreItems items
  | .table _ members => ignoreMembers members
  | v => v.found.map fun _ => ()

/-- `Value.ignore` on the items of an array. -/
def ignoreItems : List Value → Except ShapeError Unit
  | [] => .ok ()
  | v :: rest => do
    v.ignore
    ignoreItems rest

/-- `Value.ignore` on the values of a table. -/
def ignoreMembers : List (String × Value) → Except ShapeError Unit
  | [] => .ok ()
  | (_, v) :: rest => do
    v.ignore
    ignoreMembers rest

end

/-- The members of a table in ascending order of their keys. -/
def Members.inOrder (members : Members) : Members := members.mergeSort fun a b => a.1 ≤ b.1

end Toml

namespace OutputFormat

/-- The format of a name. -/
def ofName (name : String) : Except ShapeError OutputFormat :=
  match [OutputFormat.rbi, .json].find? fun format => format.extension == name with
  | some format => .ok format
  | none => .error (.unknownChoice name ["rbi", "json"])

/-- The format that a value names. -/
def ofToml : Value → Except ShapeError OutputFormat
  | .string name => ofName name
  | .table _ [] => .error (.choiceEntries false)
  | .table _ [(name, v)] => do
    let format ← ofName name
    v.asNothing
    return format
  | .table .. => .error (.choiceEntries true)
  | _ => .error .notAChoice

end OutputFormat

namespace FrameworkSection

/-- Takes a member of the section into account. -/
def gather (found : FrameworkSection) (member : String × Value) :
    Except ShapeError FrameworkSection :=
  match member with
  | ("version", v) => do return { found with version := some (← v.asText "a string") }
  | (_, v) => do
    v.ignore
    return found

/-- The section that a value describes. A date is taken as a section without settings. -/
def ofToml : Value → Except ShapeError FrameworkSection
  | .table _ members => (Toml.Members.inOrder members).foldlM gather ⟨none⟩
  | .array _ items => (["version"].zip items).foldlM gather ⟨none⟩
  | .moment _ => .ok ⟨none⟩
  | v => .error (Toml.mismatch "struct FrameworkConfig" v)

end FrameworkSection

namespace OutputSection

/-- Takes a member of the section into account. -/
def gather (found : OutputSection) (member : String × Value) : Except ShapeError OutputSection :=
  match member with
  | ("directory", v) => do return { found with directory := ⟨← v.asText "path string"⟩ }
  | ("format", v) => do return { found with format := ← OutputFormat.ofToml v }
  | ("header", v) => do return { found with header := ← v.asTexts }
  | ("parallel", v) => do return { found with parallel := ← v.asFlag }
  | (_, v) => do
    v.ignore
    return found

/-- The section that a value describes. A date is taken as a section without settings. -/
def ofToml : Value → Except ShapeError OutputSection
  | .table _ members => (Toml.Members.inOrder members).foldlM gather .standard
  | .array _ items =>
    (["directory", "format", "header", "parallel"].zip items).foldlM gather .standard
  | .moment _ => .ok .standard
  | v => .error (Toml.mismatch "struct OutputConfig" v)

end OutputSection

namespace Configuration

/-- Takes a member of the file into account. -/
def gather (found : Configuration) (member : String × Value) : Except ShapeError Configuration :=
  match member with
  | ("framework", v) => do return { found with framework := some (← FrameworkSection.ofToml v) }
  | ("output", v) => do return { found with output := some (← OutputSection.ofToml v) }
  | (_, v) => do
    v.ignore
    return found

/-- A framework version that is given must be one. -/
def checkVersion (c : Configuration) : Except ConfigurationError Unit :=
  match c.framework.bind FrameworkSection.version with
  | none => .ok ()
  | some version =>
    match FrameworkVersion.parse version with
    | .ok _ => .ok ()
    | .error e => .error (.invalid ("[framework] version: " ++ e.message))

/-- The configuration of a text. -/
def read (s : String) : Except ConfigurationError Configuration :=
  match Toml.read? s with
  | none => .error .malformed
  | some members => do
    let c ← ((Toml.Members.inOrder members).foldlM gather standard).mapError .shape
    c.checkVersion
    return c

end Configuration

end RecordTyping

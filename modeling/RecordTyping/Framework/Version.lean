import RecordTyping.Text.Blank
import RecordTyping.Text.Numeral

/-!
# Framework versions

A version is a major and a minor number with a point between them, maybe after a `v`, and maybe
followed by a point and a tail of ASCII letters, digits, points and hyphens; blanks around it do not
count. Digits of other scripts have the form of a number but no value.
-/

namespace RecordTyping

/-- A framework version: its numbers, and its text without the blanks around it. -/
structure FrameworkVersion where
  major : Nat
  minor : Nat
  raw : String
deriving DecidableEq, Repr

/-- A version that is not supported, with the reason. -/
structure VersionError where
  version : String
  reason : String
deriving DecidableEq, Repr

/-- The wording of a version error. -/
def VersionError.message (e : VersionError) : String :=
  "unsupported framework version '" ++ e.version ++ "': " ++ e.reason

namespace FrameworkVersion

/-- The largest number in a version. -/
def maxComponent : Nat := 0xFFFFFFFF

/-- The characters of the tail of a version. -/
def isTailChar (c : Char) : Bool := c.isAlphanum || c = '.' || c = '-'

/-- Whether a text is what may follow the minor number. -/
def isTail (s : List Char) : Bool :=
  match s with
  | '.' :: rest =>
    !(rest.takeWhile isTailChar).isEmpty && (rest.dropWhile isTailChar).all Text.isBlank
  | rest => rest.all Text.isBlank

/-- A text without the letter that may stand in front of the numbers. -/
def unmarked : List Char → List Char
  | 'v' :: rest => rest
  | rest => rest

/-- The digits of the two numbers at the front of a text, if a tail and blanks follow them. -/
def numbers? (s : List Char) : Option (List Char × List Char) :=
  let major := s.takeWhile Text.isDecimalDigit
  match s.dropWhile Text.isDecimalDigit with
  | '.' :: rest =>
    let minor := rest.takeWhile Text.isDecimalDigit
    if !major.isEmpty && !minor.isEmpty && isTail (rest.dropWhile Text.isDecimalDigit) then
      some (major, minor)
    else none
  | _ => none

/-- The digits of the major and the minor number of a text that has the form of a version. -/
def components? (s : List Char) : Option (List Char × List Char) :=
  numbers? (unmarked (Text.trimStart s))

/-- The number that digits of a text write. -/
def number (input : String) (digits : List Char) : Except VersionError Nat :=
  match Text.readInteger 0 maxComponent digits with
  | .ok n => .ok n.toNat
  | .error fault => .error ⟨input, fault.message⟩

/-- What is said of a text that does not have the form of a version. -/
def formReason : String := "expected a MAJOR.MINOR[.PATCH...] version"

/-- The version of a text. -/
def parse (input : String) : Except VersionError FrameworkVersion :=
  match components? input.toList with
  | none => .error ⟨input, formReason⟩
  | some (major, minor) => do
    return ⟨← number input major, ← number input minor, Text.trimmed input⟩

/-- Whether a version comes before a release, by its numbers. -/
def isBefore (v : FrameworkVersion) (major minor : Nat) : Bool :=
  v.major < major || (v.major = major && v.minor < minor)

/-- Whether a version belongs to a release. -/
def isOf (v : FrameworkVersion) (major minor : Nat) : Bool := v.major = major && v.minor = minor

end FrameworkVersion

end RecordTyping

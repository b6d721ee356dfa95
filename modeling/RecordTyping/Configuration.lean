import RecordTyping.Declaration.Rendering
import RecordTyping.Files.Path

/-!
# Configuration

What a configuration file sets: the framework version, and where and how declarations are
written. Whatever it leaves out has a default.
-/

namespace RecordTyping

open Files (Path)

/-- The settings about the framework. -/
structure FrameworkSection where
  version : Option String
deriving DecidableEq, Repr

/-- The settings about the files that are written. -/
structure OutputSection where
  directory : Path
  format : OutputFormat
  /-- The comments at the top of each file. -/
  header : List String
  /-- Whether classes are worked out side by side. -/
  parallel : Bool
deriving DecidableEq, Repr

/-- The settings about the files that are written, if none are given. -/
def OutputSection.standard : OutputSection where
  directory := ⟨"sorbet/rbi"⟩
  format := .rbi
  header := ["This is an autogenerated file for Rails' ActiveRecord.",
    "Please rerun `ormsig generate` to regenerate."]
  parallel := false

/-- A configuration. -/
structure Configuration where
  framework : Option FrameworkSection
  output : Option OutputSection
deriving DecidableEq, Repr

namespace Configuration

/-- The name of configuration files. -/
def fileName : String := ".ormsig.toml"

/-- The framework version, if none is given. -/
def standardVersion : String := "6.1.0"

/-- The configuration that sets nothing. -/
def standard : Configuration := ⟨none, none⟩

/-- The framework version. -/
def frameworkVersion (c : Configuration) : String :=
  (c.framework.bind FrameworkSection.version).getD standardVersion

/-- The settings about the files that are written. -/
def outputSection (c : Configuration) : OutputSection := c.output.getD .standard

end Configuration

end RecordTyping

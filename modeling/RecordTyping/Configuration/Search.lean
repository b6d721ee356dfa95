import RecordTyping.Configuration.Reader
import RecordTyping.Failure
import RecordTyping.Workspace

/-!
# Finding the configuration

A configuration file that is named must be there and be valid. If none is named, the current
directory and the nearest ones above it are searched; files that cannot be read or are not valid are
passed over with a warning.
-/

namespace RecordTyping

open Files (Fault Path)

variable {m : Type → Type} [Monad m] [Workspace m]

namespace Configuration

/-- How many directories are searched. -/
def searchDepth : Nat := 10

/-- A log line about the search. -/
def searchLine (level : LogLevel) (text : String) : LogLine :=
  ⟨level, "ormsig::config::loader", text⟩

/-- The configuration in a file that may be missing or wrong. -/
def tryLoad (p : Path) : m (Option Configuration) := do
  match ← Workspace.read p with
  | .error .notFound => return none
  | .error fault =>
    Workspace.log (searchLine .warning
      ("Failed to read config file " ++ p.text ++ ": " ++ fault.message))
    return none
  | .ok text =>
    match read text with
    | .ok c =>
      Workspace.log (searchLine .detail ("Loaded config from " ++ p.text))
      return some c
    | .error e =>
      Workspace.log (searchLine .warning
        ("Ignoring " ++ p.text ++ ": " ++ e.message ++ ". Using defaults."))
      return none

/-- The first configuration in some files. -/
def firstLoaded : List Path → m (Option Configuration)
  | [] => return none
  | p :: rest => do
    match ← tryLoad p with
    | some c => return some c
    | none => firstLoaded rest

/-- The configuration files that a search from a directory looks at. -/
def candidates (directory : Path) : List Path :=
  (directory.ancestors searchDepth).map fun d => d.join fileName

/-- The configuration that a search from a directory finds, or the one that sets nothing. -/
def searchFrom (directory : Path) : m Configuration := do
  match ← firstLoaded (candidates directory) with
  | some c => return c
  | none =>
    Workspace.log (searchLine .detail ("No config found after checking " ++
      Text.natNumeral searchDepth ++ " directories. Using default config."))
    return standard

/-- The configuration that a search from the current directory finds. Where that is not known, no
file is looked at. -/
def search : m Configuration := do
  match ← Workspace.currentDirectory with
  | .ok directory => searchFrom directory
  | .error fault =>
    Workspace.log (searchLine .warning ("Failed to get current directory: " ++ fault.message ++
      ". Using default config."))
    return standard

/-- The configuration in a file that is named. -/
def load (p : Path) : ExceptT Failure m Configuration := do
  match ← Workspace.read p with
  | .error fault => throw (.file fault)
  | .ok text =>
    match read text with
    | .ok c => return c
    | .error e => throw ((Failure.configuration e).withContext ("loading " ++ p.text))

end Configuration

end RecordTyping

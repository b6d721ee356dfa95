import RecordTyping.Declaration.Rendering
import RecordTyping.Files.Path

/-!
# Commands

What the program can be asked to do, with the options of each command.
-/

namespace RecordTyping

open Files (Path)

/-- Which files of declarations are written. -/
inductive Target where
  | base
  | relation
  | all
deriving DecidableEq, Repr

/-- The groups whose files are written. -/
def Target.groups : Target → List DeclarationGroup
  | .base => [.base]
  | .relation => [.relation]
  | .all => DeclarationGroup.all

/-- The options of the command that writes declarations. What is not given follows the
configuration. -/
structure GenerateOptions where
  frameworkVersion : Option String
  target : Target
  format : Option OutputFormat
  output : Option Path
  /-- Whether the declarations are printed and no files are written. -/
  toOutput : Bool
  configuration : Option Path
  parallel : Bool
deriving DecidableEq, Repr

/-- The groups whose files are asked for. -/
def GenerateOptions.groups (o : GenerateOptions) : List DeclarationGroup := o.target.groups

/-- The options of the command that projects the rows of a file. -/
structure ProjectOptions where
  schema : Path
  rows : Path
  associations : List (String × String)
  coerceTypes : Bool
deriving DecidableEq, Repr

/-- What the program is asked to do. -/
inductive Command where
  /-- Writes declarations. -/
  | generate (options : GenerateOptions)
  /-- Lists the methods of a class. -/
  | methods (host : HostClass) (frameworkVersion : Option String)
  /-- Projects the rows of a file. -/
  | project (options : ProjectOptions)
  /-- Writes a configuration file. -/
  | init (force : Bool)
deriving DecidableEq, Repr

/-- A command, and how much is to be said about it. -/
structure Invocation where
  verbosity : Nat
  command : Command
deriving DecidableEq, Repr

/-- Why arguments are no invocation. -/
inductive UsageError where
  | invalidValue
  | unknownArgument
  | invalidSubcommand
  | missingRequiredArgument
  | missingSubcommand
  | argumentConflict
  | tooManyValues
  | valueValidation
  | displayHelp
  | displayVersion
  | nothingGiven
deriving DecidableEq, Repr

namespace UsageError

/-- The wording of a usage error. -/
def message : UsageError → String
  | .invalidValue => "an option has no value or one that is not allowed"
  | .unknownArgument => "unexpected argument"
  | .invalidSubcommand => "unrecognized command"
  | .missingRequiredArgument => "a required option is missing"
  | .missingSubcommand => "a command is required"
  | .argumentConflict => "an option cannot be used multiple times"
  | .tooManyValues => "an option takes no value"
  | .valueValidation => "an option has a value that is not valid"
  | .displayHelp => "help"
  | .displayVersion => "version"
  | .nothingGiven => "nothing is given"

/-- Whether the error answers a question of the user. -/
def isAnswer : UsageError → Bool
  | .displayHelp => true
  | .displayVersion => true
  | _ => false

end UsageError

end RecordTyping

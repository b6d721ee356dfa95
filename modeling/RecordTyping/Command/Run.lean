import RecordTyping.Command.Generate
import RecordTyping.Command.Project

/-!
# Running commands

Two of the commands are short: one prints the methods of a class as a table, for the framework
version that is given or configured, and one writes a configuration file that sets everything to
what it would be without it. A command that fails says why, and what caused that if it is known.
The exit code is 0 for success, 1 for a failure, and 2 for arguments that are no invocation, unless
they ask for an answer.
-/

namespace RecordTyping

variable {m : Type → Type} [Monad m] [Workspace m]

/-! ## Listing methods -/

/-- The text that lists the methods of a class. -/
def methodsListing (policy : Policy) (s : ClassSignatures) : String :=
  s.host.className ++ " (" ++ Text.natNumeral s.methods.length ++ " methods, framework " ++
    policy.version.raw ++ ")\n" ++ methodsTable s.methods ++ "\n"

/-- Prints the methods of a class. -/
def listMethods (host : HostClass) (frameworkVersion : Option String) : ExceptT Failure m Unit := do
  let c ← Configuration.search
  let policy ← orFail .version (Policy.resolve (frameworkVersion.getD c.frameworkVersion))
  let s ← orFail .duplicateMethod (HostClass.signatures policy host)
  Workspace.log (synthesisLine policy s)
  Workspace.print (methodsListing policy s)

/-! ## Writing a configuration file -/

/-- The lines of a configuration file that changes nothing. -/
def standardConfigurationLines : List String :=
  ["# ormsig configuration",
    "",
    "[framework]",
    "version = \"6.1.0\"",
    "",
    "[output]",
    "directory = \"sorbet/rbi\"",
    "format = \"rbi\"",
    "parallel = false",
    "header = [",
    "    \"This is an autogenerated file for Rails' ActiveRecord.\",",
    "    \"Please rerun `ormsig generate` to regenerate.\",",
    "]"]

/-- The text of a configuration file that changes nothing. -/
def standardConfigurationText : String :=
  String.join (standardConfigurationLines.map (· ++ "\n"))

/-- Writes a configuration file into the current directory. One that is there is replaced only
if that is asked for. -/
def writeConfiguration (force : Bool) : ExceptT Failure m Unit := do
  let p : Files.Path := ⟨Configuration.fileName⟩
  if (← Workspace.isPresent p) && !force then
    throw (.refusal "Configuration file already exists. Use --force to overwrite.")
  orFail .file (← Workspace.write p standardConfigurationText)
  Workspace.print ("Created " ++ Configuration.fileName ++ " configuration file\n")

/-! ## All commands -/

/-- Runs a command. -/
def Command.run : Command → ExceptT Failure m Unit
  | .generate options => options.run
  | .methods host frameworkVersion => listMethods host frameworkVersion
  | .project options => options.run
  | .init force => writeConfiguration force

/-- How a failure is reported. -/
def Failure.report (e : Failure) : String :=
  "Error: " ++ e.message ++
    (match e.cause? with
      | some cause => "\n\nCaused by:\n    " ++ indentRest cause
      | none => "") ++ "\n"

/-- Runs an invocation to its exit code. -/
def Invocation.run (i : Invocation) : m Nat := do
  match ← i.command.run.run with
  | .ok () => return 0
  | .error e =>
    Workspace.complain e.report
    return 1

/-- The version of the program, as it is shown. -/
def programVersion : String := "ormsig 0.3.0"

/-- How the program is used. -/
def usage : String :=
  "Usage: ormsig [-v]... <generate | methods | project | init> [OPTIONS]"

/-- Reports arguments that are no invocation, to the exit code. -/
def UsageError.report (e : UsageError) : m Nat := do
  match e with
  | .displayVersion => Workspace.print (programVersion ++ "\n")
  | .displayHelp => Workspace.print (usage ++ "\n")
  | e => Workspace.complain ("error: " ++ e.message ++ "\n\n" ++ usage ++ "\n")
  return if e.isAnswer then 0 else 2

end RecordTyping

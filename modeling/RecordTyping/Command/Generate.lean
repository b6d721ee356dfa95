import RecordTyping.CommandLine
import RecordTyping.Configuration.Search

/-!
# Writing declarations

The files are worked out in memory first, from the configuration and the options. Then they are
either printed or written, and only then is anything changed.
-/

namespace RecordTyping

variable {m : Type → Type} [Monad m] [Workspace m]

/-- The value of a result, or its error as a failure. -/
def orFail {ε α : Type} (failure : ε → Failure) (result : Except ε α) : ExceptT Failure m α :=
  match result with
  | .ok a => pure a
  | .error e => throw (failure e)

/-- The line that says which methods were worked out for a class. -/
def synthesisLine (policy : Policy) (s : ClassSignatures) : LogLine :=
  ⟨.detail, "ormsig::synth", "synthesized " ++ Text.natNumeral s.methods.length ++
    " methods for " ++ s.host.className ++ " (" ++ policy.version.raw ++ ")"⟩

namespace GenerateOptions

/-- The framework version that is asked for. -/
def version (o : GenerateOptions) (c : Configuration) : String :=
  o.frameworkVersion.getD c.frameworkVersion

/-- The signatures that are asked for. -/
def signatures (o : GenerateOptions) (c : Configuration) (policy : Policy) :
    Except DuplicateMethod (List ClassSignatures) :=
  synthesizeAll policy (o.parallel || c.outputSection.parallel)

/-- The files of some signatures. -/
def files (o : GenerateOptions) (c : Configuration) (signatures : List ClassSignatures) :
    List RenderedFile :=
  (groupSignatures signatures o.groups c.outputSection.header).map
    (DeclarationFile.rendered (o.format.getD c.outputSection.format))

/-- The directory that files are written to. -/
def directory (o : GenerateOptions) (c : Configuration) : Files.Path :=
  o.output.getD c.outputSection.directory

/-- The configuration that is asked for. -/
def findConfiguration (o : GenerateOptions) : ExceptT Failure m Configuration :=
  match o.configuration with
  | some p => Configuration.load p
  | none => Configuration.search

/-- The line that says for which version declarations are worked out. -/
def policyLine (policy : Policy) : LogLine :=
  ⟨.information, "ormsig::commands::generate", "Generating declarations for framework " ++
    policy.version.raw ++ " (" ++ policy.paramStyle.names.2 ++ ", " ++
      policy.proxyAccessors.names.2 ++ ")"⟩

/-- Writes a file into a directory. -/
def writeFile (directory : Files.Path) (f : RenderedFile) : ExceptT Failure m Unit := do
  let p := directory.join f.name
  orFail .file (← Workspace.write p f.contents)
  Workspace.log ⟨.detail, "ormsig::commands::generate",
    "wrote " ++ Text.natNumeral f.contents.utf8ByteSize ++ " bytes to " ++ p.text⟩
  Workspace.print ("Wrote " ++ p.text ++ "\n")

/-- Writes files into a directory, in their order, up to the first that cannot be written. -/
def writeFiles (directory : Files.Path) : List RenderedFile → ExceptT Failure m Unit
  | [] => pure ()
  | f :: rest => do
    writeFile directory f
    writeFiles directory rest

/-- Prints files, or writes them into a directory that is made if it is missing. -/
def deliver (o : GenerateOptions) (c : Configuration) (files : List RenderedFile) :
    ExceptT Failure m Unit := do
  if o.toOutput then
    files.forM fun f => Workspace.print f.contents
  else
    orFail .file (← Workspace.createDirectories (o.directory c))
    writeFiles (o.directory c) files

/-- Writes or prints declarations. -/
def run (o : GenerateOptions) : ExceptT Failure m Unit := do
  let c ← o.findConfiguration
  let policy ← orFail .version (Policy.resolve (o.version c))
  Workspace.log (policyLine policy)
  let signatures ← orFail .duplicateMethod (o.signatures c policy)
  signatures.forM fun s => Workspace.log (synthesisLine policy s)
  o.deliver c (o.files c signatures)

end GenerateOptions

end RecordTyping

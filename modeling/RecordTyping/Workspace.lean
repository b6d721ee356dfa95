import RecordTyping.Files.Tree

/-!
# What commands may do

A command reads and writes files, prints, and leaves lines in a log. `Workspace` is what it needs
for that of the monad it runs in. `Desk` is a workspace in memory: a file tree with its current
directory, and what has been printed so far.
-/

namespace RecordTyping

open Files (Fault Path Place Tree)

/-- How important a log line is, the most important first. -/
inductive LogLevel where
  | warning
  | information
  | detail
deriving DecidableEq, Repr

namespace LogLevel

/-- The name of a level, as wide as the widest. -/
def label : LogLevel → String
  | .warning => "WARN "
  | .information => "INFO "
  | .detail => "DEBUG"

/-- The verbosity from which on lines of a level are shown. -/
def threshold : LogLevel → Nat
  | .warning => 0
  | .information => 1
  | .detail => 2

end LogLevel

/-- A line of the log. -/
structure LogLine where
  level : LogLevel
  /-- The part of the program that the line comes from. -/
  origin : String
  text : String
deriving DecidableEq, Repr

/-- A text whose lines after the first are moved to the right by four blanks. -/
def indentRest (s : String) : String :=
  String.ofList (s.toList.flatMap fun c => if c = '\n' then ['\n', ' ', ' ', ' ', ' '] else [c])

/-- How a log line is written. -/
def LogLine.written (line : LogLine) : String :=
  "[" ++ line.level.label ++ " " ++ line.origin ++ "] " ++ indentRest line.text ++ "\n"

/-- What a command needs of the monad it runs in. -/
class Workspace (m : Type → Type) where
  /-- The current directory as an absolute path. -/
  currentDirectory : m (Except Fault Path)
  /-- The text of a file. -/
  read : Path → m (Except Fault String)
  /-- Whether there is something at a path. -/
  isPresent : Path → m Bool
  /-- Whether there is a directory at a path. -/
  isDirectory : Path → m Bool
  /-- Makes a directory in one that is there. -/
  makeDirectory : Path → m (Except Fault Unit)
  /-- Writes a text into a file, in place of what it held. -/
  write : Path → String → m (Except Fault Unit)
  /-- Prints a text. -/
  print : String → m Unit
  /-- Prints a text where errors go. -/
  complain : String → m Unit
  /-- Leaves a line in the log, which goes where errors go, if it is important enough. -/
  log : LogLine → m Unit

namespace Workspace

variable {m : Type → Type} [Monad m] [Workspace m]

/-- A directory that could not be made is no fault if it is there. -/
def tolerate (p : Path) (result : Except Fault Unit) : m (Except Fault Unit) := do
  match result with
  | .ok () => return .ok ()
  | .error fault => if ← isDirectory p then return .ok () else return .error fault

/-- Makes a directory at the first of some paths, each of which is the parent of the one before it;
an empty path is the current directory. Parents are made only where they are missing. -/
def makeDirectories : List Path → m (Except Fault Unit)
  | [] => return .ok ()
  | p :: above => do
    if p.text.isEmpty then return .ok ()
    match ← makeDirectory p with
    | .error .notFound =>
      match ← makeDirectories above with
      | .ok () => tolerate p (← makeDirectory p)
      | .error fault => return .error fault
    | result => tolerate p result

/-- Makes a directory at a path and at its ancestors. -/
def createDirectories (p : Path) : m (Except Fault Unit) := makeDirectories p.ancestry

end Workspace

/-- What may fail can do what the monad below it can do. -/
instance {ε : Type} {m : Type → Type} [Monad m] [Workspace m] : Workspace (ExceptT ε m) where
  currentDirectory := ExceptT.lift Workspace.currentDirectory
  read := fun p => ExceptT.lift (Workspace.read p)
  isPresent := fun p => ExceptT.lift (Workspace.isPresent p)
  isDirectory := fun p => ExceptT.lift (Workspace.isDirectory p)
  makeDirectory := fun p => ExceptT.lift (Workspace.makeDirectory p)
  write := fun p contents => ExceptT.lift (Workspace.write p contents)
  print := fun s => ExceptT.lift (Workspace.print s)
  complain := fun s => ExceptT.lift (Workspace.complain s)
  log := fun line => ExceptT.lift (Workspace.log line)

/-- A workspace in memory. -/
structure Desk where
  tree : Tree
  verbosity : Nat
  printed : String
  complained : String

namespace Desk

/-- A desk at which nothing has been printed yet. -/
def start (tree : Tree) (verbosity : Nat) : Desk := ⟨tree, verbosity, "", ""⟩

/-- The path of a place. -/
def pathOf (place : Place) : Path := ⟨"/" ++ "/".intercalate place⟩

/-- The path of the current directory, which has none if it was removed. -/
def whereabouts (d : Desk) : Except Fault Path :=
  if d.tree.find? d.tree.current = some .directory then .ok (pathOf d.tree.current)
  else .error .notFound

/-- The desk with a tree in place of its own, or the fault that kept it from being made. -/
def change (d : Desk) (result : Except Fault Tree) : Except Fault Unit × Desk :=
  match result with
  | .ok tree => (.ok (), { d with tree := tree })
  | .error fault => (.error fault, d)

/-- The desk with a log line, if it is important enough. -/
def note (d : Desk) (line : LogLine) : Desk :=
  if line.level.threshold ≤ d.verbosity then
    { d with complained := d.complained ++ line.written }
  else d

end Desk

instance : Workspace (StateM Desk) where
  currentDirectory := fun d => (d.whereabouts, d)
  read := fun p d => (d.tree.read p, d)
  isPresent := fun p d => (d.tree.isPresent p, d)
  isDirectory := fun p d => (d.tree.isDirectory p, d)
  makeDirectory := fun p d => d.change (d.tree.makeDirectory p)
  write := fun p contents d => d.change (d.tree.write p contents)
  print := fun s d => ((), { d with printed := d.printed ++ s })
  complain := fun s d => ((), { d with complained := d.complained ++ s })
  log := fun line d => ((), d.note line)

end RecordTyping

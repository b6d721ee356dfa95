import RecordTyping.Command.Run
import RecordTyping.CommandLine.Parser

/-!
# The program

The workspace of the operating system, and the entry point.
-/

namespace RecordTyping

open Files (Fault)

/-- Actions on the operating system that know how much is to be said. -/
abbrev Terminal : Type → Type := ReaderT Nat IO

/-- The fault that an error of the system stands for. The numbers of errors may have a sign. -/
def faultOf (e : IO.Error) : Fault :=
  match e with
  | .noFileOrDirectory .. => .notFound
  | .alreadyExists .. => .alreadyExists
  | .inappropriateType _ code _ =>
    if code = 20 ∨ -code = 20 then .notADirectory
    else if code = 21 ∨ -code = 21 then .isADirectory
    else .other (toString e)
  | e => .other (toString e)

/-- The result of an action, its error as a fault. -/
def guarded {α : Type} (action : IO α) : Terminal (Except Fault α) := do
  match ← action.toBaseIO with
  | .ok a => return .ok a
  | .error e => return .error (faultOf e)

instance : Workspace Terminal where
  currentDirectory := guarded do return ⟨(← IO.currentDir).toString⟩
  read := fun p => do
    match ← guarded (IO.FS.readBinFile p.text) with
    | .ok bytes => return (String.fromUTF8? bytes).elim (.error .notText) .ok
    | .error fault => return .error fault
  isPresent := fun p => do return (← guarded (IO.FS.realPath p.text)).isOk
  isDirectory := fun p => do
    match ← guarded (IO.FS.realPath p.text) with
    | .ok real => real.isDir
    | .error _ => return false
  makeDirectory := fun p => guarded (IO.FS.createDir p.text)
  write := fun p contents => guarded (IO.FS.writeFile p.text contents)
  print := fun s => IO.print s
  complain := fun s => IO.eprint s
  log := fun line => do
    if line.level.threshold ≤ (← read) then IO.eprint line.written

end RecordTyping

open RecordTyping in
/-- Runs the program. -/
def main (arguments : List String) : IO UInt32 := do
  match CommandLine.parse (← IO.getEnv "ORMSIG_FRAMEWORK_VERSION") arguments with
  | .ok invocation => return (← (invocation.run : Terminal Nat).run invocation.verbosity).toUInt32
  | .error e => return (← (e.report : Terminal Nat).run 0).toUInt32

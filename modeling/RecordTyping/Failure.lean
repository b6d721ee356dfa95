import RecordTyping.Configuration.Reader
import RecordTyping.Files.Path
import RecordTyping.Projection
import RecordTyping.Signature.Synthesis

/-!
# Failures

Everything that may go wrong, with the wording of each failure. A context says what was being done;
it keeps the wording of the failure and nothing else of it.
-/

namespace RecordTyping

/-- The wording of a JSON text that could not be read. -/
def Json.ReadError.message : Json.ReadError → String
  | .malformed => "malformed JSON"
  | .truncated => "JSON text ends early"
  | .shape e => e.message

/-- What went wrong. -/
inductive Failure where
  | projection (e : ProjectionError)
  | version (e : VersionError)
  | duplicateMethod (e : DuplicateMethod)
  | configuration (e : ConfigurationError)
  | json (e : Json.ReadError)
  | file (fault : Files.Fault)
  | refusal (message : String)
  | inContext (context : String) (message : String)

namespace Failure

/-- The wording of a failure. -/
def message : Failure → String
  | .projection e => e.message
  | .version e => e.message
  | .duplicateMethod e => e.message
  | .configuration e => e.message
  | .json e => e.message
  | .file fault => fault.message
  | .refusal message => message
  | .inContext context message => context ++ ": " ++ message

/-- The failure with what was being done. -/
def withContext (context : String) (e : Failure) : Failure := .inContext context e.message

/-- The wording of the failure that caused this one, if it is told apart. -/
def cause? : Failure → Option String
  | .projection (.coercion _ e) => some e.message
  | .projection (.source message) => some message
  | .projection (.construction _ e) => some e.message
  | _ => none

end Failure

end RecordTyping

import CoachScript.Host.Basic
import CoachScript.Script.Value
import CoachScript.State.Fault

/-!
# Faults of evaluation

Why an expression has no value. `Fault.message` is the wording; a fault of a context or of the host
keeps its own.
-/

namespace CoachScript

/-- Why an expression has no value. -/
inductive Fault where
  | unknownCommand (name : String)
  | arity (command wanted : String) (given : Nat)
  | argumentKind (command parameter : String) (allowed : List Kind) (found : Kind)
  | notBoolean (expression : String) (found : Kind)
  | invalidValue (command problem : String)
  | unknownQuestion (id : String)
  | unknownCoach (id : String)
  | unknownInstance (coachId instanceId : String)
  | context (e : ContextFault)
  | host (e : HostFault)
deriving DecidableEq, Repr

/-- The wording of a fault. -/
def Fault.message : Fault → String
  | .unknownCommand name => String.join ["unknown command ", name]
  | .arity command wanted given =>
    String.join [command, " expects ", wanted, " arguments, got ", toString given]
  | .argumentKind command parameter allowed found =>
    let allowedText := " or ".intercalate (allowed.map Kind.name)
    String.join [command, ": parameter ", parameter, " must be ", allowedText, ", got ", found.name]
  | .notBoolean expression found =>
    String.join ["condition ", expression, " evaluated to ", found.name, ", not a boolean"]
  | .invalidValue command problem => String.join [command, ": ", problem]
  | .unknownQuestion id => String.join ["unknown question ", id]
  | .unknownCoach id => String.join ["unknown coach ", id]
  | .unknownInstance coachId instanceId =>
    String.join ["unknown subcoach instance ", coachId, ".", instanceId]
  | .context e => e.message
  | .host e => e.message

/-- A fault of a context as a fault of evaluation. -/
def ofContext {α : Type} (r : Except ContextFault α) : Except Fault α := r.mapError .context

/-- A fault of the host as a fault of evaluation. -/
def ofHost {α : Type} (r : Except HostFault α) : Except Fault α := r.mapError .host

end CoachScript

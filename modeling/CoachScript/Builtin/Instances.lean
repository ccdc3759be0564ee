import CoachScript.Eval.World

/-!
# Instances of subcoaches

An instance lives in two books: among the contexts, and at the host. `createSubcoach` writes the
contexts first and takes that back if the host refuses; `removeSubcoach` writes the contexts first
and does not take it back.
-/

namespace CoachScript.Builtin

/-- The ids that name an instance. -/
def instanceIds (call : Call) (args : List Value) : Except Fault (String × String) := do
  let coachId ← call.text args 0 "coachId"
  let instanceId ← call.text args 1 "instanceId"
  pure (coachId, instanceId)

/-- The ids and the argument of an instance to be created, of a coach that the host knows. -/
def creation (call : Call) (args : List Value) (w : World) :
    Except Fault (String × String × String) := do
  let (coachId, instanceId) ← instanceIds call args
  let argument ←
    if args.length = 3 then (·.getD "") <$> call.optionalText args 2 "argument" else pure ""
  if (← ofHost (w.host.coach coachId)).isNone then throw (.unknownCoach coachId)
  pure (coachId, instanceId, argument)

/-- Creates an instance; the value is whether it is new. An instance that exists stays as it is. -/
def createSubcoach (call : Call) (args : List Value) : Action Value := fun w =>
  match creation call args w with
  | .error e => (.error e, w)
  | .ok (coachId, instanceId, argument) =>
    match w.contexts.createInstance call.target coachId instanceId argument with
    | .error e => (.error (.context e), w)
    | .ok (_, false, contexts) => (.ok (.bool false), { w with contexts })
    | .ok (child, true, contexts) =>
      match w.host.createInstance coachId (contexts.get child).name with
      | .ok host => (.ok (.bool true), { w with contexts, host })
      | .error e =>
        let contexts := (contexts.removeInstance call.target coachId instanceId).2
        (.error (.host e), { w with contexts })

/-- Removes an instance and those below it; the value is whether it was there. -/
def removeSubcoach (call : Call) (args : List Value) : Action Value := fun w =>
  match instanceIds call args with
  | .error e => (.error e, w)
  | .ok (coachId, instanceId) =>
    let handle? := (call.context w).handle? coachId instanceId
    let (removed, contexts) := w.contexts.removeInstance call.target coachId instanceId
    let w := { w with contexts }
    match handle? with
    | none => (.ok (.bool removed), w)
    | some handle =>
      match w.host.removeInstance coachId handle.name with
      | .ok host => (.ok (.bool removed), { w with host })
      | .error e => (.error (.host e), w)

/-- What the parent attached when it created the instance. -/
def getParentArgument (call : Call) (w : World) : Value := .string (call.context w).argument

/-- The latest value of a variable of an instance below, or `NULL`. -/
def getSubcoachVariable (call : Call) (args : List Value) (w : World) : Except Fault Value := do
  let (coachId, instanceId) ← instanceIds call args
  let name ← call.text args 2 "name"
  match (call.context w).handle? coachId instanceId with
  | none => throw (.unknownInstance coachId instanceId)
  | some handle => pure (((w.get handle.context).memory.get? name none).getD .null)

end CoachScript.Builtin

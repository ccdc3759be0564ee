import CoachScript.Eval.World

/-!
# Texts, messages and what the host tells

`NULL` has no text: it adds nothing to a text and an empty word to a message.
-/

namespace CoachScript.Builtin

/-- The arguments' texts one after another. -/
def concat (args : List Value) : Value := .string (String.join (args.map Value.textOrEmpty))

/-- Writes the arguments' texts to the log, a blank between two; the value is the message. -/
def log (call : Call) (args : List Value) : Action Value := do
  let message := " ".intercalate (args.map Value.textOrEmpty)
  .modify fun w =>
    { w with log := w.log.push ⟨(w.get call.scene.active).name, call.scene.question, message⟩ }
  return .string message

/-- A piece of metadata; where there is none, a third argument or `NULL` stands in. -/
def getMetadata (call : Call) (args : List Value) (w : World) : Except Fault Value := do
  let group ← call.text args 0 "group"
  let key ← call.text args 1 "key"
  match ← ofHost (w.host.metadataOf (call.context w).name group key) with
  | some text => pure (.string text)
  | none => pure (Call.value args 2)

/-- Whether the host has a handler for the coach. -/
def hasHandler (call : Call) (args : List Value) (w : World) : Except Fault Value := do
  let name ← call.text args 0 "name"
  let names ← ofHost (w.host.handlersOf (call.context w).coachId)
  pure (.bool (names.contains name))

end CoachScript.Builtin

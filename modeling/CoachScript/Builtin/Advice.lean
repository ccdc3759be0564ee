import CoachScript.Eval.World

/-!
# Recommendations

They belong to the context that evaluates, wherever the call acts: to that context itself, or to
the bucket that its parent keeps for it. Asking makes the bucket, too.
-/

namespace CoachScript.Builtin

/-- Changes the recommendations of the evaluating context. -/
def reshelve (call : Call) (f : Recommendations → Recommendations) (w : World) : World :=
  { w with contexts := w.contexts.updateShelf f (w.contexts.shelf call.scene.active) }

/-- The recommendations of the evaluating context. -/
def shelved (call : Call) (w : World) : Recommendations :=
  w.contexts.onShelf (w.contexts.shelf call.scene.active)

/-- The tags of a recommendation to be added, from the fifth argument if there is one. -/
def tags (call : Call) (args : List Value) : Except Fault (List Tag) :=
  if args.length = 5 then (call.text args 4 "tags").map Tag.readList else .ok []

/-- Adds a recommendation; it replaces one of its id. -/
def addRecommendation (call : Call) (args : List Value) : Action Value := do
  let id ← .check (call.text args 0 "id")
  let order ← .check (call.integer args 1 "order")
  let title ← .check (call.text args 2 "title")
  let text ← .check (call.text args 3 "text")
  let tags ← .check (tags call args)
  let contributor ← .view fun w => (w.get call.scene.active).tag
  .modify (reshelve call (·.add ⟨id, order, title, text, tags, contributor⟩))
  return .bool true

/-- Removes a recommendation; the value is whether it was there. -/
def removeRecommendation (call : Call) (args : List Value) : Action Value := do
  let id ← .check (call.text args 0 "id")
  let known ← .view fun w => (shelved call w).contains id
  .modify (reshelve call (·.remove id))
  return .bool known

/-- Whether there is a recommendation of the id. -/
def hasRecommendation (call : Call) (args : List Value) : Action Value := do
  let id ← .check (call.text args 0 "id")
  .modify (reshelve call fun rs => rs)
  .view fun w => .bool ((shelved call w).contains id)

end CoachScript.Builtin

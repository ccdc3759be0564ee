import CoachScript.Eval.World

/-!
# Answers and hidden questions

A hidden question counts as not answered, whatever the host has stored: the host is not asked.
-/

namespace CoachScript.Builtin

/-- The coach whose context the call acts on. -/
def targetCoach (call : Call) (w : World) : Except Fault Coach := do
  let coachId := (call.context w).coachId
  if equalAsciiCase coachId call.scene.coach.id then pure call.scene.coach
  else
    match ← ofHost (w.host.coach coachId) with
    | some coach => pure coach
    | none => throw (.unknownCoach coachId)

/-- The stored answer to a question, unless it is hidden. -/
def shownAnswer (call : Call) (question : String) (w : World) : Except Fault (Option Answer) :=
  let c := call.context w
  if c.hidden.contains question then .ok none else ofHost (w.host.answer c.name question)

/-- Whether an option is part of the answer to its question. -/
def isSelected (call : Call) (args : List Value) (w : World) : Except Fault Value := do
  let optionId ← call.text args 0 "optionId"
  match owningQuestion? optionId with
  | none => throw (call.invalid (String.join [quoted optionId, " does not name a question option"]))
  | some question =>
    let answer? ← shownAnswer call question w
    pure (.bool (answer?.any (·.hasToken optionId)))

/-- Whether a question is answered. -/
def isAnswered (call : Call) (args : List Value) (w : World) : Except Fault Value := do
  let question ← call.text args 0 "questionId"
  let answer? ← shownAnswer call question w
  pure (.bool answer?.isSome)

/-- Whether a question is hidden. -/
def isHidden (call : Call) (args : List Value) (w : World) : Except Fault Value := do
  let question ← call.text args 0 "questionId"
  pure (.bool ((call.context w).hidden.contains question))

/-- Changes the hidden questions of the context that the call acts on. -/
def withHidden (call : Call) (hidden : Hidden) (w : World) : World :=
  w.modify call.target fun c => { c with hidden }

/-- Hides or shows one question; the value is whether that made a difference. -/
def hideOne (call : Call) (hide : Bool) (question : String) : Action Bool := do
  let changes ← .view fun w => (call.context w).hidden.changes question hide
  .modify fun w => withHidden call ((call.context w).hidden.set question hide) w
  return changes

/-- Hides or shows a question of the coach; the value is whether that made a difference. -/
def setHidden (call : Call) (args : List Value) : Action Value := do
  let question ← .check (call.text args 0 "questionId")
  let hide ← .check (call.boolean args 1 "hidden")
  let coach ← .look (targetCoach call)
  if (coach.question? question).isNone then .fail (.unknownQuestion question)
  else
    let changed ← hideOne call hide question
    return .bool changed

/-- Hides or shows questions one after another and counts the differences. -/
def hideEach (call : Call) (hide : Bool) : List String → Action Nat
  | [] => return 0
  | question :: more => do
    let changed ← hideOne call hide question
    let count ← hideEach call hide more
    return changed.toNat + count

/-- Hides or shows the coach's questions from one id up to, but not with, another; the value is how
many changed. -/
def setHiddenRange (call : Call) (args : List Value) : Action Value := do
  let low ← .check (call.text args 0 "low")
  let high ← .check (call.text args 1 "high")
  let hide ← .check (call.boolean args 2 "hidden")
  let coach ← .look (targetCoach call)
  let count ← hideEach call hide
    (coach.questionIds.filter fun id => decide (low ≤ id) && decide (id < high))
  return .ofInt count

end CoachScript.Builtin

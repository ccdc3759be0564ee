import CoachScript.Eval.World

/-!
# Scores and badges

Contributions to a score are kept under the source of the call that makes them.
-/

namespace CoachScript.Builtin

/-- Contributes to a score; the value is the new total. -/
def contribute (call : Call) (name : String) (entry : ScoreEntry) : Action Value := do
  .modify fun w => w.modify call.target fun c =>
    { c with scores := c.scores.push name (call.source w) entry }
  .view fun w => ((call.context w).scores.value name).toValue

/-- Adds a number to a score. -/
def addScore (call : Call) (args : List Value) : Action Value := do
  let name ← .check (call.text args 0 "name")
  let number ← .check (call.number args 1 "value")
  contribute call name (.value number)

/-- Limits a score. -/
def capScore (call : Call) (args : List Value) : Action Value := do
  let name ← .check (call.text args 0 "name")
  let limit ← .check (call.number args 1 "limit")
  contribute call name (.cap limit)

/-- The total of a score. -/
def getScore (call : Call) (args : List Value) (w : World) : Except Fault Value := do
  let name ← call.text args 0 "name"
  pure ((call.context w).scores.value name).toValue

/-- Changes the badges of the context that the call acts on. -/
def setBadges (call : Call) (badges : Badges) (w : World) : World :=
  w.modify call.target fun c => { c with badges }

/-- Takes a step of those badges that may fault. What it makes of the badges stays, even so. -/
def onBadges (call : Call) (f : Badges → Except ContextFault Unit × Badges) : Action Unit := fun w =>
  let (r, badges) := f (call.context w).badges
  (ofContext r, setBadges call badges w)

/-- The classes of a badge to be defined, which are all arguments but the first. -/
def classes (call : Call) (args : List Value) : Except Fault (List String) :=
  (List.range (args.length - 1)).mapM fun i => call.text args (i + 1) "class"

/-- Defines a badge and its classes. -/
def createBadge (call : Call) (args : List Value) : Action Value := do
  let name ← .check (call.text args 0 "name")
  let ranks ← .check (classes call args)
  .modify fun w => setBadges call ((call.context w).badges.create name ranks) w
  return .bool true

/-- Awards a class of a badge. -/
def awardBadge (call : Call) (args : List Value) : Action Value := do
  let name ← .check (call.text args 0 "name")
  let rank ← .check (call.text args 1 "class")
  onBadges call (·.grant name rank)
  return .bool true

/-- Takes the award of a badge back; the value is whether there was one. -/
def revokeBadge (call : Call) (args : List Value) : Action Value := do
  let name ← .check (call.text args 0 "name")
  let held ← .view fun w => (call.context w).badges.isAwarded name
  .modify fun w => setBadges call ((call.context w).badges.revoke name) w
  return .bool held

/-- Whether a badge is awarded, in a given class if there is a second argument. -/
def hasBadge (call : Call) (args : List Value) (w : World) : Except Fault Value := do
  let name ← call.text args 0 "name"
  let rank? ← if args.length = 2 then some <$> call.text args 1 "class" else pure none
  let has ← ofContext ((call.context w).badges.has name rank?)
  pure (.bool has)

/-- The class of a badge that is awarded, or `NULL`. -/
def getBadge (call : Call) (args : List Value) (w : World) : Except Fault Value := do
  let name ← call.text args 0 "name"
  let awarded ← ofContext ((call.context w).badges.awarded name)
  pure (.ofText? awarded)

end CoachScript.Builtin

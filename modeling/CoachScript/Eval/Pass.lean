import CoachScript.Eval.Evaluate
import CoachScript.State.Hidden

/-!
# Passes

A pass runs the lines of a listing in order. A line starts its statements when its condition holds
and no line of its name has started in the pass. **A fault ends its line, never the pass**: what the
line did before it stays, its name counts as started, and the lines after it are tried.

* `runLine`: one line, and what became of it.
* `runLines`: a pass, and its `PassReport`. The names of the lines that started stay with the context.
* `World.revert`: takes back what a question contributed before: its contributions to scores in its
  own context and in those above, and its variables in its own context.
* `runQuestion`: reverts, then runs.
-/

namespace CoachScript

/-- A fault of one line of a pass. -/
structure LineFault where
  question : String
  /-- The place of the line in its listing, from zero. -/
  index : Nat
  line : String
  cause : Fault
deriving DecidableEq, Repr

/-- The wording of a line's fault. -/
def LineFault.message (f : LineFault) : String :=
  String.join
    [f.question, " line ", toString (f.index + 1), " `", f.line, "`: ", f.cause.message]

/-- What a pass did: how many lines started their statements, and the faults in line order. -/
structure PassReport where
  executed : Nat
  faults : List LineFault
deriving DecidableEq, Repr

namespace PassReport

/-- Nothing was run. -/
def empty : PassReport := ⟨0, []⟩

/-- Two reports, one after the other. -/
def append (r s : PassReport) : PassReport := ⟨r.executed + s.executed, r.faults ++ s.faults⟩

/-- The wording of the faults together. -/
def message (r : PassReport) : String :=
  String.join (toString r.faults.length :: " script line(s) faulted" ::
    r.faults.flatMap fun f => ["\n  ", f.message])

end PassReport

/-- What became of a line. -/
inductive LineOutcome where
  /-- The condition did not hold, or a line of the name had started. -/
  | skipped
  | ran
  /-- A fault, in the condition or after the statements had started. -/
  | faulted (started : Bool) (cause : Fault)
deriving DecidableEq, Repr

/-- The line started its statements. -/
def LineOutcome.started : LineOutcome → Bool
  | .skipped => false
  | .ran => true
  | .faulted started _ => started

/-- The fault of the line. -/
def LineOutcome.fault? : LineOutcome → Option Fault
  | .faulted _ cause => some cause
  | _ => none

/-- Runs one line, given the names that have started. -/
def runLine (scene : Scene) (fired : Fired) (line : Line) (w : World) : LineOutcome × World :=
  match evaluateTruth scene line.condition w with
  | (.error e, w) => (.faulted false e, w)
  | (.ok holds, w) =>
    if holds && fired.allows line.name then
      match evaluateAll scene line.statements w with
      | (.ok _, w) => (.ran, w)
      | (.error e, w) => (.faulted true e, w)
    else (.skipped, w)

/-- The report on one line. -/
def lineReport (scene : Scene) (index : Nat) (line : Line) (outcome : LineOutcome) : PassReport :=
  ⟨outcome.started.toNat,
    outcome.fault?.toList.map fun cause => ⟨scene.question, index, line.render, cause⟩⟩

/-- Runs the lines from number `index` on, given the names that have started; gives the report, and
the names that have started then. -/
def runFrom (scene : Scene) (index : Nat) (fired : Fired) :
    Listing → World → PassReport × Fired × World
  | [], w => (.empty, fired, w)
  | line :: more, w =>
    let (outcome, w) := runLine scene fired line w
    let fired := if outcome.started then fired.fire line.name else fired
    let (report, fired, w) := runFrom scene (index + 1) fired more w
    ((lineReport scene index line outcome).append report, fired, w)

/-- Leaves with a context the names of the lines that have started. -/
def World.leave (w : World) (id : ContextId) (fired : Fired) : World :=
  w.modify id fun c => { c with fired }

/-- Runs a listing. The pass alone has the names while it runs; it begins with none, and leaves with
its context those that have started. -/
def runLines (scene : Scene) (lines : Listing) (w : World) : PassReport × World :=
  let (report, fired, w) := runFrom scene 0 ∅ lines w
  (report, w.leave scene.active fired)

/-- Takes back what the scene's question contributed before, and forgets which lines started. -/
def World.revert (w : World) (scene : Scene) (keep : String) : World :=
  let qualified := qualifiedSource (w.get scene.active).name scene.question
  let w := w.modify scene.active fun c =>
    { c with
      scores := c.scores.revert scene.question
      memory := c.memory.revert scene.question keep
      fired := ∅ }
  (w.contexts.ancestors scene.active).foldl
    (fun w id => w.modify id fun c => { c with scores := c.scores.revert qualified }) w

/-- Evaluates a question anew: takes back what it contributed before, and runs a listing. -/
def runQuestion (scene : Scene) (keep : String) (lines : Listing) (w : World) :
    PassReport × World :=
  runLines scene lines (w.revert scene keep)

end CoachScript

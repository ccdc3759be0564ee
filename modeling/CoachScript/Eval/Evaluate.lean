import CoachScript.Builtin.Run

/-!
# Evaluation

A literal is its own value. A call is checked first: an unknown command or a wrong number of
arguments faults before any argument is touched. Then the arguments are evaluated from left to
right, in the active context, and the command runs in the context that the call's path leads to.
`if` evaluates its condition and then only the branch that it chooses.

* `evaluate`, `evaluateAll`: the value of an expression, and of several in turn.
* `evaluateChoice`: the value of the arguments of `if`.
* `evaluateTruth`: the value of a condition.
-/

namespace CoachScript

mutual

/-- The value of an expression. -/
def evaluate (scene : Scene) : Expr → Action Value
  | .value v => .pure v
  | .call path name args =>
    match scene.commands.find? name with
    | none => .fail (.unknownCommand name)
    | some command =>
      if command.arity.accepts args.length then
        if command = .choose then evaluateChoice scene args
        else
          .bind (evaluateAll scene args) fun vs w =>
            command.run ⟨name, scene, w.contexts.resolve scene.active path⟩ vs w
      else .fail (.arity name command.arity.text args.length)

/-- The values of expressions, in turn. -/
def evaluateAll (scene : Scene) : List Expr → Action (List Value)
  | [] => .pure []
  | e :: es =>
    .bind (evaluate scene e) fun v => .bind (evaluateAll scene es) fun vs => .pure (v :: vs)

/-- The value of the branch that a condition chooses: the first if it holds, else the second. -/
def evaluateChoice (scene : Scene) : List Expr → Action Value
  | [] => .pure .null
  | condition :: branches =>
    .bind (evaluate scene condition) fun v =>
      .bind (.look fun _ => truth (String.ofList v.source) v) fun holds =>
        evaluateAt scene (if holds then 0 else 1) branches

/-- The value of the expression at a place, `NULL` if there is none. -/
def evaluateAt (scene : Scene) : Nat → List Expr → Action Value
  | _, [] => .pure .null
  | 0, e :: _ => evaluate scene e
  | n + 1, _ :: es => evaluateAt scene n es

end

/-- The truth value of an expression. -/
def evaluateTruth (scene : Scene) (e : Expr) : Action Bool :=
  .bind (evaluate scene e) fun v => .look fun _ => truth e.render v

end CoachScript
